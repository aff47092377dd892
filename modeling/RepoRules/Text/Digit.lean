/-!
Digits in bases up to 36, in which letters count on from ten in either case, and natural numbers in
decimal digits, as settings and headers give them.
-/

namespace RepoRules.Text

def anyDigitValue? (character : Char) : Option Nat :=
  let code := character.toNat
  if 48 ≤ code ∧ code ≤ 57 then some (code - 48)
  else if 97 ≤ code ∧ code ≤ 122 then some (code - 87)
  else if 65 ≤ code ∧ code ≤ 90 then some (code - 55)
  else none

def digitValue? (base : Nat) (character : Char) : Option Nat :=
  (anyDigitValue? character).filter (· < base)

def hexValue? : Char → Option Nat := digitValue? 16

/-- The number that digits of a base write, zero if there are none. -/
def numberOf? (base : Nat) (digits : List Char) : Option Nat :=
  digits.foldlM (fun number digit => (digitValue? base digit).map (base * number + ·)) 0

def digitsValue (digits : List Char) : Nat :=
  digits.foldl (fun value digit => 10 * value + (digit.toNat - 48)) 0

def natural? (text : String) : Option Nat :=
  let digits := match text.toList with
    | '+' :: rest => rest
    | characters => characters
  if digits.isEmpty || !digits.all Char.isDigit then none
  else
    let value := digitsValue digits
    if value < 0x10000000000000000 then some value else none

end RepoRules.Text
