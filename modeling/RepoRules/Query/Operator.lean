import RepoRules.Query.Memory
import RepoRules.Text.Pieces

/-!
The operators of the query language on values. Integers have 64 bits and an operation that leaves
that range fails; an integer beside a double counts as a double. Values of different types are
never equal and never smaller or larger than one another, numbers and characters beside strings
apart.
-/

namespace RepoRules.Query

def fitsInteger (number : Int) : Bool :=
  Json.minSigned ≤ number && number ≤ Json.maxSigned

def failure (cause : Cause) : Failure := ⟨cause, none⟩

def checked (operation : Arithmetic) (left right result : Int) : Except Failure Value :=
  if fitsInteger result then .ok (.int result)
  else .error (failure (.overflow operation left right))

def Binary.ofFloat (number : Float) : Bool × Decimal.Binary :=
  (Decimal.isNegative number, Decimal.Binary.ofBits number.toBits)

/-- The remainder of a division that rounds toward zero, with the sign of the dividend. It is
computed exactly on the common grid of both numbers. -/
def floatRemainder (left right : Float) : Float :=
  if !left.isFinite || right.isNaN || right == 0.0 then 0.0 / 0.0
  else if right.isInf then left
  else
    let (negative, dividend) := Binary.ofFloat left
    let (_, divisor) := Binary.ofFloat right
    let grid := min dividend.exponent divisor.exponent
    let scaledDividend := dividend.mantissa * Nat.pow 2 (dividend.exponent - grid).toNat
    let scaledDivisor := divisor.mantissa * Nat.pow 2 (divisor.exponent - grid).toNat
    let magnitude := Float.scaleB (Float.ofNat (scaledDividend % scaledDivisor)) grid
    if negative then -magnitude else magnitude

/-- A power of integers, unless the exponent is out of bounds or the result does not fit. -/
def integerPower (base exponent : Int) : Except Failure Value :=
  if 0x100000000 ≤ exponent then .error (failure (.overflow .power base exponent))
  else if exponent < 0 then .error (failure (.negativePower base exponent))
  else if base = 0 ∨ base = 1 ∨ base = -1 then
    .ok (.int (if exponent = 0 then 1 else if base = -1 ∧ exponent % 2 = 0 then 1 else base))
  else if 64 ≤ exponent then .error (failure (.overflow .power base exponent))
  else checked .power base exponent (Int.pow base exponent.toNat)

def bits (number : Int) : Nat := (number % 0x10000000000000000).toNat

def ofBits (bits : Nat) : Int :=
  (bits : Int).bmod 0x10000000000000000

/-- Bits that leave on either side are lost; a negative amount shifts the other way. -/
def shiftLeft (number amount : Int) : Int :=
  if 0 ≤ amount then (if 64 ≤ amount then 0 else ofBits (bits number * Nat.pow 2 amount.toNat))
  else if 64 ≤ -amount then (if number < 0 then -1 else 0)
  else number / (Nat.pow 2 (-amount).toNat : Nat)

def concatenate (left right : List (String × Value)) : List (String × Value) :=
  right.foldl (fun entries entry => insertByName entry.1 entry.2 entries) left

/-- Removes every occurrence of `piece`; an empty text has the piece itself as result. -/
def without (text piece : String) : String :=
  if piece.isEmpty then text else if text.isEmpty then piece else Text.replaceAll text piece ""

namespace Value

mutual

def equals : Value → Value → Bool
  | .unit, .unit => true
  | .bool left, .bool right => left == right
  | .int left, .int right => left == right
  | .float left, .float right => left == right
  | .int left, .float right => Float.ofInt left == right
  | .float left, .int right => left == Float.ofInt right
  | .char left, .char right => left == right
  | .string left, .string right => left == right
  | .char left, .string right => left.toString == right
  | .string left, .char right => left == right.toString
  | .array left, .array right => equalsItems left right
  | .map left, .map right => equalsEntries left right
  | .range first last inclusive, .range first' last' inclusive' =>
      first == first' && last == last' && inclusive == inclusive'
  | _, _ => false

def equalsItems : List Value → List Value → Bool
  | [], [] => true
  | left :: lefts, right :: rights => equals left right && equalsItems lefts rights
  | _, _ => false

def equalsEntries : List (String × Value) → List (String × Value) → Bool
  | [], [] => true
  | (name, left) :: lefts, (name', right) :: rights =>
      name == name' && equals left right && equalsEntries lefts rights
  | _, _ => false

end

def asFloats? : Value → Value → Option (Float × Float)
  | .float left, .float right => some (left, right)
  | .int left, .float right => some (Float.ofInt left, right)
  | .float left, .int right => some (left, Float.ofInt right)
  | _, _ => none

def asTexts? : Value → Value → Option (String × String)
  | .string left, .string right => some (left, right)
  | .string left, .char right => some (left, right.toString)
  | .char left, .string right => some (left.toString, right)
  | .char left, .char right => some (left.toString, right.toString)
  | _, _ => none

end Value

def noFunction (name : String) (arguments : List Value) : Except Failure α :=
  .error (failure (.functionNotFound name (arguments.map Value.signatureName)))

inductive Comparison where
  | less
  | lessOrEqual
  | greater
  | greaterOrEqual
deriving Repr, DecidableEq

namespace Comparison

def name : Comparison → String
  | .less => "<"
  | .lessOrEqual => "<="
  | .greater => ">"
  | .greaterOrEqual => ">="

def holdsInt (comparison : Comparison) (left right : Int) : Bool :=
  match comparison with
  | .less => left < right
  | .lessOrEqual => left ≤ right
  | .greater => right < left
  | .greaterOrEqual => right ≤ left

def holdsFloat (comparison : Comparison) (left right : Float) : Bool :=
  match comparison with
  | .less => left < right
  | .lessOrEqual => left ≤ right
  | .greater => left > right
  | .greaterOrEqual => left ≥ right

def holdsText (comparison : Comparison) (left right : String) : Bool :=
  match comparison with
  | .less => left < right
  | .lessOrEqual => !(right < left)
  | .greater => right < left
  | .greaterOrEqual => !(left < right)

/-- Lists, maps and functions have no order, which matters when both sides are of one type. Truth
values are never smaller or larger than one another. -/
def apply (comparison : Comparison) (left right : Value) : Except Failure Value :=
  match left, right with
  | .int left, .int right => .ok (.bool (comparison.holdsInt left right))
  | .bool _, .bool _ => .ok (.bool false)
  | .array _, .array _ | .map _, .map _ | .range .., .range .. | .closure .., .closure .. =>
      noFunction comparison.name [left, right]
  | _, _ =>
      match left.asFloats? right, left.asTexts? right with
      | some (left, right), _ => .ok (.bool (comparison.holdsFloat left right))
      | none, some (left, right) => .ok (.bool (comparison.holdsText left right))
      | none, none => .ok (.bool false)

end Comparison

def sized (value : Value) : Except Failure Value :=
  if value.textSize ≤ textLimit then .ok value else .error (failure .tooLong)

def add (left right : Value) : Except Failure Value :=
  match left, right with
  | .int left, .int right => checked .addition left right (left + right)
  | .array left, .array right => sized (.array (left ++ right))
  | .map left, .map right => sized (.map (concatenate left right))
  | .string left, right => sized (.string (left ++ right.text))
  | left, .string right => sized (.string (left.text ++ right))
  | .char left, .char right => .ok (.string (left.toString ++ right.toString))
  | _, _ =>
      match left.asFloats? right with
      | some (left, right) => .ok (.float (left + right))
      | none => noFunction "+" [left, right]

def subtract (left right : Value) : Except Failure Value :=
  match left, right with
  | .int left, .int right => checked .subtraction left right (left - right)
  | .string left, .string right => .ok (.string (without left right))
  | .string left, .char right => .ok (.string (without left right.toString))
  | _, _ =>
      match left.asFloats? right with
      | some (left, right) => .ok (.float (left - right))
      | none => noFunction "-" [left, right]

def multiply (left right : Value) : Except Failure Value :=
  match left, right with
  | .int left, .int right => checked .multiplication left right (left * right)
  | _, _ =>
      match left.asFloats? right with
      | some (left, right) => .ok (.float (left * right))
      | none => noFunction "*" [left, right]

/-- Integers are divided toward zero. -/
def divide (left right : Value) : Except Failure Value :=
  match left, right with
  | .int left, .int right =>
      if right = 0 then .error (failure (.divisionByZero left right))
      else checked .division left right (Int.tdiv left right)
  | _, _ =>
      match left.asFloats? right with
      | some (left, right) => .ok (.float (left / right))
      | none => noFunction "/" [left, right]

def remainder (left right : Value) : Except Failure Value :=
  match left, right with
  | .int left, .int right =>
      if right = 0 ∨ !fitsInteger (Int.tdiv left right) then
        .error (failure (.remainderByZero left right))
      else .ok (.int (Int.tmod left right))
  | _, _ =>
      match left.asFloats? right with
      | some (left, right) => .ok (.float (floatRemainder left right))
      | none => noFunction "%" [left, right]

def power (left right : Value) : Except Failure Value :=
  match left, right with
  | .int left, .int right => integerPower left right
  | _, _ =>
      match left.asFloats? right with
      | some (left, right) => .ok (.float (Float.pow left right))
      | none => noFunction "**" [left, right]

def bitwise (name : String) (onBits : Nat → Nat → Nat) (onBools : Bool → Bool → Bool)
    (left right : Value) : Except Failure Value :=
  match left, right with
  | .int left, .int right => .ok (.int (ofBits (onBits (bits left) (bits right))))
  | .bool left, .bool right => .ok (.bool (onBools left right))
  | _, _ => noFunction name [left, right]

def shift (name : String) (direction : Int) (left right : Value) : Except Failure Value :=
  match left, right with
  | .int left, .int right => .ok (.int (shiftLeft left (direction * right)))
  | _, _ => noFunction name [left, right]

/-- The unit stands for a missing bound: zero in front, the largest integer behind. -/
def range (name : String) (inclusive : Bool) (left right : Value) : Except Failure Value :=
  match left, right with
  | .int first, .int last => .ok (.range first last inclusive)
  | .int first, .unit => .ok (.range first Json.maxSigned inclusive)
  | .unit, .int last => .ok (.range 0 last inclusive)
  | _, _ => noFunction name [left, right]

/-- Equality or its opposite; functions are not compared. -/
def equality (name : String) (equal : Bool) (left right : Value) : Except Failure Value :=
  match left, right with
  | .closure .., .closure .. => noFunction name [left, right]
  | _, _ => .ok (.bool (left.equals right == equal))

def binaryOperator? : String → Option (Value → Value → Except Failure Value)
  | "+" => some add
  | "-" => some subtract
  | "*" => some multiply
  | "/" => some divide
  | "%" => some remainder
  | "**" => some power
  | "==" => some (equality "==" true)
  | "!=" => some (equality "!=" false)
  | "<" => some Comparison.less.apply
  | "<=" => some Comparison.lessOrEqual.apply
  | ">" => some Comparison.greater.apply
  | ">=" => some Comparison.greaterOrEqual.apply
  | "&" => some (bitwise "&" Nat.land and)
  | "|" => some (bitwise "|" Nat.lor or)
  | "^" => some (bitwise "^" Nat.xor xor)
  | "<<" => some (shift "<<" 1)
  | ">>" => some (shift ">>" (-1))
  | ".." => some (range ".." false)
  | "..=" => some (range "..=" true)
  | _ => none

def unaryOperator? : String → Option (Value → Except Failure Value)
  | "-" => some fun
      | .int number =>
          if fitsInteger (-number) then .ok (.int (-number)) else .error (failure .negationOverflow)
      | .float number => .ok (.float (-number))
      | value => noFunction "-" [value]
  | "+" => some fun
      | .int number => .ok (.int number)
      | .float number => .ok (.float number)
      | value => noFunction "+" [value]
  | "!" => some fun
      | .bool flag => .ok (.bool (!flag))
      | value => noFunction "!" [value]
  | _ => none

end RepoRules.Query
