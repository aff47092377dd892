import RepoRules.Decimal.Shortest
import RepoRules.Json.Value
import RepoRules.Text.Digit
import RepoRules.Yaml.Scalar

/-!
What a plain scalar means: null, a truth value, a number, or else its own text.
-/

namespace RepoRules.Yaml

inductive Plain where
  | null
  | bool (flag : Bool)
  | int (number : Int)
  | float (number : Float)
  | text
  /-- An integer beyond 64 bits. -/
  | oversized

namespace Plain

/-- The number written by one or more digits of a base, and by nothing else. -/
def natural? (base : Nat) (digits : List Char) : Option Nat :=
  if digits.isEmpty then none
  else Text.numberOf? base digits

/-- A number in the base that its mark names, decimal without a mark. -/
def marked? : List Char → Option Nat
  | '0' :: 'x' :: digits => natural? 16 digits
  | '0' :: 'o' :: digits => natural? 8 digits
  | '0' :: 'b' :: digits => natural? 2 digits
  | digits => natural? 10 digits

/-- Digits behind a leading zero are no number. -/
def hasLeadingZero (digits : List Char) : Bool :=
  digits.length > 1 && digits.head? == some '0' && digits.all Char.isDigit

def withoutSign : List Char → List Char
  | '+' :: rest | '-' :: rest => rest
  | written => written

/-- An integer with an optional sign. Those of more than 128 bits are not counted as integers. -/
def integer? (written : List Char) : Option Int := do
  if hasLeadingZero (withoutSign written) then none
  let magnitude ← marked? (withoutSign written)
  if written.head? = some '-' then
    if magnitude ≤ Nat.pow 2 127 then some (-Int.ofNat magnitude) else none
  else if magnitude < Nat.pow 2 128 then some (Int.ofNat magnitude) else none

/-- The digits in front of a part and the rest. -/
def splitDigits (characters : List Char) : List Char × List Char :=
  (characters.takeWhile Char.isDigit, characters.dropWhile Char.isDigit)

/-- An exponent, which may be missing. -/
def exponent? : List Char → Option Int
  | [] => some 0
  | mark :: rest =>
      if mark = 'e' ∨ mark = 'E' then
        let digits := withoutSign rest
        if digits.isEmpty || !digits.all Char.isDigit then none
        else if rest.head? = some '-' then some (-Int.ofNat (Text.digitsValue digits))
        else some (Int.ofNat (Text.digitsValue digits))
      else none

/-- A decimal number: digits with an optional point among them, and an optional exponent. -/
def decimal? (written : List Char) : Option Float := do
  let (whole, rest) := splitDigits (withoutSign written)
  let (fraction, rest) := match rest with
    | '.' :: rest => splitDigits rest
    | rest => ([], rest)
  if whole.isEmpty && fraction.isEmpty then none
  let exponent ← exponent? rest
  let digits := whole ++ fraction
  let magnitude :=
    Decimal.nearest (Text.digitsValue digits) digits.length (exponent - Int.ofNat fraction.length)
  let number := if written.head? = some '-' then -magnitude else magnitude
  if number.isFinite then some number else none

def infinity : Float := 1.0 / 0.0

def notANumber : Float := 0.0 / 0.0

def float? (text : String) : Option Float :=
  match text with
  | ".inf" | ".Inf" | ".INF" | "+.inf" | "+.Inf" | "+.INF" => some infinity
  | "-.inf" | "-.Inf" | "-.INF" => some (-infinity)
  | ".nan" | ".NaN" | ".NAN" => some notANumber
  | _ => decimal? text.toList

def isNullText (text : String) : Bool :=
  ["null", "Null", "NULL", "~"].contains text

def bool? (text : String) : Option Bool :=
  if ["true", "True", "TRUE"].contains text then some true
  else if ["false", "False", "FALSE"].contains text then some false
  else none

def ofInteger (number : Int) : Plain :=
  if Json.minSigned ≤ number ∧ number ≤ Json.maxUnsigned then .int number else .oversized

/-- The meaning of a plain scalar. -/
def read (text : String) : Plain :=
  if text.isEmpty || isNullText text then .null
  else match bool? text with
    | some flag => .bool flag
    | none =>
        match integer? text.toList with
        | some number => ofInteger number
        | none =>
            if hasLeadingZero (withoutSign text.toList) then .text
            else match float? text with
              | some number => .float number
              | none => .text

end Plain

end RepoRules.Yaml
