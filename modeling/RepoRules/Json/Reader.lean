import RepoRules.Json.Value
import RepoRules.Text.Digit

/-!
The reader of JSON text. It reads what is written by the standard's grammar first, and then takes the
values from it: integers that fit 64 bits stay integers, all other numbers become doubles, and there
are at most 127 levels of nesting. A number that is too large for a double and a text with half of a
surrogate pair are well written but have no value.
-/

namespace RepoRules.Json

inductive Number where
  | int (value : Int)
  | float (value : Float)

def Number.toJson : Number → Json
  | .int value => .int value
  | .float value => .float value

inductive Written where
  | null
  | bool (flag : Bool)
  | number (value : Option Number)
  | string (text : Option String)
  | array (items : List Written)
  | object (fields : List (Option String × Written))
deriving Inhabited

namespace Reader

def isSpace (character : Char) : Bool :=
  character == ' ' || character == '\n' || character == '\t' || character == '\r'

def skipSpace (characters : List Char) : List Char :=
  characters.dropWhile isSpace

def digitValue (character : Char) : Nat :=
  character.toNat - '0'.toNat

/-- The unit written by four hexadecimal digits, and what follows them. -/
def hexUnit? : List Char → Option (Nat × List Char)
  | a :: b :: c :: d :: rest => do
      let a ← Text.hexValue? a
      let b ← Text.hexValue? b
      let c ← Text.hexValue? c
      let d ← Text.hexValue? d
      some (((a * 16 + b) * 16 + c) * 16 + d, rest)
  | _ => none

/-- The character for a unit behind `\u`, and what follows it. A high surrogate must be followed by a
low one. -/
def escaped? (unit : Nat) (rest : List Char) : Option (Char × List Char) :=
  if 0xdc00 ≤ unit ∧ unit ≤ 0xdfff then none
  else if 0xd800 ≤ unit ∧ unit ≤ 0xdbff then
    match rest with
    | '\\' :: 'u' :: rest => do
        let (low, rest) ← hexUnit? rest
        if 0xdc00 ≤ low ∧ low ≤ 0xdfff then
          some (Char.ofNat (0x10000 + (unit - 0xd800) * 0x400 + (low - 0xdc00)), rest)
        else none
    | _ => none
  else some (Char.ofNat unit, rest)

def simpleEscape? : Char → Option Char
  | '"' => some '"'
  | '\\' => some '\\'
  | '/' => some '/'
  | 'b' => some '\x08'
  | 'f' => some '\x0c'
  | 'n' => some '\n'
  | 'r' => some '\r'
  | 't' => some '\t'
  | _ => none

/-- Reads a string behind its opening quote, with what was read of it, last character first, as long
as it is a text. `fuel` bounds the number of characters. -/
def stringBody : (fuel : Nat) → (reversed : Option (List Char)) → List Char →
    Option (Option String × List Char)
  | 0, _, _ => none
  | _ + 1, _, [] => none
  | _ + 1, reversed, '"' :: rest =>
      some (reversed.map fun reversed => String.ofList reversed.reverse, rest)
  | fuel + 1, reversed, '\\' :: 'u' :: rest => do
      let (unit, rest) ← hexUnit? rest
      match escaped? unit rest with
      | some (character, rest) => stringBody fuel (reversed.map (character :: ·)) rest
      | none => stringBody fuel none rest
  | fuel + 1, reversed, '\\' :: escape :: rest => do
      let character ← simpleEscape? escape
      stringBody fuel (reversed.map (character :: ·)) rest
  | fuel + 1, reversed, character :: rest =>
      if character.toNat < 32 ∨ character = '\\' then none
      else stringBody fuel (reversed.map (character :: ·)) rest

/-- The powers of ten that a double represents as well as it can, by repeated squaring in exact
arithmetic and one rounding. -/
def powerOfTen (exponent : Nat) : Float :=
  Float.ofScientific 1 false exponent

/-- Scales a significand by a power of ten. The significand is rounded first and divided or
multiplied once, so the last bit may differ from the nearest double. A number beyond the largest
double is refused. -/
def scaled? (significand : Float) (exponent : Int) : (fuel : Nat) → Option Float
  | 0 => some significand
  | fuel + 1 =>
      if exponent.natAbs ≤ 308 then
        if 0 ≤ exponent then
          let value := significand * powerOfTen exponent.toNat
          if value.isInf then none else some value
        else some (significand / powerOfTen exponent.natAbs)
      else if significand == 0.0 then some significand
      else if 0 ≤ exponent then none
      else scaled? (significand / powerOfTen 308) (exponent + 308) fuel

def ofParts? (negative : Bool) (significand : Nat) (exponent : Int) : Option Number := do
  let magnitude ← scaled? (Float.ofNat significand) exponent 8
  some (.float (if negative then -magnitude else magnitude))

/-- Digits are taken up while they fit 64 bits; the rest only counts. -/
structure Significand where
  value : Nat
  dropped : Nat
  full : Bool

def Significand.take (significand : Significand) (digit : Char) : Significand :=
  let value := significand.value * 10 + digitValue digit
  if significand.full || 0x10000000000000000 ≤ value then
    { significand with dropped := significand.dropped + 1, full := true }
  else { significand with value }

/-- The exponent behind `e`, if there is one. It stops growing at a bound that no double meets. -/
def exponent? : List Char → Option (Int × List Char)
  | marker :: rest =>
      if marker = 'e' ∨ marker = 'E' then
        let (negative, digits) := match rest with
          | '-' :: rest => (true, rest)
          | '+' :: rest => (false, rest)
          | rest => (false, rest)
        let shown := digits.takeWhile Char.isDigit
        if shown.isEmpty then none
        else
          let magnitude := shown.foldl
            (fun value digit => min (value * 10 + digitValue digit) 2147483647) 0
          some ((if negative then Int.negOfNat magnitude else Int.ofNat magnitude),
            digits.drop shown.length)
      else some (0, marker :: rest)
  | [] => some (0, [])

/-- Reads a number behind its sign. Its value is nothing if it is too large. -/
def number? (negative : Bool) (characters : List Char) : Option (Option Number × List Char) := do
  let whole := characters.takeWhile Char.isDigit
  let afterWhole := characters.drop whole.length
  if whole.isEmpty || (whole.head? == some '0' && 1 < whole.length) then none
  let (fraction, afterFraction) ← match afterWhole with
    | '.' :: rest =>
        let digits := rest.takeWhile Char.isDigit
        if digits.isEmpty then none else some (digits, rest.drop digits.length)
    | rest => some ([], rest)
  let (exponent, rest) ← exponent? afterFraction
  let shown := whole.foldl Significand.take ⟨0, 0, false⟩
  if fraction.isEmpty && !(afterFraction.head?.any fun mark => mark == 'e' || mark == 'E') then
    if shown.full then some (ofParts? negative shown.value shown.dropped, rest)
    else if negative then
      if shown.value = 0 then some (some (.float (-0.0)), rest)
      else if shown.value ≤ 0x8000000000000000 then
        some (some (.int (-(Int.ofNat shown.value))), rest)
      else some (some (.float (-(Float.ofNat shown.value))), rest)
    else some (some (.int shown.value), rest)
  else
    let all := fraction.foldl Significand.take { shown with full := false }
    let fractionTaken := Int.ofNat fraction.length - Int.ofNat (all.dropped - shown.dropped)
    some (ofParts? negative all.value (exponent + Int.ofNat shown.dropped - fractionTaken), rest)

mutual

/-- Reads what is written for one value. `fuel` bounds the recursion. -/
def written? : (fuel : Nat) → List Char → Option (Written × List Char)
  | 0, _ => none
  | fuel + 1, characters =>
      match skipSpace characters with
      | 'n' :: 'u' :: 'l' :: 'l' :: rest => some (.null, rest)
      | 't' :: 'r' :: 'u' :: 'e' :: rest => some (.bool true, rest)
      | 'f' :: 'a' :: 'l' :: 's' :: 'e' :: rest => some (.bool false, rest)
      | '"' :: rest => (stringBody fuel (some []) rest).map fun found => (.string found.1, found.2)
      | '-' :: rest => (number? true rest).map fun found => (.number found.1, found.2)
      | '[' :: rest =>
          match skipSpace rest with
          | ']' :: rest => some (.array [], rest)
          | rest => (items? fuel rest).map fun found => (.array found.1, found.2)
      | '\x7b' :: rest =>
          match skipSpace rest with
          | '\x7d' :: rest => some (.object [], rest)
          | rest => (fields? fuel rest).map fun found => (.object found.1, found.2)
      | rest => (number? false rest).map fun found => (.number found.1, found.2)

def items? : (fuel : Nat) → List Char → Option (List Written × List Char)
  | 0, _ => none
  | fuel + 1, characters => do
      let (item, rest) ← written? fuel characters
      match skipSpace rest with
      | ',' :: rest =>
          let (items, rest) ← items? fuel rest
          some (item :: items, rest)
      | ']' :: rest => some ([item], rest)
      | _ => none

def fields? : (fuel : Nat) → List Char → Option (List (Option String × Written) × List Char)
  | 0, _ => none
  | fuel + 1, characters =>
      match skipSpace characters with
      | '"' :: rest => do
          let (name, rest) ← stringBody fuel (some []) rest
          match skipSpace rest with
          | ':' :: rest =>
              let (value, rest) ← written? fuel rest
              match skipSpace rest with
              | ',' :: rest =>
                  let (fields, rest) ← fields? fuel rest
                  some ((name, value) :: fields, rest)
              | '\x7d' :: rest => some ([(name, value)], rest)
              | _ => none
          | _ => none
      | _ => none

end

end Reader

namespace Written

/-- Reads a text that holds what is written for one value and nothing else. -/
def ofText? (text : String) : Option Written := do
  let characters := text.toList
  let (written, rest) ← Reader.written? (2 * characters.length + 2) characters
  if (Reader.skipSpace rest).isEmpty then some written else none

mutual

/-- The value of what is written, with so many levels of nesting. -/
def valueWithin? : (depth : Nat) → Written → Option Json
  | _, .null => some .null
  | _, .bool flag => some (.bool flag)
  | _, .number value => value.map Number.toJson
  | _, .string text => text.map .string
  | 0, .array _ => none
  | depth + 1, .array items => (itemsWithin? depth items).map .array
  | 0, .object _ => none
  | depth + 1, .object fields => (fieldsWithin? depth fields).map ofFields

def itemsWithin? : (depth : Nat) → List Written → Option (List Json)
  | _, [] => some []
  | depth, item :: items => do
      some ((← valueWithin? depth item) :: (← itemsWithin? depth items))

def fieldsWithin? : (depth : Nat) → List (Option String × Written) → Option (List (String × Json))
  | _, [] => some []
  | depth, (name, value) :: fields => do
      some ((← name, ← valueWithin? depth value) :: (← fieldsWithin? depth fields))

end

def value? (written : Written) : Option Json :=
  written.valueWithin? 127

end Written

def parse? (text : String) : Option Json :=
  (Written.ofText? text).bind Written.value?

end RepoRules.Json
