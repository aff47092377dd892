import RepoRules.Decimal.Layout
import RepoRules.Json.Value
import RepoRules.Text.Quoted

/-!
The written forms of JSON values: the compact one without any blanks, and the indented one with a
line for each item.
-/

namespace RepoRules.Json

/-- Doubles have the fewest digits that read back. They are written positionally, whole numbers
with `.0`, while the exponent of the first digit is at least -5 and at most 15; other exponents
are written out, with a sign. -/
def floatText (number : Float) : String :=
  let decimal := Decimal.shortest number
  let magnitude :=
    if decimal.digits = 0 then "0.0"
    else if -5 ≤ decimal.leading ∧ decimal.leading ≤ 15 then decimal.positional ".0"
    else decimal.exponential "+"
  if Decimal.isNegative number then "-" ++ magnitude else magnitude

/-- JSON has no form for the doubles that are not numbers, which are written as null. -/
def numberText (number : Float) : String :=
  if number.isFinite then floatText number else "null"

def escapeChar (character : Char) : List Char :=
  let code := character.toNat
  if character = '"' then ['\\', '"']
  else if character = '\\' then ['\\', '\\']
  else if code = 8 then ['\\', 'b']
  else if code = 9 then ['\\', 't']
  else if code = 10 then ['\\', 'n']
  else if code = 12 then ['\\', 'f']
  else if code = 13 then ['\\', 'r']
  else if code < 32 then
    ['\\', 'u', '0', '0', Text.hexDigitChar (code / 16), Text.hexDigitChar (code % 16)]
  else [character]

def stringText (text : String) : String :=
  String.ofList ('"' :: text.toList.flatMap escapeChar ++ ['"'])

mutual

def compact : Json → String
  | .null => "null"
  | .bool true => "true"
  | .bool false => "false"
  | .int number => toString number
  | .float number => numberText number
  | .string text => stringText text
  | .array items => "[" ++ ",".intercalate (compactItems items) ++ "]"
  | .object fields => "\x7b" ++ ",".intercalate (compactFields fields) ++ "\x7d"

def compactItems : List Json → List String
  | [] => []
  | item :: rest => compact item :: compactItems rest

def compactFields : List (String × Json) → List String
  | [] => []
  | (name, value) :: rest => (stringText name ++ ":" ++ compact value) :: compactFields rest

end

def indentation (depth : Nat) : String :=
  String.ofList (List.replicate (2 * depth) ' ')

def block (opening closing : String) (depth : Nat) (entries : List String) : String :=
  if entries.isEmpty then opening ++ closing
  else
    let inner := "\n" ++ indentation (depth + 1)
    opening ++ inner ++ ("," ++ inner).intercalate entries ++ "\n" ++ indentation depth ++ closing

mutual

/-- The form with two blanks of indentation for each level, `depth` levels deep. -/
def indented (depth : Nat) : Json → String
  | .array items => block "[" "]" depth (indentedItems (depth + 1) items)
  | .object fields => block "\x7b" "\x7d" depth (indentedFields (depth + 1) fields)
  | .null => "null"
  | .bool true => "true"
  | .bool false => "false"
  | .int number => toString number
  | .float number => numberText number
  | .string text => stringText text

def indentedItems (depth : Nat) : List Json → List String
  | [] => []
  | item :: rest => indented depth item :: indentedItems depth rest

def indentedFields (depth : Nat) : List (String × Json) → List String
  | [] => []
  | (name, value) :: rest =>
      (stringText name ++ ": " ++ indented depth value) :: indentedFields depth rest

end

end RepoRules.Json
