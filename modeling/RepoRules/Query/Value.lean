import RepoRules.Decimal.Layout
import RepoRules.Json.Value
import RepoRules.Query.Error
import RepoRules.Query.Syntax
import RepoRules.Text.Quoted

/-!
Values of the query language, their names, their texts, and the passage from and to JSON.
-/

namespace RepoRules.Query

/-- The entries of a map are in the order of their names. A closure carries the variables it took
from outside. -/
inductive Value where
  | unit
  | bool (flag : Bool)
  | int (number : Int)
  | float (number : Float)
  | char (character : Char)
  | string (text : String)
  | array (items : List Value)
  | map (entries : List (String × Value))
  | range (first last : Int) (inclusive : Bool)
  | closure (parameters : List String) (captured : List (String × Value)) (body : Expr)
deriving Inhabited

namespace Value

def typeName : Value → String
  | .unit => "()"
  | .bool _ => "bool"
  | .int _ => "i64"
  | .float _ => "f64"
  | .char _ => "char"
  | .string _ => "string"
  | .array _ => "array"
  | .map _ => "map"
  | .range _ _ false => "range"
  | .range _ _ true => "range="
  | .closure .. => "Fn"

/-- The name of a value's type where another type was expected: ranges have their long names. -/
def rawTypeName : Value → String
  | .range _ _ false => "core::ops::range::Range<i64>"
  | .range _ _ true => "core::ops::range::RangeInclusive<i64>"
  | value => value.typeName

/-- The name of a type inside the signature of a missing function. -/
def signatureName : Value → String
  | .string _ => "&str | ImmutableString | String"
  | value => value.typeName

mutual

def ofLiteral : Literal → Value
  | .unit => .unit
  | .bool flag => .bool flag
  | .int number => .int number
  | .float number => .float number
  | .char character => .char character
  | .string text => .string text
  | .array items => .array (ofLiterals items)
  | .map entries => .map (ofLiteralEntries entries)

def ofLiterals : List Literal → List Value
  | [] => []
  | item :: rest => ofLiteral item :: ofLiterals rest

def ofLiteralEntries : List (String × Literal) → List (String × Value)
  | [] => []
  | (name, item) :: rest => (name, ofLiteral item) :: ofLiteralEntries rest

end

def specialFloatText (number : Float) : String :=
  if number.isNaN then "NaN" else if number < 0.0 then "-inf" else "inf"

def signed (number : Float) (magnitude : String) : String :=
  if Decimal.isNegative number then "-" ++ magnitude else magnitude

/-- The text of a double: positional from 1e-13 up to, but not including, 1e13, outside of that
with an exponent. -/
def floatText (number : Float) : String :=
  if !number.isFinite then specialFloatText number
  else if number == 0.0 then "0.0"
  else
    let decimal := Decimal.shortest number
    let size := number.abs
    signed number <|
      if size ≥ 1e13 || size < 1e-13 then decimal.exponential "" else decimal.positional ".0"

/-- The text of a double inside a list or map: positional from 1e-4 up to, but not including,
1e16. -/
def nestedFloatText (number : Float) : String :=
  if !number.isFinite then specialFloatText number
  else if number == 0.0 then signed number "0.0"
  else
    let decimal := Decimal.shortest number
    let size := number.abs
    signed number <|
      if size ≥ 1e16 || size < 1e-4 then decimal.exponential "" else decimal.positional ".0"

/-- A range that reaches as far as possible is written without its last number. -/
def rangeText (first last : Int) (inclusive : Bool) : String :=
  toString first ++ (if inclusive then "..=" else "..") ++
    (if last = Json.maxSigned then "" else toString last)

mutual

/-- The text of a value inside a list or map. -/
def nestedText : Value → String
  | .unit => "()"
  | .bool true => "true"
  | .bool false => "false"
  | .int number => toString number
  | .float number => nestedFloatText number
  | .char character => character.toString
  | .string text => Text.quoted text
  | .array items => "[" ++ ", ".intercalate (itemTexts items) ++ "]"
  | .map entries => "#\x7b" ++ ", ".intercalate (entryTexts entries) ++ "\x7d"
  | .range first last inclusive => rangeText first last inclusive
  | .closure .. => "Fn"

def itemTexts : List Value → List String
  | [] => []
  | item :: rest => nestedText item :: itemTexts rest

def entryTexts : List (String × Value) → List String
  | [] => []
  | (name, value) :: rest => (Text.quoted name ++ ": " ++ nestedText value) :: entryTexts rest

end

def text : Value → String
  | .unit => ""
  | .float number => floatText number
  | .char character => character.toString
  | .string text => text
  | value => nestedText value

mutual

/-- A value made from JSON: integers beyond the signed range become doubles. -/
def ofJson : Json → Value
  | .null => .unit
  | .bool flag => .bool flag
  | .int number =>
      if Json.minSigned ≤ number ∧ number ≤ Json.maxSigned then .int number
      else .float (Float.ofInt number)
  | .float number => .float number
  | .string text => .string text
  | .array items => .array (ofJsonItems items)
  | .object fields => .map (ofJsonFields fields)

def ofJsonItems : List Json → List Value
  | [] => []
  | item :: rest => ofJson item :: ofJsonItems rest

def ofJsonFields : List (String × Json) → List (String × Value)
  | [] => []
  | (name, value) :: rest => (name, ofJson value) :: ofJsonFields rest

end

mutual

def toJson : Value → Json
  | .unit => .null
  | .bool flag => .bool flag
  | .int number => .int number
  | .float number => if number.isFinite then .float number else .string (specialFloatText number)
  | .string text => .string text
  | .array items => .array (toJsonItems items)
  | .map entries => .object (toJsonFields entries)
  | .char character => .string character.toString
  | .range first last inclusive => .string (rangeText first last inclusive)
  | .closure .. => .string "Fn"

def toJsonItems : List Value → List Json
  | [] => []
  | item :: rest => toJson item :: toJsonItems rest

def toJsonFields : List (String × Value) → List (String × Json)
  | [] => []
  | (name, value) :: rest => (name, toJson value) :: toJsonFields rest

end

mutual

def textSize : Value → Nat
  | .string text => text.utf8ByteSize
  | .array items => textSizeOfItems items
  | .map entries => textSizeOfEntries entries
  | _ => 0

def textSizeOfItems : List Value → Nat
  | [] => 0
  | item :: rest => textSize item + textSizeOfItems rest

def textSizeOfEntries : List (String × Value) → Nat
  | [] => 0
  | (_, value) :: rest => textSize value + textSizeOfEntries rest

end

end Value

namespace Literal

mutual

/-- Whether a value is just the one written: of the same type, doubles down to their bits. -/
def denotes : Literal → Value → Bool
  | .unit, .unit => true
  | .bool left, .bool right => left == right
  | .int left, .int right => left == right
  | .float left, .float right => left.toBits == right.toBits
  | .char left, .char right => left == right
  | .string left, .string right => left == right
  | .array items, .array values => denotesItems items values
  | .map entries, .map values => denotesEntries entries values
  | _, _ => false

def denotesItems : List Literal → List Value → Bool
  | [], [] => true
  | item :: items, value :: values => denotes item value && denotesItems items values
  | _, _ => false

def denotesEntries : List (String × Literal) → List (String × Value) → Bool
  | [], [] => true
  | (name, item) :: items, (name', value) :: values =>
      name == name' && denotes item value && denotesEntries items values
  | _, _ => false

end

end Literal

end RepoRules.Query
