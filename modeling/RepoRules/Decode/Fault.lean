import RepoRules.Json.Writer
import RepoRules.Text.Quoted

/-!
Why a tree of plain values does not have the shape that is asked for. The value that was found is
described by its kind, and scalars also by their text.
-/

namespace RepoRules.Decode

/-- What stands where something else is expected. -/
inductive Found where
  | null
  /-- The null of documents that call it the unit value. -/
  | unit
  | bool (flag : Bool)
  | int (number : Int)
  | float (number : Float)
  | string (text : String)
  | sequence
  | map
  | tagged

def Found.description : Found → String
  | .null => "null"
  | .unit => "unit value"
  | .bool true => "boolean `true`"
  | .bool false => "boolean `false`"
  | .int number => "integer `" ++ toString number ++ "`"
  | .float number => "floating point `" ++ Json.floatText number ++ "`"
  | .string text => "string " ++ Text.quoted text
  | .sequence => "sequence"
  | .map => "map"
  | .tagged => "enum"

def Found.ofJson : Json → Found
  | .null => .null
  | .bool flag => .bool flag
  | .int number => .int number
  | .float number => .float number
  | .string text => .string text
  | .array _ => .sequence
  | .object _ => .map

inductive Fault where
  | missingField (name : String)
  | duplicateField (name : String)
  | unknownField (name : String) (known : List String)
  | wrongType (found : Found) (expected : String)
  | wrongValue (found : Found) (expected : String)
  | wrongLength (length : Nat) (expected : String)

def Fault.message : Fault → String
  | .missingField name => "missing field `" ++ name ++ "`"
  | .duplicateField name => "duplicate field `" ++ name ++ "`"
  | .unknownField name known =>
      "unknown field `" ++ name ++ "`, expected one of " ++
        ", ".intercalate (known.map fun field => "`" ++ field ++ "`")
  | .wrongType found expected =>
      "invalid type: " ++ found.description ++ ", expected " ++ expected
  | .wrongValue found expected =>
      "invalid value: " ++ found.description ++ ", expected " ++ expected
  | .wrongLength length expected =>
      "invalid length " ++ toString length ++ ", expected " ++ expected

end RepoRules.Decode
