/-!
JSON values. Integers of 64 bits, signed or unsigned, are kept apart from doubles; the fields of
an object are kept in the order of their names, and a name occurs once.
-/

namespace RepoRules

inductive Json where
  | null
  | bool (flag : Bool)
  | int (number : Int)
  | float (number : Float)
  | string (text : String)
  | array (items : List Json)
  | object (fields : List (String × Json))
deriving Inhabited

namespace Json

/-- Puts a field where the order of names wants it, in place of an earlier one of that name. -/
def insertField (name : String) (value : Json) : List (String × Json) → List (String × Json)
  | [] => [(name, value)]
  | (other, held) :: rest =>
      if name = other then (name, value) :: rest
      else if name < other then (name, value) :: (other, held) :: rest
      else (other, held) :: insertField name value rest

def ofFields (fields : List (String × Json)) : Json :=
  .object (fields.foldl (fun sorted field => insertField field.1 field.2 sorted) [])

def field? (name : String) : Json → Option Json
  | .object fields => fields.lookup name
  | _ => none

def path? (value : Json) : List String → Option Json
  | [] => some value
  | name :: names => (value.field? name).bind fun inner => inner.path? names

def string? : Json → Option String
  | .string text => some text
  | _ => none

def bool? : Json → Option Bool
  | .bool flag => some flag
  | _ => none

def array? : Json → Option (List Json)
  | .array items => some items
  | _ => none

def fields? : Json → Option (List (String × Json))
  | .object fields => some fields
  | _ => none

/-- The number when it is an integer that is not negative. -/
def natural? : Json → Option Nat
  | .int number => if 0 ≤ number then some number.toNat else none
  | _ => none

def isNull : Json → Bool
  | .null => true
  | _ => false

def isObject : Json → Bool
  | .object _ => true
  | _ => false

def strings (texts : List String) : Json :=
  .array (texts.map .string)

def ofOption (encode : α → Json) : Option α → Json
  | some value => encode value
  | none => .null

def minSigned : Int := -0x8000000000000000

def maxSigned : Int := 0x7fffffffffffffff

def maxUnsigned : Int := 0xffffffffffffffff

end Json

end RepoRules
