import RepoRules.Decode.Fault
import RepoRules.Json.Reader

/-!
Reads records out of JSON. A record is an object, whose fields are read in the order of their
names, or a list of its fields in the order in which they are declared. A record that is read as it
is written in a text has its fields in the order of the text and none of them twice, and what other
fields hold does not matter.
-/

namespace RepoRules.Decode

/-- Whether a field may be missing from an object, and from a list. -/
inductive Presence where
  | required
  /-- May be missing from an object only. -/
  | optional
  | defaulted
deriving Repr, DecidableEq

/-- A field of a record of type `α`: how its value is entered. -/
structure RecordField (α : Type) where
  name : String
  presence : Presence
  read : α → Json → Except Fault α

def refuse (value : Json) (expected : String) : Except Fault α :=
  .error (.wrongType (.ofJson value) expected)

def natural (value : Json) : Except Fault Nat :=
  match value with
  | .int number =>
      if 0 ≤ number then .ok number.toNat else .error (.wrongValue (.int number) "u64")
  | other => refuse other "u64"

def text (value : Json) : Except Fault String :=
  match value with
  | .string text => .ok text
  | other => refuse other "a string"

def flag (value : Json) : Except Fault Bool :=
  match value with
  | .bool flag => .ok flag
  | other => refuse other "a boolean"

def list (read : Json → Except Fault α) (value : Json) : Except Fault (List α) :=
  match value with
  | .array items => items.mapM read
  | other => refuse other "a sequence"

def optional (read : Json → Except Fault α) (value : Json) : Except Fault (Option α) :=
  if value.isNull then .ok none else (read value).map some

def readField (fields : List (RecordField α)) (record : α) (name : String) (value : Json) :
    Except Fault α :=
  match fields.find? fun field => field.name == name with
  | some field => field.read record value
  | none => .ok record

def readInOrder (expected : String) : (position : Nat) → List (RecordField α) → List Json → α →
    Except Fault α
  | _, [], _, record => .ok record
  | position, field :: fields, [], record =>
      if field.presence = .defaulted then readInOrder expected (position + 1) fields [] record
      else .error (.wrongLength position expected)
  | position, field :: fields, value :: values, record => do
      readInOrder expected (position + 1) fields values (← field.read record value)

def elementsText (count : Nat) : String :=
  toString count ++ (if count = 1 then " element" else " elements")

def record (name : String) (fields : List (RecordField α)) (start : α) (value : Json) :
    Except Fault α := do
  match value with
  | .object entries =>
      let read ← entries.foldlM (fun record entry => readField fields record entry.1 entry.2) start
      let missing := fields.find? fun field =>
        field.presence == .required && (entries.lookup field.name).isNone
      match missing with
      | some field => throw (.missingField field.name)
      | none => return read
  | .array items =>
      let expected := "struct " ++ name ++ " with " ++ elementsText fields.length
      let read ← readInOrder expected 0 fields items start
      if fields.length < items.length then
        throw (.wrongLength items.length "fewer elements in array")
      return read
  | other => refuse other ("struct " ++ name)

/-! ## As it is written

Where a number, a text or the name of a field has no value, there is no fault to tell of. -/

open Json (Written)

/-- How something is read as it is written. -/
abbrev Reading (α : Type) := Written → Except (Option Fault) α

def valueOf (read : Json → Except Fault α) : Reading α := fun written =>
  match written.value? with
  | some value => (read value).mapError some
  | none => .error none

def listOf (read : Reading α) : Reading (List α)
  | .array items => items.mapM read
  | other => valueOf (refuse · "a sequence") other

/-- Reads an entry of an object, with the names of the fields in front of it. -/
def readEntry (fields : List (RecordField α)) (read : α × List String)
    (entry : Option String × Written) : Except (Option Fault) (α × List String) :=
  match entry.1 with
  | none => .error none
  | some name =>
      match fields.find? fun field => field.name == name with
      | none => .ok read
      | some field =>
          if read.2.contains name then .error (some (.duplicateField name))
          else do return (← valueOf (field.read read.1) entry.2, name :: read.2)

def recordOf (name : String) (fields : List (RecordField α)) (start : α) : Reading α
  | .object entries => do
      let (read, names) ← entries.foldlM (readEntry fields) (start, [])
      let missing := fields.find? fun field =>
        field.presence == .required && !names.contains field.name
      match missing with
      | some field => throw (some (.missingField field.name))
      | none => return read
  | other => valueOf (record name fields start) other

end RepoRules.Decode
