import RepoRules.Yaml.Node

/-!
Reads values of known types out of a YAML tree. Tags of the document's own are passed over where a
type is asked for, and null stands for an empty list or an empty mapping.
-/

namespace RepoRules.Yaml.Node

open Decode (Fault Found)

def untagged : Node → Node
  | .tagged _ node => node.untagged
  | node => node

def found : Node → Found
  | .null => .unit
  | .bool flag => .bool flag
  | .int number => .int number
  | .float number => .float number
  | .string text => .string text
  | .sequence _ => .sequence
  | .mapping _ => .map
  | .tagged _ _ => .tagged

def refuse (node : Node) (expected : String) : Except Fault α :=
  .error (.wrongType node.found expected)

/-- An integer of 64 bits with a sign. -/
def signed (node : Node) : Except Fault Int :=
  match node.untagged with
  | .int number =>
      if number ≤ Json.maxSigned then .ok number else .error (.wrongValue (.int number) "i64")
  | other => other.refuse "i64"

/-- An integer of 64 bits without a sign. -/
def unsigned (node : Node) : Except Fault Nat :=
  match node.untagged with
  | .int number =>
      if 0 ≤ number then .ok number.toNat else .error (.wrongValue (.int number) "u64")
  | other => other.refuse "u64"

def flag (node : Node) : Except Fault Bool :=
  match node.untagged with
  | .bool flag => .ok flag
  | other => other.refuse "a boolean"

def textAs (expected : String) (node : Node) : Except Fault String :=
  match node.untagged with
  | .string text => .ok text
  | other => other.refuse expected

def text (node : Node) : Except Fault String :=
  node.textAs "a string"

def optional (read : Node → Except Fault α) : Node → Except Fault (Option α)
  | .null => .ok none
  | node => (read node).map some

def list (read : Node → Except Fault α) (node : Node) : Except Fault (List α) :=
  match node.untagged with
  | .sequence items => items.mapM read
  | .null => .ok []
  | other => other.refuse "a sequence"

def entries (expected : String) (node : Node) : Except Fault (List (Node × Node)) :=
  match node.untagged with
  | .mapping entries => .ok entries
  | .null => .ok []
  | other => other.refuse expected

/-- Reads an entry of a mapping, next to the texts of the keys in front of it. A field that is known
may be there once: its key may be there again under a tag. -/
def recordField (known : List String) (field : α → String → Node → Except Fault α)
    (read : α × List String) (entry : Node × Node) : Except Fault (α × List String) := do
  let key ← entry.1.textAs "field identifier"
  if known.contains key && read.2.contains key then
    throw (.duplicateField key)
  return (← field read.1 key entry.2, key :: read.2)

/-- Reads a mapping field by field, in the order of the document. -/
def record (name : String) (known : List String) (field : α → String → Node → Except Fault α)
    (start : α) (node : Node) : Except Fault α := do
  let entries ← node.entries ("struct " ++ name)
  let (read, _) ← entries.foldlM (recordField known field) (start, [])
  return read

/-- A mapping from texts, in the order of the document. -/
def map (read : Node → Except Fault α) (node : Node) : Except Fault (OrderedMap α) := do
  let entries ← node.entries "a map"
  entries.foldlM (fun read' entry => do
    let key ← entry.1.text
    let value ← read entry.2
    return read'.insert key value) .empty

mutual

/-- The tree as JSON: keys must be texts, and a number that is no number of JSON becomes null. -/
def json : Node → Except Fault Json
  | .null => .ok .null
  | .bool flag => .ok (.bool flag)
  | .int number => .ok (.int number)
  | .float number => .ok (if number.isFinite then .float number else .null)
  | .string text => .ok (.string text)
  | .sequence items => (jsonItems items).map .array
  | .mapping entries => (jsonEntries "a string key" [] entries).map .object
  | .tagged tag node => (Node.tagged tag node).refuse "any valid JSON value"

def jsonItems : List Node → Except Fault (List Json)
  | [] => .ok []
  | node :: rest => do
      let first ← node.json
      let others ← jsonItems rest
      return first :: others

def jsonEntries (keyName : String) (read : List (String × Json)) :
    List (Node × Node) → Except Fault (List (String × Json))
  | [] => .ok read
  | (key, value) :: rest => do
      let name ← key.textAs keyName
      let value ← value.json
      jsonEntries "a string" (Json.insertField name value read) rest

end

end RepoRules.Yaml.Node
