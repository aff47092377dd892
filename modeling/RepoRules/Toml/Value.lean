import RepoRules.Json.Value

/-!
TOML values. A table is built up line by line, so it says how it came about: that decides who may
still add to it.
-/

namespace RepoRules.Toml

/-- How a table came about. -/
inductive Origin where
  /-- A header names something in it, but none names the table itself. -/
  | implied
  /-- A dotted key names something in it. -/
  | dotted
  /-- It has a header. -/
  | stated
  /-- It is written in one piece, in braces. -/
  | inlined
deriving Repr, DecidableEq

inductive Value where
  | text (text : String)
  | integer (number : Int)
  | float (number : Float)
  | flag (value : Bool)
  /-- A date, a time of day, or both. -/
  | moment
  | array (items : List Value)
  | table (origin : Origin) (entries : List (String × Value))
  /-- Tables that have one header again and again. -/
  | tables (items : List (List (String × Value)))

structure Table where
  origin : Origin
  entries : List (String × Value)

def Table.value (table : Table) : Value :=
  .table table.origin table.entries

namespace Table

def empty (origin : Origin) : Table := ⟨origin, []⟩

def get? (table : Table) (name : String) : Option Value :=
  table.entries.lookup name

def put (table : Table) (name : String) (value : Value) : Table :=
  { table with
    entries := (name, value) :: table.entries.filter fun entry => entry.1 != name }

/-- Changes the table that a path leads to, making the tables that are missing on the way. Of
repeated tables the path leads into the last one. A dotted key leads only into tables without a
header of their own. -/
def change (dotted : Bool) (edit : Table → Option Table) : (path : List String) → Table →
    Option Table
  | [], table => edit table
  | name :: path, table =>
      match table.get? name with
      | none => do
          let fresh := empty (if dotted then .dotted else .implied)
          return table.put name (← change dotted edit path fresh).value
      | some (.table origin entries) => do
          if origin = .inlined ∨ dotted ∧ origin = .stated then none
          return table.put name (← change dotted edit path ⟨origin, entries⟩).value
      | some (.tables items) => do
          let last ← items.getLast?
          let changed ← change dotted edit path ⟨.stated, last⟩
          return table.put name (.tables (items.dropLast ++ [changed.entries]))
      | some _ => none

/-- Adds an entry under a key. No key is given twice, and a dotted key adds only to tables that came
about by dotted keys. -/
def addEntry (path : List String) (name : String) (value : Value) : Table → Option Table :=
  change true (fun table =>
    if (table.origin = .dotted ↔ path = []) ∨ (table.get? name).isSome then none
    else some (table.put name value)) path

/-- Opens the table of a header, which has had none so far. -/
def openTable (path : List String) (name : String) : Table → Option Table :=
  change false (fun table =>
    match table.get? name with
    | none => some (table.put name (.table .stated []))
    | some (.table .implied entries) => some (table.put name (.table .stated entries))
    | some _ => none) path

/-- Opens one more of repeated tables. -/
def openRepeated (path : List String) (name : String) : Table → Option Table :=
  change false (fun table =>
    match table.get? name with
    | none => some (table.put name (.tables [[]]))
    | some (.tables items) => some (table.put name (.tables (items ++ [[]])))
    | some _ => none) path

end Table

mutual

/-- The value as JSON. A moment has no settings in it, and so reads as an empty object. -/
def Value.toJson : Value → Json
  | .text text => .string text
  | .integer number => .int number
  | .float number => .float number
  | .flag value => .bool value
  | .moment => .object []
  | .array items => .array (listToJson items)
  | .table _ entries => Json.ofFields (entriesToJson entries)
  | .tables items => .array (tablesToJson items)

def listToJson : List Value → List Json
  | [] => []
  | item :: rest => item.toJson :: listToJson rest

def entriesToJson : List (String × Value) → List (String × Json)
  | [] => []
  | (name, value) :: rest => (name, value.toJson) :: entriesToJson rest

def tablesToJson : List (List (String × Value)) → List Json
  | [] => []
  | entries :: rest => Json.ofFields (entriesToJson entries) :: tablesToJson rest

end

end RepoRules.Toml
