import RepoRules.Toml.Scalar

/-!
TOML documents: keys, arrays, tables in braces, headers. A document is read statement by statement
into one table; a text that breaks the grammar, or gives a key twice, is none.
-/

namespace RepoRules.Toml

/-- How deep brackets and braces may nest. -/
def maxNesting : Nat := 79

/-- How many names a key may have. -/
def maxNames : Nat := 79

def comment : Scan Unit := do
  exactly "#"
  let _ ← takeWhile isPlain

/-- Takes the rest of a line, which holds nothing but a comment. -/
def lineEnd : Scan Unit := do
  skipBlanks
  let _ ← optional comment
  match ← peek with
  | none => return
  | some _ => exactly "\n"

def gaps : (inComment : Bool) → List Char → Option (List Char)
  | _, [] => some []
  | false, character :: rest =>
      if isBlank character || character == '\n' then gaps false rest
      else if character == '#' then gaps true rest
      else some (character :: rest)
  | true, character :: rest =>
      if character == '\n' then gaps false rest
      else if isPlain character then gaps true rest
      else none

def skipGaps : Scan Unit := fun text =>
  (gaps false text).map fun rest => ((), rest)

/-! ## Keys -/

def isBareKeyChar (character : Char) : Bool :=
  character.isAlphanum || character == '_' || character == '-'

def keyName : Scan String := do
  skipBlanks
  let bare : Scan String := do
    let first ← one isBareKeyChar
    return String.ofList (first :: (← takeWhile isBareKeyChar))
  let name ← shortString <|> bare
  skipBlanks
  return name

def key : (count : Nat) → Scan (List String × String)
  | 0 => failure
  | count + 1 => do
      let name ← keyName
      match ← optional (exactly ".") with
      | none => return ([], name)
      | some () =>
          let (path, last) ← key count
          return (name :: path, last)

/-! ## Values -/

/-- The values of an array up to its closing bracket. A comma may follow the last one. -/
def items (value : Scan Value) : (fuel : Nat) → Scan (List Value)
  | 0 => failure
  | fuel + 1 => do
      skipGaps
      match ← optional (exactly "]") with
      | some () => return []
      | none =>
          let item ← value
          skipGaps
          match ← optional (exactly ",") with
          | some () => return item :: (← items value fuel)
          | none =>
              exactly "]"
              return [item]

def array (value : Scan Value) : Scan Value := do
  exactly "["
  return .array (← items value ((← get).length + 1))

def entry (value : Scan Value) : Scan (List String × String × Value) := do
  let (path, name) ← key maxNames
  exactly "="
  skipBlanks
  return (path, name, ← value)

/-- The entries of a table in braces up to its closing brace. -/
def inlineEntries (value : Scan Value) : (fuel : Nat) → Table → Scan Table
  | 0, _ => failure
  | fuel + 1, table => do
      let (path, name, held) ← entry value
      skipBlanks
      let table : Table ← table.addEntry path name held
      match ← optional (exactly ",") with
      | some () => inlineEntries value fuel table
      | none =>
          exactly "\x7d"
          return table

def inlineTable (value : Scan Value) : Scan Value := do
  exactly "\x7b"
  skipBlanks
  match ← optional (exactly "\x7d") with
  | some () => return (Table.empty .inlined).value
  | none =>
      let table ← inlineEntries value (← get).length (.empty .inlined)
      return table.value

def value : (nesting : Nat) → Scan Value
  | 0 => scalar
  | nesting + 1 => array (value nesting) <|> inlineTable (value nesting) <|> scalar

/-! ## Statements -/

/-- What has been read of a document: its table, and the path of the table that is open. -/
structure Draft where
  root : Table
  current : List String

namespace Draft

def empty : Draft := ⟨.empty .stated, []⟩

def addEntry (draft : Draft) (path : List String) (name : String) (value : Value) :
    Option Draft := do
  let root ← draft.root.change false (Table.addEntry path name value) draft.current
  return { draft with root }

def openTable (draft : Draft) (path : List String) (name : String) : Option Draft := do
  return ⟨← draft.root.openTable path name, path ++ [name]⟩

def openRepeated (draft : Draft) (path : List String) (name : String) : Option Draft := do
  return ⟨← draft.root.openRepeated path name, path ++ [name]⟩

end Draft

def header (draft : Draft) : Scan Draft := do
  let repeated ← optional (exactly "[[")
  if repeated.isNone then exactly "["
  let (path, name) ← key maxNames
  exactly (if repeated.isNone then "]" else "]]")
  lineEnd
  if repeated.isNone then draft.openTable path name else draft.openRepeated path name

def statement (draft : Draft) : Scan Draft := do
  match ← peek with
  | some '#' | some '\n' =>
      lineEnd
      return draft
  | some '[' => header draft
  | _ =>
      let (path, name, held) ← entry (value maxNesting)
      lineEnd
      draft.addEntry path name held

def statements (draft : Draft) (text : List Char) : Option Draft :=
  match text.dropWhile isBlank with
  | [] => some draft
  | rest =>
      match statement draft rest with
      | some (after, left) => if left.length < text.length then statements after left else none
      | none => none
termination_by text.length

/-- Writes every line end as a line feed. -/
def unifyLineEnds : List Char → List Char
  | '\r' :: '\n' :: rest => '\n' :: unifyLineEnds rest
  | character :: rest => character :: unifyLineEnds rest
  | [] => []

/-- The table that a text describes. A mark of the byte order may stand in front. -/
def parse? (text : String) : Option Table := do
  let characters := match text.toList with
    | '\ufeff' :: rest => rest
    | characters => characters
  let draft ← statements .empty (unifyLineEnds characters)
  return draft.root

end RepoRules.Toml
