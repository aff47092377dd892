import RepoRules.Metadata.Markup

/-!
Header blocks. A body announces its fields by a block of lines; a set of line beginnings says how
such a block looks. The fields are on the lines behind the block.
-/

namespace RepoRules

structure MetadataSettings where
  headers : List (List String)
  contentUrls : List String
  parser : Option String
deriving Repr, Inhabited

/-- The fields behind a block, and the lines of the block. -/
structure HeaderMatch where
  fields : Metadata
  headerLines : List String

namespace Headers

/-- Whether the lines begin with a block: one line for each beginning, in order. Every line has
the empty beginning. -/
def beginsWith : (block lines : List String) → Bool
  | [], _ => true
  | _ :: _, [] => false
  | beginning :: block, line :: lines => Text.startsWith line beginning && beginsWith block lines

def findBlock? (block : List String) : (lines : List String) → Option Nat
  | [] => none
  | line :: lines =>
      if !block.isEmpty && beginsWith block (line :: lines) then some 0
      else (findBlock? block lines).map (· + 1)

/-- Enters the field that a line states, if it states one. -/
def addField (parser : Pattern) (fields : Metadata) (line : String) : Metadata :=
  match parser.captures? (Text.trim line) with
  | some (_ :: some name :: some value :: _) =>
      let name := Text.lower (Text.trim name)
      if name.isEmpty then fields else fields.insert name (Markup.strip value)
  | _ => fields

def fieldsOf (parser : Pattern) (lines : List String) : Metadata :=
  lines.foldl (addField parser) .empty

def findSet? (lines : List String) : (sets : List (List String)) → Option (List String × Nat)
  | [] => none
  | block :: sets =>
      match findBlock? block lines with
      | some first => some (block, first)
      | none => findSet? lines sets

/-- Looks for a header block and reads the lines behind it. -/
def scan (settings : MetadataSettings) (body : String) : Option HeaderMatch := do
  let parser ← (Pattern.parse (← settings.parser)).toOption
  let lines := Text.lines body
  let (block, first) ← findSet? lines settings.headers
  let stop := first + block.length
  return ⟨fieldsOf parser (lines.drop stop), (lines.drop first).take block.length⟩

def contentUrl? (patterns : List String) (text : String) : Option String :=
  patterns.findSome? fun source =>
    match Pattern.parse source with
    | .ok pattern => pattern.firstText? text
    | .error _ => none

end Headers

end RepoRules
