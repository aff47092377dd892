import RepoRules.Json.Writer
import RepoRules.OrderedMap
import RepoRules.Pattern.Size
import RepoRules.Text.Blank
import RepoRules.Text.Fold
import RepoRules.Text.Lower
import RepoRules.Text.Pieces

/-!
Variables of a run and the templates that refer to them. Names are compared without blanks around
them and in lower case. A template is a query when it starts with `$expr:`; otherwise `$name$`
stands for the value of a variable.
-/

namespace RepoRules

structure VariableTable where
  values : OrderedMap String
deriving Inhabited

namespace VariableTable

def normalize (name : String) : String :=
  Text.lower (Text.trim name)

def empty : VariableTable := ⟨.empty⟩

def set (table : VariableTable) (name value : String) : VariableTable :=
  ⟨table.values.insert (normalize name) value⟩

def get? (table : VariableTable) (name : String) : Option String :=
  table.values.get? (normalize name)

def remove (table : VariableTable) (name : String) : VariableTable :=
  ⟨table.values.erase (normalize name)⟩

def contains (table : VariableTable) (name : String) : Bool :=
  table.values.contains (normalize name)

def size (table : VariableTable) : Nat :=
  table.values.size

def isEmpty (table : VariableTable) : Bool :=
  table.values.isEmpty

def extend (table : VariableTable) (entries : List (String × String)) : VariableTable :=
  entries.foldl (fun extended entry => extended.set entry.1 entry.2) table

def entries (table : VariableTable) : List (String × String) :=
  table.values.entries

/-- The names that a token can refer to, in the order of the table. -/
def tokenNames (table : VariableTable) : List (List Char) :=
  (table.values.keys.map String.toList).filter fun name => !name.isEmpty

/-- Whether the characters behind a dollar sign spell the name, up to case, and a second dollar
sign follows. -/
def closes (name after : List Char) : Bool :=
  (after.take name.length).map Text.foldChar == name.map Text.foldChar &&
    after[name.length]? == some '$'

/-- Replaces tokens from left to right. At each dollar sign the first name of the table that fits
is taken; what was put in is not looked at again. -/
def substituteChars (table : VariableTable) : List Char → List Char
  | [] => []
  | character :: rest =>
      if character = '$' then
        match table.tokenNames.find? fun name => closes name rest with
        | some name =>
            let written := rest.take name.length
            let replacement := match table.get? (String.ofList written) with
              | some value => value.toList
              | none => '$' :: written ++ ['$']
            replacement ++ substituteChars table (rest.drop (name.length + 1))
        | none => character :: substituteChars table rest
      else character :: substituteChars table rest
termination_by characters => characters.length
decreasing_by
  all_goals simp only [List.length_drop, List.length_cons]; omega

/-- A letter of a name in a pattern: all characters that are the same up to case. -/
def letterNode (character : Char) : Pattern.Node :=
  .one (.ofCodes (Text.foldClass character.toNat))

/-- The pattern that finds tokens: one of the names between two dollar signs. -/
def tokenPattern (names : List (List Char)) : Pattern.Node :=
  let ways := names.map fun name => .sequence (name.map letterNode)
  .sequence [letterNode '$', .group 1 (.alternation ways), letterNode '$']

/-- So many letters in all never make a pattern too large. -/
def ordinaryLetters : Nat := 10000

/-- Whether the names of a table make a pattern that is not too large. The automata are counted only
where there are very many letters. -/
def hasPattern (table : VariableTable) : Bool :=
  table.tokenNames.flatten.length ≤ ordinaryLetters || (tokenPattern table.tokenNames).fits

/-- The template with its tokens replaced. Without a pattern to find them it stays as it is. -/
def substitute (table : VariableTable) (template : String) : String :=
  if template.toList.contains '$' && table.hasPattern then
    String.ofList (table.substituteChars template.toList)
  else template

end VariableTable

namespace Template

def queryPrefix : String := "$expr:"

/-- The text of the query that a template is, if it is one. -/
def queryBody? (template : String) : Option String :=
  (Text.stripPrefix? (Text.trimStart template) queryPrefix).map Text.trim

/-- The text that a query result puts in place of its template: texts as they are, anything else
in compact form, null as nothing, blanks and quotes around it dropped. -/
def renderResult (result : Json) : String :=
  let text := match result with
    | .null => ""
    | .string text => text
    | other => other.compact
  let trimmed := Text.trim text
  if trimmed = "null" then "" else Text.trimBy (· == '"') trimmed

end Template

end RepoRules
