import RepoRules.Pattern.Search
import RepoRules.Query.Eval
import RepoRules.Rules.Error
import RepoRules.Text.Ascii

/-!
Conditions of check steps. A list of conditions and a mapping of several hold when all of their
parts hold; a text alone is a query. Reading a group refuses whatever is no condition.
-/

namespace RepoRules

inductive Fact where
  | constant (flag : Bool)
  | hasLabel (labels : List String)
  | missingLabel (labels : List String)
  | titleMatches (pattern : Pattern)
  | bodyMatches (pattern : Pattern)
  | commentMatches (pattern : Pattern)
  | authorIn (logins : List String)
  | isPullRequest (expected : Bool)
  | variableEquals (name value : String)

inductive Condition where
  | fact (fact : Fact)
  | expression (source : String)
  | all (parts : List Condition)
  | any (parts : List Condition)
  | not (inner : Condition)

namespace Condition

def refuse (fault : CheckFault) : Except RuleError α :=
  .error (.invalidCheck fault)

def text (key : String) (value : Json) : Except RuleError String :=
  match value with
  | .string text => .ok text
  | _ => refuse (.expects key .text)

def texts (key : String) : Json → Except RuleError (List String)
  | .string text => .ok [text]
  | .array items => items.mapM (text key)
  | _ => refuse (.expects key .texts)

def pattern (key : String) (value : Json) : Except RuleError Pattern := do
  let source ← text key value
  (Pattern.parseIgnoringCase source).mapError fun fault => .invalidCheck (.pattern key fault)

/-- The text of a value that a variable is compared with; null and nothing are empty. -/
def scalarText : Option Json → String
  | none | some .null => ""
  | some (.string text) => text
  | some other => other.compact

def variableOf (key : String) : Json → Except RuleError Fact
  | .object fields =>
      match fields.lookup "name" with
      | some (.string name) => .ok (.variableEquals name (scalarText (fields.lookup "value")))
      | _ => refuse (.missingName key)
  | _ => refuse (.expects key .nameAndValue)

def expressionOf (source : String) : Except RuleError Condition :=
  if Query.compiles source then .ok (.expression source)
  else .error (.query (.compilation source))

def factOf (key : String) (value : Json) : Except RuleError Fact :=
  match Text.asciiLower key with
  | "has-label" => (texts key value).map .hasLabel
  | "missing-label" => (texts key value).map .missingLabel
  | "title-matches" => (pattern key value).map .titleMatches
  | "body-matches" => (pattern key value).map .bodyMatches
  | "comment-matches" => (pattern key value).map .commentMatches
  | "author-in" => (texts key value).map .authorIn
  | "is-pull-request" =>
      match value with
      | .bool flag => .ok (.isPullRequest flag)
      | _ => refuse (.expects key .flag)
  | "variable-equals" => variableOf key value
  | other => refuse (.unknown other)

/-- A single part stands for itself. -/
def allOf : List Condition → Condition
  | [part] => part
  | parts => .all parts

def named (key : String) (value : Json) (group : Unit → Except RuleError Condition)
    (list : Unit → Option (Except RuleError (List Condition))) : Except RuleError Condition :=
  match Text.asciiLower key with
  | "any" =>
      match list () with
      | some parts => parts.map .any
      | none => refuse (.expects key .list)
  | "not" => (group ()).map .not
  | "expr" => do expressionOf (← text key value)
  | _ => (factOf key value).map .fact

mutual

def ofGroup : Json → Except RuleError Condition
  | .array [] => refuse .emptyList
  | .array (item :: rest) => (ofGroups (item :: rest)).map .all
  | .object [] => refuse .emptyMapping
  | .object (field :: rest) => (ofFields (field :: rest)).map allOf
  | .string source => expressionOf source
  | .bool flag => .ok (.fact (.constant flag))
  | other => refuse (.unsupported other.compact)

def ofGroups : List Json → Except RuleError (List Condition)
  | [] => .ok []
  | item :: rest => do
      let first ← ofGroup item
      let others ← ofGroups rest
      return first :: others

def ofList : Json → Option (Except RuleError (List Condition))
  | .array items => some (ofGroups items)
  | _ => none

def ofFields : List (String × Json) → Except RuleError (List Condition)
  | [] => .ok []
  | (key, value) :: rest => do
      let first ← named key value (fun _ => ofGroup value) (fun _ => ofList value)
      let others ← ofFields rest
      return first :: others

end

end Condition

end RepoRules
