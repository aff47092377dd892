import RepoRules.Json.Writer
import RepoRules.Rules.Error
import RepoRules.Text.Ascii
import RepoRules.Text.Blank
import RepoRules.Text.Pieces

/-!
Steps of a rules document. The key of an entry names what the step does: a word of its own such as
`check`, or a family and a suffix joined by a hyphen, such as `labels-add`. An entry that is no
step keeps its place in the sequence, together with the reason.
-/

namespace RepoRules

inductive Change where
  | add
  | remove
  | set
deriving Repr, DecidableEq

namespace Change

def name : Change → String
  | .add => "add"
  | .remove => "remove"
  | .set => "set"

def ofSuffix? : String → Option Change
  | "add" => some .add
  | "remove" => some .remove
  | "set" => some .set
  | _ => none

end Change

inductive FileMatch where
  | any
  | all
  | none
deriving Repr, DecidableEq

namespace FileMatch

def name : FileMatch → String
  | .any => "any"
  | .all => "all"
  | .none => "none"

def ofSuffix? : String → Option FileMatch
  | "any" => some .any
  | "all" => some .all
  | "none" => some .none
  | _ => Option.none

end FileMatch

/-- A step that changes something: the issue or pull request at hand, or a variable. -/
inductive Operation where
  | labels (change : Change) (values : List String)
  | assignees (change : Change) (values : List String)
  | reviewers (change : Change) (values : List String)
  | milestone (change : Change) (value : String)
  | project (change : Change) (value : String)
  | comment (template : String)
  | variable (change : Change) (name value : String)
deriving Repr, DecidableEq

inductive Action where
  | check (group : Json)
  | predefined (name : String)
  | operation (operation : Operation)

inductive Step where
  | action (action : Action)
  /-- Runs its body depending on the changed files. -/
  | files (mode : FileMatch) (pattern : String) (body : List Step)
  /-- A list inside a list, a sequence of its own. -/
  | group (steps : List Step)
  | malformed (key : String) (error : RuleError)

inductive StepKind where
  | check
  | predefined
  | comment
  | labels (change : Change)
  | assignees (change : Change)
  | reviewers (change : Change)
  | milestoneSet
  | milestoneRemove
  | projectAdd
  | projectRemove
  | variable (change : Change)
  | files (mode : FileMatch)
deriving Repr, DecidableEq

namespace StepKind

def change (family suffix : String) (kind : Change → StepKind) : Except RuleError StepKind :=
  match Change.ofSuffix? suffix with
  | some change => .ok (kind change)
  | none => .error (.invalidActionSubtype family suffix)

def ofFamily (key family suffix : String) : Except RuleError StepKind :=
  match family with
  | "labels" | "label" => change family suffix .labels
  | "assignees" | "assignee" => change family suffix .assignees
  | "reviewers" | "reviewer" => change family suffix .reviewers
  | "milestone" =>
      match suffix with
      | "set" => .ok .milestoneSet
      | "remove" => .ok .milestoneRemove
      | _ => .error (.invalidActionSubtype family suffix)
  | "project" =>
      match suffix with
      | "add" => .ok .projectAdd
      | "remove" => .ok .projectRemove
      | _ => .error (.invalidActionSubtype family suffix)
  | "variable" => change family suffix .variable
  | "files" =>
      match FileMatch.ofSuffix? suffix with
      | some mode => .ok (.files mode)
      | none => .error (.invalidActionSubtype family suffix)
  | _ => .error (.invalidActionType key)

def ofKey (key : String) : Except RuleError StepKind :=
  match key with
  | "check" => .ok .check
  | "predefined" => .ok .predefined
  | "comment" => .ok .comment
  | _ =>
      match Text.splitOnce? key '-' with
      | some (family, suffix) => ofFamily key family suffix
      | none => .error (.invalidActionType key)

end StepKind

namespace Step

def normalizeKey (key : String) : String :=
  Text.asciiLower (Text.trim key)

def body (key : String) (fault : BodyFault) : Except RuleError α :=
  .error (.malformedStep (.body key fault))

def scalar? : Json → Option String
  | .string text => some text
  | .int number => some (toString number)
  | .float number => some (Json.numberText number)
  | .bool flag => some (if flag then "true" else "false")
  | _ => none

/-- The text of a string or number, and nothing for anything else. -/
def looseScalar : Json → String
  | .string text => text
  | .int number => toString number
  | .float number => Json.numberText number
  | _ => ""

def scalar (key : String) (value : Json) : Except RuleError String :=
  match scalar? value with
  | some text => .ok text
  | none => body key .noScalar

/-- A list of scalars; a scalar stands for the list of it alone and null for the empty list. -/
def scalars (key : String) : Json → Except RuleError (List String)
  | .array items => items.mapM (scalar key)
  | .null => .ok []
  | value => (scalar key value).map fun text => [text]

/-- The name and the value of a variable step. A removal needs no value, and may be the name
alone. -/
def variableBody (key : String) (change : Change) (value : Json) :
    Except RuleError (String × String) :=
  match change, value with
  | .remove, .string name => .ok (name, "")
  | _, .object fields =>
      match (fields.lookup "name").bind Json.string? with
      | none => body key .noName
      | some name =>
          if Text.isBlankText name then body key .noName
          else match fields.lookup "value", change with
            | some value, _ => .ok (name, looseScalar value)
            | none, .remove => .ok (name, "")
            | none, _ => body key .noValue
  | _, _ => body key .noVariableMapping

/-- The operation of a kind that has one. -/
def operationOf (kind : StepKind) (key : String) (value : Json) : Except RuleError Operation :=
  match kind with
  | .comment => (scalar key value).map .comment
  | .labels change => (scalars key value).map (.labels change)
  | .assignees change => (scalars key value).map (.assignees change)
  | .reviewers change => (scalars key value).map (.reviewers change)
  | .milestoneSet => (scalar key value).map (.milestone .set)
  | .milestoneRemove => .ok (.milestone .remove (looseScalar value))
  | .projectAdd => (scalar key value).map (.project .add)
  | .projectRemove => (scalar key value).map (.project .remove)
  | .variable change => (variableBody key change value).map fun found =>
      .variable change found.1 found.2
  | .check | .predefined | .files _ => body key .noFilesMapping

def actionOf (kind : StepKind) (key : String) (value : Json) : Except RuleError Action :=
  match kind with
  | .check => .ok (.check value)
  | .predefined => (scalar key value).map .predefined
  | kind => (operationOf kind key value).map .operation

mutual

def parse : Json → Step
  | .array items => .group (parseItems items)
  | .object [(key, value)] =>
      match parseEntry key value with
      | .ok step => step
      | .error error => .malformed key error
  | .object fields =>
      let keys := fields.map Prod.fst
      .malformed (",".intercalate keys) (.malformedStep (.keyCount keys))
  | other => .malformed other.compact (.malformedStep (.noEntry other.compact))

def parseItems : List Json → List Step
  | [] => []
  | item :: rest => parse item :: parseItems rest

def parseEntry (key : String) : Json → Except RuleError Step
  | .object fields => do
      let key := normalizeKey key
      match ← StepKind.ofKey key with
      | .files mode =>
          match (fields.lookup "pattern").bind Json.string? with
          | none => body key .noPattern
          | some pattern =>
              match stepsField fields with
              | none => body key .noSteps
              | some steps => steps.map (.files mode pattern)
      | kind => (actionOf kind key (.object fields)).map .action
  | value => do
      let key := normalizeKey key
      let kind ← StepKind.ofKey key
      (actionOf kind key value).map .action

/-- The steps under the field `steps`, if there is one. -/
def stepsField : List (String × Json) → Option (Except RuleError (List Step))
  | [] => none
  | (name, value) :: rest => if name = "steps" then some (parseSequence value) else stepsField rest

/-- Reads a sequence, which must be a list. Bad entries do not make it fail. -/
def parseSequence : Json → Except RuleError (List Step)
  | .array items => .ok (parseItems items)
  | _ => .error (.malformedStep .noSequence)

end

end Step

/-- A short name of an operation, with its values as they are configured; `project` writes the name
of a project. -/
def Operation.describeWith (project : String → String) : Operation → String
  | .labels change values => "labels-" ++ change.name ++ " " ++ Text.quotedList values
  | .assignees change values => "assignees-" ++ change.name ++ " " ++ Text.quotedList values
  | .reviewers change values => "reviewers-" ++ change.name ++ " " ++ Text.quotedList values
  | .milestone change value => "milestone-" ++ change.name ++ " " ++ Text.quoted value
  | .project change value => "project-" ++ change.name ++ " " ++ project value
  | .comment _ => "comment"
  | .variable change name _ => "variable-" ++ change.name ++ " " ++ name

def Operation.describe (operation : Operation) : String :=
  operation.describeWith Text.quoted

def Action.describe : Action → String
  | .check _ => "check"
  | .predefined name => "predefined " ++ name
  | .operation change => change.describe

def filesDescription (mode : FileMatch) (pattern : String) : String :=
  "files-" ++ mode.name ++ " /" ++ pattern ++ "/"

end RepoRules
