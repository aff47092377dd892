import RepoRules.Query.Eval
import RepoRules.Repository.Item
import RepoRules.Repository.Ref
import RepoRules.Rules.Document
import RepoRules.Rules.Variables
import RepoRules.Run.Pool

/-!
The state of one delivery: what it is about, the variables and the metadata, the changes that
wait to be sent, and the failures on the way.
-/

namespace RepoRules

/-- Answers a query about a state. -/
abbrev QueryEngine := String → Json → Except Query.Error Json

structure Context where
  kind : EventKind
  /-- The action as it was delivered. -/
  rawAction : String
  /-- The action in force, after a rerun label or a name that leads to another action. -/
  action : String
  delivery : Option String
  repository : RepositoryRef
  issue : Option Item
  pullRequest : Option Item
  comment : Option Comment
  projectContent : Option String
  payload : Json
  rules : RuleDocument
  variableTable : VariableTable
  metadata : Metadata
  operations : Pool
  failures : List String
  changedFiles : Option (List String)
  queries : QueryEngine

namespace Context

def target (context : Context) : Option Item :=
  context.pullRequest.or context.issue

def isPullRequest (context : Context) : Bool :=
  context.target.any Item.isPullRequest

def contentNode (context : Context) : Option String :=
  (context.projectContent.or (context.target.map Item.nodeId)).filter fun id => !id.isEmpty

def setAction (context : Context) (action : String) : Context :=
  { context with action, variableTable := context.variableTable.set "action" action }

def addFailure (context : Context) (message : String) : Context :=
  { context with failures := context.failures ++ [message] }

def hasFailure (context : Context) : Bool :=
  !context.failures.isEmpty

def joinFailure (joined message : String) : String :=
  if joined.isEmpty then message else joined ++ "; " ++ message

def failureText (context : Context) : String :=
  context.failures.foldl joinFailure ""

def variablesJson (table : VariableTable) : Json :=
  Json.ofFields (table.entries.map fun entry => (entry.1, .string entry.2))

def snapshot (context : Context) : Json :=
  Json.ofFields
    [("event", .string context.kind.name), ("action", .string context.action),
      ("issue", .ofOption Item.toJson context.issue),
      ("pull_request", .ofOption Item.toJson context.pullRequest),
      ("comment", .ofOption Comment.toJson context.comment),
      ("operations", context.operations.toJson), ("variables", variablesJson context.variableTable),
      ("payload", context.payload)]

def answer (context : Context) (source : String) : Except Query.Error Json :=
  context.queries source context.snapshot

def builtins (context : Context) : List (String × String) :=
  let (number, title, author) := match context.target with
    | some item => (toString item.number, item.title, item.author)
    | none => ("", "", "")
  [("event", context.kind.name), ("action", context.action), ("repo", context.repository.name),
    ("owner", context.repository.owner), ("number", number), ("title", title), ("author", author)]

/-- Sets the variables that every run has, and over them those of the metadata. -/
def seedVariables (context : Context) : Context :=
  { context with
    variableTable := (context.variableTable.extend context.builtins).extend context.metadata.entries }

def payloadFailure (name : String) (fault : Decode.Fault) : Failure :=
  (Failure.of .validation
    ("invalid '" ++ name ++ "' object in payload: " ++ fault.message)).withCode "RULE-PAYLOAD-001"

/-- Reads an object of the payload; a missing one and null are nothing. -/
def objectOf (payload : Json) (name : String) (read : Json → Except Decode.Fault α) :
    Except Failure (Option α) :=
  match payload.field? name with
  | none | some .null => .ok none
  | some value => ((read value).mapError (payloadFailure name)).map some

def repositoryOf? (payload : Json) : Option RepositoryRef :=
  ((payload.path? ["repository", "full_name"]).bind Json.string?).bind RepositoryRef.parse?

/-- The state at the start of a delivery. Without a repository of its own it is about the one that
the client serves. -/
def ofPayload (kind : EventKind) (payload : Json) (rules : RuleDocument) (served : RepositoryRef)
    (delivery : Option String) (queries : QueryEngine := Query.run) : Except Failure Context := do
  let action := ((payload.field? "action").bind Json.string?).getD ""
  let issue ← objectOf payload "issue" Item.ofJson
  let pullRequest ← objectOf payload "pull_request" Item.ofJson
  let comment ← objectOf payload "comment" Comment.ofJson
  let context : Context := {
    kind, action, rawAction := action, delivery, payload, rules, issue, comment, queries
    repository := (repositoryOf? payload).getD served
    pullRequest := pullRequest.map fun item => { item with isPullRequest := true }
    projectContent := (payload.path? ["projects_v2_item", "content_node_id"]).bind Json.string?
    variableTable := .empty
    metadata := .empty
    operations := .empty
    failures := []
    changedFiles := none }
  return context.seedVariables

end Context

end RepoRules
