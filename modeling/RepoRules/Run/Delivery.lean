import RepoRules.Run.Rerun
import RepoRules.Run.Walk

/-!
Deliveries from start to end: find the client and the rules, set up the state, apply a label that
asks for a rerun, resolve the action, build its tree, walk through it and send what it pooled.
-/

namespace RepoRules

/-- Where the rules come from. A local file is given with its text, or with the reason why it
cannot be read. -/
inductive RulesSource where
  | repository
  | localFile (path : String) (content : Except String String)
  | fixed (document : RuleDocument)

structure Delivery where
  kind : EventKind
  payload : Json
  id : Option String

inductive OutcomeStatus where
  | completed
  /-- The walk came to its end, but a query or a check failed on the way. -/
  | failed
  /-- There is nothing to do for the action. -/
  | noAction
deriving Repr, DecidableEq

def OutcomeStatus.name : OutcomeStatus → String
  | .completed => "completed"
  | .failed => "failed"
  | .noAction => "no_action"

structure Outcome where
  status : OutcomeStatus
  event : EventKind
  rawAction : String
  action : Option String
  rerun : Bool
  operations : FlushReport
  diagnostics : List String
  failure : Option String
deriving Repr, DecidableEq

def Outcome.toJson (outcome : Outcome) : Json :=
  Json.ofFields
    [("status", .string outcome.status.name), ("event", .string outcome.event.name),
      ("raw_action", .string outcome.rawAction), ("action", .ofOption .string outcome.action),
      ("rerun", .bool outcome.rerun), ("operations", outcome.operations.toJson),
      ("diagnostics", .strings outcome.diagnostics), ("failure", .ofOption .string outcome.failure)]

namespace RuleDocument

def ofLocalFile (path : String) (content : Except String String) : Except Failure RuleDocument :=
  match content with
  | .error reason => .error (Failure.of .io ("failed to read " ++ path ++ ": " ++ reason))
  | .ok text =>
      (parse text).mapError fun error => (Failure.ofRule error).withContext ("rules file " ++ path)

def missing (repository : RepositoryRef) : Failure :=
  (Failure.of .configuration (filePath ++ " not found in " ++ repository.fullName)).withCode
    "RULE-CFG-003"

/-- Reads the text that a repository keeps under the path of its rules. -/
def ofRepository (repository : RepositoryRef) : Option String → Except Failure RuleDocument
  | none => .error (missing repository)
  | some text =>
      (parse text).mapError fun error =>
        (Failure.ofRule error).withContext (filePath ++ " in " ++ repository.fullName)

end RuleDocument

structure Engine (σ : Type) where
  clientFor : Option Nat → RepositoryRef → σ → Except Failure (Client σ) × σ
  page : String → Option String
  rules : RulesSource
  queries : QueryEngine := Query.run

namespace Diagnostic

def text (diagnostic : Diagnostic) : String :=
  diagnostic.step ++ ": " ++ diagnostic.error.message

end Diagnostic

namespace Engine

variable {σ : Type}

def noRepository : Failure :=
  (Failure.of .validation "payload has no repository.full_name").withCode "RULE-PAYLOAD-002"

def loadRules (source : RulesSource) (client : Client σ) (repository : RepositoryRef) :
    Effects σ Unit RuleDocument := do
  match source with
  | .fixed document => return document
  | .localFile path content => liftExcept (RuleDocument.ofLocalFile path content)
  | .repository =>
      let text : Option String ← Effects.call client (.rulesFile RuleDocument.filePath)
      liftExcept (RuleDocument.ofRepository repository text)
where
  liftExcept {α : Type} : Except Failure α → Effects σ Unit α
    | .ok value => return value
    | .error failure => throw failure

def outcomeOf (context : Context) (action : String) (rerun : Bool) (tree : ActionTree)
    (operations : FlushReport) : Outcome :=
  { status := if context.hasFailure then .failed else .completed
    event := context.kind
    rawAction := context.rawAction
    action := some action
    rerun, operations
    diagnostics := tree.diagnostics.map Diagnostic.text
    failure := if context.hasFailure then some context.failureText else none }

/-- The outcome when there is nothing to do. -/
def idleOutcome (context : Context) (rerun : Bool) (operations : FlushReport) : Outcome :=
  { status := .noAction
    event := context.kind
    rawAction := context.rawAction
    action := none
    rerun, operations
    diagnostics := []
    failure := none }

/-- Runs the steps that are configured for the action at hand. A label that asked for a rerun comes
off even when there are none. -/
def process (services : Services σ) : Run σ Outcome := do
  let rerun := (← Run.applyRerun services).isSome
  let current ← Run.context
  match resolve (current.rules.actions current.kind) current.action with
  | .error error => throw (Failure.ofRule error)
  | .ok .undefined =>
      let operations ← Run.flush services
      return idleOutcome (← Run.context) rerun operations
  | .ok (.resolved action remapped steps) =>
      if remapped then Run.modifyContext fun context => context.setAction action
      Run.ensureMetadata services
      let tree := ActionTree.build current.rules steps
      let operations ← Run.execute services tree
      return outcomeOf (← Run.context) action rerun tree operations

/-- Handles a delivery. -/
def handle (engine : Engine σ) (delivery : Delivery) : Effects σ Unit Outcome := do
  match Context.repositoryOf? delivery.payload with
  | none => throw noRepository
  | some repository =>
      let installation := (delivery.payload.path? ["installation", "id"]).bind Json.natural?
      let client : Client σ ← Effects.onStore (engine.clientFor installation repository)
      let rules ← loadRules engine.rules client repository
      match Context.ofPayload delivery.kind delivery.payload rules client.repository
          delivery.id engine.queries with
      | .error failure => throw failure
      | .ok context =>
          let (outcome, _) ← Effects.within context (process ⟨client, engine.page⟩)
          return outcome

end Engine

end RepoRules
