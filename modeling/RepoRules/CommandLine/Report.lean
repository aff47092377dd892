import RepoRules.CommandLine.Command
import RepoRules.Files.Access
import RepoRules.Json.Reader
import RepoRules.Repository.Offline
import RepoRules.Run.Delivery
import RepoRules.Settings.Load
import RepoRules.Webhook.Deployment

/-!
What the commands do. Evaluating a payload and validating rules print a result and may still end with
a failure; serving goes on unless it fails at the start.
-/

namespace RepoRules.CommandLine

structure Report where
  output : String
  failure : Option String
deriving Repr, DecidableEq

namespace Report

def failed (text : String) : Report := ⟨"", some text⟩

def ofExcept : Except String Report → Report
  | .ok report => report
  | .error text => failed text

/-! ## Evaluating a payload -/

def payloadOf (path : String) (content : Except String String) : Except String Json :=
  match content with
  | .error reason => .error ("failed to read payload " ++ path ++ ": " ++ reason)
  | .ok text =>
      match Json.parse? text with
      | some payload => .ok payload
      | none => .error ("payload " ++ path ++ " is not valid JSON: <json>")

/-- The repository in memory: what the payload holds, and the changed files of its pull request. -/
def storeOf (payload : Json) (files : List String) : Except Failure OfflineStore := do
  let store ← OfflineStore.ofPayload payload
  match (payload.path? ["pull_request", "number"]).bind Json.natural? with
  | some number => return { store with files := OfflineStore.put number files store.files }
  | none => return store

/-- The engine that works on a repository in memory. -/
def engineOf (repository : RepositoryRef) (document : RuleDocument)
    (page : String → Option String) (queries : QueryEngine) : Engine OfflineStore where
  clientFor _ _ store := (.ok (OfflineStore.client repository), store)
  page := page
  rules := .fixed document
  queries := queries

def ofRun (options : RunOptions) (payload rules : Except String String)
    (page : String → Option String) (queries : QueryEngine) : Except String Report := do
  let kind ← match EventKind.ofName? options.event with
    | some kind => pure kind
    | none => throw ("unsupported event '" ++ options.event ++ "'")
  let payload ← payloadOf options.payload payload
  let repository ← match Context.repositoryOf? payload with
    | some repository => pure repository
    | none => throw "payload has no repository.full_name"
  let document ← (RuleDocument.ofLocalFile options.rules rules).mapError Failure.display
  let store ← (storeOf payload options.files).mapError Failure.display
  let (result, state) :=
    ((engineOf repository document page queries).handle
      ⟨kind, payload, some "local"⟩).run.run ⟨(), store, []⟩
  let outcome ← result.mapError Failure.display
  let report := Json.ofFields
    [("outcome", outcome.toJson), ("mutations", .array (state.store.log.map Mutation.toJson))]
  return ⟨report.indented 0 ++ "\n",
    if outcome.status = .failed then
      some ("action-set finished with failures: " ++ outcome.failure.getD "")
    else none⟩

/-! ## Validating rules -/

def entryCount (document : RuleDocument) : Nat :=
  EventKind.all.foldl (fun count kind => count + (document.actions kind).entries.length) 0

def diagnosticLine (diagnostic : Diagnostic) : String :=
  diagnostic.step ++ ": [" ++ diagnostic.error.code ++ "] " ++ diagnostic.error.message ++ "\n"

def ofValidate (path : String) (rules : Except String String) : Except String Report := do
  let document ← (RuleDocument.ofLocalFile path rules).mapError Failure.display
  match document.diagnostics with
  | [] =>
      return ⟨path ++ ": ok (" ++ toString (entryCount document) ++ " action entries, " ++
        toString document.predefined.entries.length ++ " predefined sequences)\n", none⟩
  | diagnostics =>
      return ⟨String.join (diagnostics.map diagnosticLine),
        some (toString diagnostics.length ++ " problem(s) found in " ++ path)⟩

end Report

/-! ## Serving -/

def ServeOptions.override (options : ServeOptions) (settings : Settings) : Settings where
  hosting := settings.hosting
  webhook :=
    { settings.webhook with address := options.address.getD settings.webhook.address }
  engine := { settings.engine with dryRun := options.dryRun || settings.engine.dryRun }

inductive Ending where
  | report (report : Report)
  | serving (deployment : Webhook.Deployment)

variable {m : Type → Type} [Monad m]

def startService (access : Files.Access m) (environment : Environment) (options : ServeOptions) :
    m Ending := do
  match ← Settings.load access environment options.config with
  | .error failure => return .report (.failed failure.display)
  | .ok settings =>
      match Webhook.Deployment.start (options.override settings) with
      | .error fault => return .report (.failed fault.text)
      | .ok deployment => return .serving deployment

/-- Executes a command, where pages hold what is given for them, if they can be fetched at all. -/
def Command.execute (access : Files.Access m) (environment : Environment) (command : Command)
    (page : String → Option String := fun _ => none) (queries : QueryEngine := Query.run) :
    m Ending :=
  match command with
  | .serve options => startService access environment options
  | .run options => do
      let payload ← access.read options.payload
      let rules ← access.read options.rules
      return .report (.ofExcept (Report.ofRun options payload rules page queries))
  | .validate file => do
      return .report (.ofExcept (Report.ofValidate file (← access.read file)))

end RepoRules.CommandLine
