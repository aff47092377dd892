import RepoRules.Metadata.Extract
import RepoRules.Run.Context

/-!
Runs. A run reads and changes its state, calls the client, fetches pages and evaluates queries; it
stops at the first failure of a call, and the state then is what it was before that call. What was
done is noted in a journal, in order.
-/

namespace RepoRules

/-- Something that a run did: a call, the fetch of a page, or the evaluation of a query. -/
inductive Event where
  | called (call : Call)
  | fetched (url : String)
  | evaluated (source : String)
deriving Repr, DecidableEq

structure Services (σ : Type) where
  client : Client σ
  page : String → Option String

structure RunState (σ κ : Type) where
  context : κ
  store : σ
  journal : List Event

/-- Steps of a run whose own state is of type `κ`. -/
abbrev Effects (σ κ : Type) := ExceptT Failure (StateM (RunState σ κ))

namespace Effects

variable {σ κ : Type}

def note (event : Event) : Effects σ κ Unit :=
  modify fun state => { state with journal := state.journal ++ [event] }

/-- Takes a step that only needs the state of the client. -/
def onStore (step : σ → Except Failure α × σ) : Effects σ κ α := do
  let state ← get
  let (result, store) := step state.store
  set { state with store }
  match result with
  | .ok value => return value
  | .error failure => throw failure

def call (client : Client σ) (request : Call) : Effects σ κ request.Reply := do
  note (.called request)
  onStore (client.answer request)

/-- Takes steps that work on a state of another type, and gives that state with the result. -/
def within (context : κ) (steps : Effects σ κ α) : Effects σ Unit (α × κ) := do
  let outer ← get
  let (result, inner) := steps.run.run ⟨context, outer.store, outer.journal⟩
  set { outer with store := inner.store, journal := inner.journal }
  match result with
  | .ok value => return (value, inner.context)
  | .error failure => throw failure

end Effects

abbrev Run (σ : Type) := Effects σ Context

namespace Run

variable {σ : Type}

def context : Run σ Context := do
  return (← get).context

def modifyContext (change : Context → Context) : Run σ Unit :=
  modify fun state => { state with context := change state.context }

def call (services : Services σ) (request : Call) : Run σ request.Reply :=
  Effects.call services.client request

def write (services : Services σ) (mutation : Mutation) : Run σ Unit :=
  call services (.write mutation)

def fetch (services : Services σ) (url : String) : Run σ (Option String) := do
  Effects.note (.fetched url)
  return services.page url

def addFailure (message : String) : Run σ Unit :=
  modifyContext fun context => context.addFailure message

/-- The text that a template stands for. A query that fails is noted as a failure and stands for
the empty text. -/
def expand (template : String) : Run σ String := do
  let current ← context
  match Template.queryBody? template with
  | none => return current.variableTable.substitute template
  | some source =>
      Effects.note (.evaluated source)
      match current.answer source with
      | .ok value => return Template.renderResult value
      | .error error =>
          addFailure ("query failed: " ++ (RuleError.query (.evaluation source error)).message)
          return ""

def expandAll : (templates : List String) → Run σ (List String)
  | [] => return []
  | template :: rest => do
      let text := Text.trim (← expand template)
      let others ← expandAll rest
      return if text.isEmpty then others else text :: others

/-- Reads the metadata from the body of the item at hand, once, and makes variables of it. -/
def ensureMetadata (services : Services σ) : Run σ Unit := do
  let current ← context
  let settings := current.rules.metadata
  if !current.metadata.isEmpty || (settings.headers.isEmpty && settings.contentUrls.isEmpty) then
    return
  match current.target with
  | none => return
  | some item =>
      let metadata ← Metadata.extract (fetch services) settings item.body current.metadata
      modifyContext fun context =>
        { context with metadata, variableTable := context.variableTable.extend metadata.entries }

/-- The paths that the pull request changes, listed once; anything else changes none. -/
def changedFiles (services : Services σ) : Run σ (List String) := do
  let current ← context
  match current.changedFiles with
  | some files => return files
  | none =>
      let files : List String ← match current.target with
        | some item => if item.isPullRequest then call services (.changedFiles item.number) else pure []
        | none => pure []
      modifyContext fun context => { context with changedFiles := some files }
      return files

def refreshIssue (services : Services σ) : Run σ Unit := do
  if let some item := (← context).issue then
    let fresh : Item ← call services (.issue item.number)
    modifyContext fun context => { context with issue := some fresh }

def refreshPullRequest (services : Services σ) : Run σ Unit := do
  if let some item := (← context).pullRequest then
    let fresh : Item ← call services (.pullRequest item.number)
    modifyContext fun context => { context with pullRequest := some fresh }

def refreshComment (services : Services σ) : Run σ Unit := do
  if let some comment := (← context).comment then
    let fresh : Comment ← call services (.comment comment.id)
    modifyContext fun context => { context with comment := some fresh }

def refresh (services : Services σ) : Run σ Unit := do
  refreshIssue services
  refreshPullRequest services
  refreshComment services
  modifyContext fun context => { context with changedFiles := none }.seedVariables

def flush (services : Services σ) : Run σ FlushReport := do
  let current ← context
  let keep (pool : Pool) : Run σ Unit :=
    modifyContext fun context => { context with operations := pool }
  Pool.flush (write services) keep current.target current.operations

end Run

end RepoRules
