import RepoRules.Proofs.Run.Rerun

/-!
The failures of a walk. Every query of a template and every check that a walk evaluates is accounted
for, in order, with the queries that are noted and with the failure that is added when there is no
answer. Nothing else adds failures, so the outcome of a delivery tells all of them.
-/

namespace RepoRules

open Effects

namespace Condition

def evaluation (context : Context) (condition : Condition) : Evaluation where
  sources := (condition.evaluate context).2
  failure := match (condition.evaluate context).1 with
    | .ok _ => none
    | .error error => some ("check failed to evaluate: " ++ error.message)

/-- Whether a gate opens: one without a condition never does, nor does one whose condition has no
answer. -/
def flow (context : Context) : Option Condition → Flow
  | none => .halt
  | some condition =>
      match (condition.evaluate context).1 with
      | .ok true => .proceed
      | .ok false | .error _ => .halt

end Condition

namespace Run

section Gates

variable {σ : Type}

theorem run_notes (sources : List String) (state : RunState σ Context) :
    (sources.forM fun source => note (.evaluated source) : Run σ Unit).run.run state =
      (.ok (), { state with journal := state.journal ++ sources.map Event.evaluated }) := by
  induction sources generalizing state with
  | nil =>
      rw [List.map_nil, List.append_nil]
      rfl
  | cons source rest induction =>
      refine (run_bind_ok (run_note _ state)).trans ((induction _).trans ?_)
      rw [List.append_assoc]
      rfl

theorem run_pass_gate (condition : Option Condition) (state : RunState σ Context) :
    (passGate condition : Run σ Flow).run.run state =
      (.ok (Condition.flow state.context condition),
        state.evaluating ((condition.map (Condition.evaluation state.context)).toList)) := by
  cases condition with
  | none =>
      rw [Option.map_none, Option.toList_none, RunState.evaluating_nil]
      rfl
  | some condition =>
      rcases judged : condition.evaluate state.context with ⟨answer, queries⟩
      have judges : (judge condition : Run σ (Except RuleError Bool)).run.run state =
          (.ok answer, { state with journal := state.journal ++ queries.map Event.evaluated }) := by
        unfold judge
        rw [run_bind_ok (run_context state)]
        dsimp only
        rw [judged, run_bind_ok (run_notes queries state)]
        rfl
      unfold passGate Condition.flow
      rw [run_bind_ok judges]
      dsimp only
      rw [judged, Option.map_some, Option.toList_some]
      unfold Condition.evaluation RunState.evaluating
      rw [judged]
      cases answer with
      | error error =>
          simp only [List.flatMap_singleton]
          rfl
      | ok holds =>
          cases holds with
          | true =>
              simp only [List.flatMap_singleton, List.filterMap_cons, List.filterMap_nil,
                List.append_nil]
              rfl
          | false =>
              simp only [List.flatMap_singleton, List.filterMap_cons, List.filterMap_nil,
                List.append_nil]
              rfl

end Gates

/-- What is evaluated at a node. The body of a files node counts for itself. -/
def Turn.evaluations {σ : Type} (turn : Turn σ) : List Evaluation :=
  match turn.node with
  | .gate condition => (condition.map (Condition.evaluation turn.state.context)).toList
  | .operation operation => operation.evaluations turn.state.context
  | .files _ _ _ _ | .sequence _ => []

def evaluations {σ : Type} (services : Services σ) (nodes : List Tree.Node)
    (state : RunState σ Context) : List Evaluation :=
  (turns services nodes state).flatMap Turn.evaluations

end Run

/-- Between two states these evaluations were made and no others: their queries have been noted, and
their failures added. -/
structure Accounts {σ : Type} (before : RunState σ Context) (evaluations : List Evaluation)
    (after : RunState σ Context) : Prop where
  failures : after.context.failures =
    before.context.failures ++ evaluations.filterMap Evaluation.failure
  evaluations : Event.evaluations after.journal =
    Event.evaluations before.journal ++ evaluations.flatMap Evaluation.sources

namespace Accounts

variable {σ : Type} {before middle after : RunState σ Context} {first others : List Evaluation}

theorem of_same (failures : after.context.failures = before.context.failures)
    (evaluations : Event.evaluations after.journal = Event.evaluations before.journal) :
    Accounts before [] after := by
  refine ⟨?_, ?_⟩
  · rw [failures, List.filterMap_nil, List.append_nil]
  · rw [evaluations, List.flatMap_nil, List.append_nil]

theorem append (early : Accounts before first middle) (late : Accounts middle others after) :
    Accounts before (first ++ others) after := by
  refine ⟨?_, ?_⟩
  · rw [late.failures, early.failures, List.filterMap_append, List.append_assoc]
  · rw [late.evaluations, early.evaluations, List.flatMap_append, List.append_assoc]

theorem evaluating (state : RunState σ Context) (evaluations : List Evaluation) :
    Accounts state evaluations (state.evaluating evaluations) := by
  refine ⟨rfl, ?_⟩
  unfold RunState.evaluating
  rw [Event.evaluations_append, Event.evaluations_of_sources]

end Accounts

namespace Run

section Accounting

variable {σ : Type} {services : Services σ}

theorem accounts_writes (services : Services σ) (mutations : List Mutation)
    (state : RunState σ Context) :
    Accounts state [] ((mutations.forM (write services)).run.run state).2 := by
  obtain ⟨_, _, sent, going, _⟩ := writes_go_out services.client mutations state
  have written : (mutations.forM (write services)).run.run state = _ := going
  rw [written]
  refine .of_same rfl ?_
  rw [Event.evaluations_append, Event.evaluations_of_mutations, List.append_nil]

theorem accounts_operate (operation : Operation) (state : RunState σ Context) :
    Accounts state (operation.evaluations state.context)
      ((operate services operation).run.run state).2 := by
  have evaluated := Accounts.evaluating state (operation.evaluations state.context)
  have written := accounts_writes services (operation.writes state.context)
    (state.evaluating (operation.evaluations state.context))
  have both := evaluated.append written
  rw [List.append_nil] at both
  apply holds_after_operate both
  -- its own change is one of the pool or of a variable
  intro after accounts
  exact ⟨accounts.failures, accounts.evaluations⟩

theorem accounts_law :
    TurnLaw services fun before turns after =>
      Accounts before (turns.flatMap Turn.evaluations) after where
  idle _ := .of_same rfl rfl
  chain early late := by
    rw [List.flatMap_append]
    exact early.append late
  gate condition state := by
    rw [run_pass_gate, List.flatMap_singleton]
    exact .evaluating state _
  operation operation state := by
    rw [List.flatMap_singleton]
    exact accounts_operate operation state
  files mode _ pattern _ state := by
    have looked : Moves (Lists services) (filesAccepted services mode pattern) state :=
      moves_files_accepted mode pattern
    rw [List.flatMap_singleton]
    refine .of_same (eq_of_steps (·.context.failures) ?_ looked)
      (eq_of_steps (fun state => Event.evaluations state.journal) ?_ looked)
    · intro before after lists
      cases lists with
      | called number => rfl
      | kept files => rfl
    · intro before after lists
      cases lists with
      | called number =>
          rw [RunState.called, Event.evaluations_append]
          exact List.append_nil _
      | kept files => rfl

/-- A walk adds the failures of its evaluations and no others, even if it ends in a failed call. -/
theorem accounts_walk (nodes : List Tree.Node) (state : RunState σ Context) :
    Accounts state (evaluations services nodes state)
      ((walkNodes services nodes).run.run state).2 :=
  accounts_law.walk_nodes nodes state

theorem filled_of_evaluations {nodes : List Tree.Node} {state : RunState σ Context}
    {message : String}
    (failed : message ∈ (evaluations services nodes state).filterMap Evaluation.failure) :
    message ≠ "" := by
  obtain ⟨evaluation, member, failure⟩ := List.mem_filterMap.1 failed
  obtain ⟨turn, _, evaluated⟩ := List.mem_flatMap.1 member
  obtain ⟨node, met⟩ := turn
  cases node with
  | files mode source pattern body => cases evaluated
  | sequence children => cases evaluated
  | gate condition =>
      cases condition with
      | none => cases evaluated
      | some condition =>
          cases List.mem_singleton.1 evaluated
          unfold Condition.evaluation at failure
          dsimp only at failure
          split at failure
          · cases failure
          · cases failure
            simp
  | operation operation =>
      obtain ⟨template, _, query⟩ := List.mem_filterMap.1 evaluated
      obtain ⟨source, _, rfl⟩ := Option.map_eq_some_iff.1 query
      dsimp only at failure
      split at failure
      · cases failure
      · cases failure
        simp

end Accounting

end Run

theorem Context.failure_text_eq {context : Context}
    (filled : ∀ message ∈ context.failures, message ≠ "") :
    context.failureText = "; ".intercalate context.failures := by
  -- a text that is still empty takes no separator, hence the induction from one that is not
  have joined (messages : List String) {text : String} (some : text ≠ "") :
      messages.foldl joinFailure text = "; ".intercalate (text :: messages) := by
    induction messages generalizing text with
    | nil => simp
    | cons message rest induction =>
        have longer : joinFailure text message = text ++ "; " ++ message := by
          simp [joinFailure, some]
        have more : text ++ "; " ++ message ≠ "" := by simp
        rw [List.foldl_cons, longer, induction more]
        cases rest with
        | nil => simp
        | cons other others => simp [String.append_assoc]
  unfold failureText
  cases failures : context.failures with
  | nil => rfl
  | cons message rest =>
      have first : joinFailure "" message = message := rfl
      rw [failures] at filled
      rw [List.foldl_cons, first, joined rest (filled message List.mem_cons_self)]

/-- What an outcome says of the evaluations of a walk that came to its end. -/
structure Outcome.Tells (outcome : Outcome) (evaluations : List Evaluation) : Prop where
  failed : outcome.status = .failed ↔ ∃ evaluation ∈ evaluations, evaluation.failure ≠ none
  completed : outcome.status = .failed ∨ outcome.status = .completed
  failure : outcome.failure =
    if outcome.status = .failed then
      some ("; ".intercalate (evaluations.filterMap Evaluation.failure))
    else none

namespace Run

variable {σ : Type} {services : Services σ}

theorem failures_of_flush (services : Services σ) (state : RunState σ Context) :
    ((flush services).run.run state).2.context.failures = state.context.failures := by
  unfold flush Pool.flush
  rw [run_bind_ok (run_context state)]
  simp only
  split
  · rfl
  · cases state.context.target with
    | none => rfl
    | some item =>
        simp only
        rw [run_bind_ok (run_modify_context _ state), state_bind fun _ _ => rfl, context_of_writes]

theorem tells_of_outcome {context : Context} {evaluations : List Evaluation}
    (failures : context.failures = evaluations.filterMap Evaluation.failure)
    (filled : ∀ message ∈ context.failures, message ≠ "") (action : String) (rerun : Bool)
    (tree : ActionTree) (operations : FlushReport) :
    (Engine.outcomeOf context action rerun tree operations).Tells evaluations := by
  have some_failed : context.hasFailure = true ↔
      ∃ evaluation ∈ evaluations, evaluation.failure ≠ none := by
    rw [Context.hasFailure, failures]
    simp [List.filterMap_eq_nil_iff]
  unfold Engine.outcomeOf
  cases failed : context.hasFailure with
  | true =>
      refine ⟨iff_of_true rfl (some_failed.1 failed), .inl rfl, ?_⟩
      rw [← failures, ← Context.failure_text_eq filled]
      rfl
  | false =>
      refine ⟨iff_of_false nofun ?_, .inr rfl, rfl⟩
      rw [← some_failed, failed]
      exact Bool.false_ne_true

theorem tells_of_conclude {plan : Plan} {action : String} {tree : ActionTree}
    {state after : RunState σ Context} {outcome : Outcome} {evaluations : List Evaluation}
    (work : plan.work = some (action, tree))
    (failures : state.context.failures = evaluations.filterMap Evaluation.failure)
    (filled : ∀ message ∈ state.context.failures, message ≠ "")
    (concluded : (conclude services plan).run.run state = (.ok outcome, after)) :
    outcome.Tells evaluations := by
  obtain ⟨report, flushed, flushing, concluded⟩ := run_bind_eq_ok concluded
  have kept := failures_of_flush services state
  rw [flushing] at kept
  rw [work] at concluded
  cases concluded
  rw [← kept] at failures filled
  exact tells_of_outcome failures filled _ _ _ _

end Run

section Plans

variable {σ : Type} {services : Services σ} {before after : RunState σ Context}

theorem Plans.failures_eq (plans : Plans services before after) :
    after.context.failures = before.context.failures := by
  cases plans <;> rfl

theorem Plans.queries_eq (plans : Plans services before after) :
    after.context.queries = before.context.queries := by
  cases plans <;> rfl

end Plans

namespace Engine

variable {σ : Type} {engine : Engine σ} {delivery : Delivery} {before ready : RunState σ Unit}
  {client : Client σ} {repository : RepositoryRef} {delivered : Context}
  {loaded : RunState σ Unit} {plan : Plan} {start : Context}

/-- What no step of planning alters is there as it was delivered when a walk begins. -/
theorem Prepares.unaltered
    (prepares : engine.Prepares delivery before client repository delivered loaded plan start ready)
    {α : Type} (view : Context → α)
    (same : ∀ before after, Plans ⟨client, engine.page⟩ before after →
      view after.context = view before.context) :
    view start = view delivered := by
  obtain ⟨inner, planned, rfl, _⟩ := run_within_eq_ok prepares.planned
  have moves : Moves (Plans ⟨client, engine.page⟩) (Run.plan ⟨client, engine.page⟩)
      ⟨delivered, loaded.store, loaded.journal⟩ := Run.moves_plan
  rw [Moves, planned] at moves
  exact eq_of_steps (fun state => view state.context) same moves

theorem Prepares.unfailed
    (prepares : engine.Prepares delivery before client repository delivered loaded plan start
      ready) :
    start.failures = [] := by
  refine (prepares.unaltered Context.failures fun _ _ => Plans.failures_eq).trans ?_
  obtain ⟨document, payload⟩ := prepares.payload
  obtain ⟨_, _, _, _, _, _, rfl⟩ := Context.exists_of_payload payload
  rfl

theorem Prepares.queries_eq
    (prepares : engine.Prepares delivery before client repository delivered loaded plan start
      ready) :
    start.queries = engine.queries := by
  refine (prepares.unaltered Context.queries fun _ _ => Plans.queries_eq).trans ?_
  obtain ⟨document, payload⟩ := prepares.payload
  obtain ⟨_, _, _, _, _, _, rfl⟩ := Context.exists_of_payload payload
  rfl

end Engine

end RepoRules
