import RepoRules.Proofs.Run.Steps
import RepoRules.Run.Rerun

/-!
What a label that asks for a rerun does to the state. It is marked to come off; the items and the
comment are those that the client gives for the ones at hand; and the action is the one it names.
-/

namespace RepoRules

open Effects

def Context.items (context : Context) : Option Item × Option Item × Option Comment :=
  (context.issue, context.pullRequest, context.comment)

theorem Context.target_of_items {context other : Context} (same : context.items = other.items) :
    context.target = other.target := by
  obtain ⟨issue, pullRequest, _⟩ : _ ∧ _ ∧ _ := by simpa only [items, Prod.mk.injEq] using same
  rw [target, target, issue, pullRequest]

/-- What is there is read once more, and what is not stays away. -/
inductive Renews {σ α : Type} (read : α → σ → Except Failure α × σ) :
    (held fresh : Option α) → (before after : σ) → Prop
  | absent (store : σ) : Renews read none none store store
  | answered {held fresh : α} {before after : σ} (answer : read held before = (.ok fresh, after)) :
      Renews read (some held) (some fresh) before after

def Rereads {σ : Type} (client : Client σ) (held fresh : Context) (before after : σ) : Prop :=
  ∃ first second,
    Renews (fun item => client.answer (.issue item.number)) held.issue fresh.issue before first ∧
    Renews (fun item => client.answer (.pullRequest item.number)) held.pullRequest
      fresh.pullRequest first second ∧
    Renews (fun comment => client.answer (.comment comment.id)) held.comment fresh.comment second
      after

theorem Rereads.of_items {σ : Type} {client : Client σ} {held fresh other : Context}
    {before after : σ} (rereads : Rereads client held fresh before after)
    (same : other.items = fresh.items) : Rereads client held other before after := by
  obtain ⟨issue, pullRequest, comment⟩ : _ ∧ _ ∧ _ := by
    simpa only [Context.items, Prod.mk.injEq] using same
  rw [Rereads, issue, pullRequest, comment]
  exact rereads

theorem Renews.is_some {σ α : Type} {read : α → σ → Except Failure α × σ} {held fresh : Option α}
    {before after : σ} (renews : Renews read held fresh before after) :
    fresh.isSome = held.isSome := by
  cases renews with
  | absent => rfl
  | answered _ => rfl

theorem Rereads.target_is_some {σ : Type} {client : Client σ} {held fresh : Context}
    {before after : σ} (rereads : Rereads client held fresh before after) :
    fresh.target.isSome = held.target.isSome := by
  obtain ⟨_, _, issue, pullRequest, _⟩ := rereads
  rw [Context.target, Context.target, Option.isSome_or, Option.isSome_or, issue.is_some,
    pullRequest.is_some]

namespace Context

/-- The label that asks for a rerun, if there is one to follow, and the action it names. -/
def rerun? (context : Context) : Option (String × String) :=
  if context.rawAction = "labeled" then
    (Rerun.find? ((context.target.map Item.labels).getD [])).filter fun asked => !asked.2.isEmpty
  else none

def rerun (context : Context) (label action : String) (issue pullRequest : Option Item)
    (comment : Option Comment) : Context :=
  ({ context with
      operations := context.operations.removeLabel label
      issue, pullRequest, comment
      changedFiles := none }.seedVariables).setAction action

theorem rerun_eq_some {context : Context} {label action : String}
    (asked : context.rerun? = some (label, action)) :
    context.rawAction = "labeled" ∧ action ≠ "" ∧ ∃ item suffix, context.target = some item ∧
      label ∈ item.labels ∧ Rerun.suffix? label = some suffix ∧
      action = Text.lower (Text.trim suffix) := by
  unfold rerun? at asked
  split at asked
  · next labeled =>
      rw [Option.filter_eq_some_iff] at asked
      obtain ⟨found, named⟩ := asked
      obtain ⟨label, member, found⟩ := List.exists_of_findSome?_eq_some found
      obtain ⟨suffix, stripped, same⟩ := Option.map_eq_some_iff.1 found
      cases same
      refine ⟨labeled, by simpa using named, ?_⟩
      cases target : context.target with
      | none =>
          rw [target] at member
          cases member
      | some item =>
          rw [target] at member
          exact ⟨item, suffix, rfl, member, stripped, rfl⟩
  · cases asked

end Context

namespace Run

variable {σ : Type} {services : Services σ} {state after : RunState σ Context}

theorem run_call_eq_ok {request : Call} {reply : request.Reply}
    (called : (call services request).run.run state = (.ok reply, after)) :
    services.client.answer request state.store = (.ok reply, after.store) ∧
      after = state.called services.client request := by
  have made : (call services request).run.run state = _ := run_call services.client request state
  rw [called] at made
  obtain ⟨replied, rfl⟩ := Prod.mk.inj made
  exact ⟨Prod.ext replied.symm rfl, rfl⟩

def renew {α : Type} (held : Context → Option α) (ask : α → Run σ α)
    (put : Context → Option α → Context) : Run σ Unit := do
  if let some old := held (← context) then
    let fresh ← ask old
    modifyContext fun context => put context (some fresh)

theorem renew_eq_ok {α : Type} {held : Context → Option α} {ask : α → Run σ α}
    {put : Context → Option α → Context} {read : α → σ → Except Failure α × σ}
    (taken : (renew held ask put).run.run state = (.ok (), after))
    (asks : ∀ {old fresh} {before after : RunState σ Context},
      (ask old).run.run before = (.ok fresh, after) →
        read old before.store = (.ok fresh, after.store) ∧ after.context = before.context)
    (same : ∀ context, put context (held context) = context) :
    ∃ fresh, Renews read (held state.context) fresh state.store after.store ∧
      after.context = put state.context fresh := by
  unfold renew at taken
  rw [run_bind_ok (run_context state)] at taken
  rcases old : held state.context with _ | item
  · rw [old] at taken
    cases taken
    exact ⟨none, .absent _, by rw [← old, same]⟩
  · rw [old] at taken
    obtain ⟨fresh, middle, asked, kept⟩ := run_bind_eq_ok taken
    obtain ⟨answer, kept'⟩ := asks asked
    cases kept
    exact ⟨some fresh, .answered answer, by rw [← kept']⟩

theorem refresh_eq (services : Services σ) :
    refresh services = (do
      renew Context.issue (fun item => (call services (.issue item.number) : Run σ Item))
        fun context issue => { context with issue }
      renew Context.pullRequest
        (fun item => (call services (.pullRequest item.number) : Run σ Item))
        fun context pullRequest => { context with pullRequest }
      renew Context.comment (fun comment => (call services (.comment comment.id) : Run σ Comment))
        fun context comment => { context with comment }
      modifyContext fun context => { context with changedFiles := none }.seedVariables) := by
  have issue : refreshIssue services = renew Context.issue
      (fun item => (call services (.issue item.number) : Run σ Item))
      fun context issue => { context with issue } := by
    unfold refreshIssue renew
    refine bind_congr fun current => ?_
    cases current.issue <;> rfl
  have pullRequest : refreshPullRequest services = renew Context.pullRequest
      (fun item => (call services (.pullRequest item.number) : Run σ Item))
      fun context pullRequest => { context with pullRequest } := by
    unfold refreshPullRequest renew
    refine bind_congr fun current => ?_
    cases current.pullRequest <;> rfl
  have comment : refreshComment services = renew Context.comment
      (fun comment => (call services (.comment comment.id) : Run σ Comment))
      fun context comment => { context with comment } := by
    unfold refreshComment renew
    refine bind_congr fun current => ?_
    cases current.comment <;> rfl
  rw [refresh, issue, pullRequest, comment]

/-- Everything is read anew, and then described anew. -/
theorem refresh_eq_ok (refreshed : (refresh services).run.run state = (.ok (), after)) :
    ∃ issue pullRequest comment,
      after.context = { state.context with
        issue, pullRequest, comment, changedFiles := none }.seedVariables ∧
      Rereads services.client state.context after.context state.store after.store := by
  have asks (request : Call) {fresh : request.Reply} {before after : RunState σ Context}
      (called : (call services request).run.run before = (.ok fresh, after)) :
      services.client.answer request before.store = (.ok fresh, after.store) ∧
        after.context = before.context := by
    obtain ⟨answer, rfl⟩ := run_call_eq_ok called
    exact ⟨answer, rfl⟩
  rw [refresh_eq] at refreshed
  obtain ⟨_, first, taken, refreshed⟩ := run_bind_eq_ok refreshed
  obtain ⟨issue, issues, kept⟩ := renew_eq_ok taken (asks _) fun _ => rfl
  obtain ⟨_, second, taken, refreshed⟩ := run_bind_eq_ok refreshed
  obtain ⟨pullRequest, pullRequests, same⟩ := renew_eq_ok taken (asks _) fun _ => rfl
  obtain ⟨_, third, taken, refreshed⟩ := run_bind_eq_ok refreshed
  obtain ⟨comment, comments, left⟩ := renew_eq_ok taken (asks _) fun _ => rfl
  cases refreshed
  rw [kept] at same pullRequests
  rw [same] at left comments
  refine ⟨issue, pullRequest, comment, by simp only [left], first.store, second.store, ?_⟩
  simp only [left]
  exact ⟨issues, pullRequests, comments⟩

theorem apply_rerun_eq (services : Services σ) :
    applyRerun services = (do
      match (← context).rerun? with
      | none => return none
      | some (label, action) =>
          modifyContext fun context =>
            { context with operations := context.operations.removeLabel label }
          refresh services
          modifyContext fun context => context.setAction action
          return some action) := by
  unfold applyRerun Context.rerun?
  refine bind_congr fun current => ?_
  by_cases labeled : current.rawAction = "labeled"
  · simp only [labeled, ne_eq, not_true_eq_false, if_false, if_true]
    cases Rerun.find? ((current.target.map Item.labels).getD []) with
    | none => rfl
    | some asked =>
        obtain ⟨label, action⟩ := asked
        cases named : action.isEmpty with
        | true => simp [Option.filter_some, named]
        | false => simp [Option.filter_some, named]
  · simp only [labeled, ne_eq, not_false_eq_true, if_true, if_false]

/-- Either there is nothing to apply, or everything is read anew and the label is marked. -/
theorem apply_rerun_eq_ok {answer : Option String}
    (applied : (applyRerun services).run.run state = (.ok answer, after)) :
    (state.context.rerun? = none ∧ answer = none ∧ after = state) ∨
      ∃ label action issue pullRequest comment, state.context.rerun? = some (label, action) ∧
        answer = some action ∧
        after.context = state.context.rerun label action issue pullRequest comment ∧
        Rereads services.client state.context after.context state.store after.store := by
  rw [apply_rerun_eq, run_bind_ok (run_context state)] at applied
  rcases asked : state.context.rerun? with _ | ⟨label, action⟩
  · rw [asked] at applied
    cases applied
    exact .inl ⟨rfl, rfl, rfl⟩
  · rw [asked] at applied
    obtain ⟨_, marked, marking, applied⟩ := run_bind_eq_ok applied
    cases marking
    obtain ⟨_, fresh, refreshed, applied⟩ := run_bind_eq_ok applied
    obtain ⟨issue, pullRequest, comment, renewed, first, second, issues, pullRequests, comments⟩ :=
      refresh_eq_ok refreshed
    cases applied
    refine .inr ⟨label, action, issue, pullRequest, comment, rfl, rfl, ?_, first, second, issues,
      pullRequests, comments⟩
    simp only [renewed, Context.rerun]

end Run

end RepoRules
