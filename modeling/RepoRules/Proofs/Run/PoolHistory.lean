import Mathlib.Data.List.Induction
import Mathlib.Data.List.Nodup
import RepoRules.Proofs.Run.EndState
import RepoRules.Proofs.Text.Case

/-!
Pools and their flushes. Whatever is done to a pool, each of its lists holds trimmed texts in the
order in which they were first entered, each once. Only the first flush makes calls, and its report
says which.
-/

namespace RepoRules

open Effects

section FirstPlaces

variable {α : Type} [BEq α] [LawfulBEq α]

theorem erase_dups_concat (items : List α) (item : α) :
    (items ++ [item]).eraseDups =
      if items.contains item then items.eraseDups else items.eraseDups ++ [item] := by
  rw [List.eraseDups_append]
  cases known : items.contains item with
  | true => simp [List.removeAll, List.contains_iff_mem.1 known]
  | false =>
      have new : item ∉ items := by
        rw [← List.contains_iff_mem, known]
        exact Bool.false_ne_true
      simp [List.removeAll, new, List.eraseDups_cons]

theorem nodup_erase_dups (items : List α) : items.eraseDups.Nodup := by
  -- from the end, as it is the last item that may have been there before
  induction items using List.reverseRecOn with
  | nil => simp
  | append_singleton items item induction =>
      rw [erase_dups_concat]
      split
      · exact induction
      · next new =>
          rw [List.contains_iff_mem, ← List.mem_eraseDups] at new
          refine List.nodup_append.2 ⟨induction, List.nodup_singleton item, ?_⟩
          intro first member second single
          rw [List.mem_singleton.1 single]
          rintro rfl
          exact new member

theorem erase_dups_filter (keep : α → Bool) (items : List α) :
    (items.filter keep).eraseDups = items.eraseDups.filter keep := by
  induction items using List.reverseRecOn with
  | nil => simp
  | append_singleton items item induction =>
      rw [List.filter_append, erase_dups_concat]
      cases kept : keep item with
      | false =>
        have single : [item].filter keep = [] := by simp [kept]
        rw [single, List.append_nil, induction]
        split
        · rfl
        · rw [List.filter_append, single, List.append_nil]
      | true =>
        have single : [item].filter keep = [item] := by simp [kept]
        have known : (items.filter keep).contains item = items.contains item := by
          rw [Bool.eq_iff_iff, List.contains_iff_mem, List.contains_iff_mem, List.mem_filter]
          exact and_iff_left kept
        rw [single, erase_dups_concat, known, induction]
        split
        · rfl
        · rw [List.filter_append, single]

end FirstPlaces

namespace Pool

inductive Step where
  | enter (batch : Batch) (text : String)
  | resolveConflicts
  | flush (target : Option Item)

section Histories

variable {σ : Type}

def keep (pool : Pool) : Effects σ Pool Unit :=
  modify fun state => { state with context := pool }

def take (client : Client σ) (step : Step) : Effects σ Pool (Option FlushReport) := do
  let pool := (← get).context
  match step with
  | .enter batch text =>
      keep (pool.enter batch text)
      return none
  | .resolveConflicts =>
      keep pool.resolveConflicts
      return none
  | .flush target =>
      let send (mutation : Mutation) : Effects σ Pool Unit := call client (.write mutation)
      return some (← pool.flush send keep target)

/-- A new pool after changes, each made whether or not those before it have failed. -/
def history (client : Client σ) (steps : List Step) (store : σ) : RunState σ Pool :=
  steps.foldl (fun state step => ((take client step).run.run state).2) ⟨empty, store, []⟩

end Histories

/-- What has been entered in a pool and is still in it: trimmed texts that are not empty, as often
as they were entered, in this order. -/
structure Ledger where
  entries : List (Batch × String)
  flushed : Bool

namespace Ledger

def new : Ledger := ⟨[], false⟩

def texts (ledger : Ledger) (batch : Batch) : List String :=
  (ledger.entries.filter fun entry => entry.1 = batch).map Prod.snd

def resolved (ledger : Ledger) : Ledger :=
  { ledger with
    entries := ledger.entries.filter fun entry =>
      !(entry.1 = .labelsToAdd && (ledger.texts .labelsToRemove).contains entry.2) }

/-- The ledger behind a change. Only the first flush changes it, and one onto an item takes
everything out. -/
def after (ledger : Ledger) : Step → Ledger
  | .enter batch text =>
      if Text.trim text = "" then ledger
      else { ledger with entries := ledger.entries ++ [(batch, Text.trim text)] }
  | .resolveConflicts => ledger.resolved
  | .flush target =>
      if ledger.flushed then ledger
      else if target.isSome then ⟨[], true⟩
      else { ledger.resolved with flushed := true }

def ofSteps (steps : List Step) : Ledger :=
  steps.foldl after new

end Ledger

structure Keeps (ledger : Ledger) (pool : Pool) : Prop where
  names : ∀ batch, pool.names batch = (ledger.texts batch).eraseDups
  flushed : pool.flushed = ledger.flushed

section Ledgers

variable {ledger : Ledger} {pool : Pool}

theorem Ledger.texts_enter (ledger : Ledger) (batch other : Batch) (text : String) :
    (ledger.after (.enter batch text)).texts other =
      ledger.texts other ++
        if batch = other ∧ Text.trim text ≠ "" then [Text.trim text] else [] := by
  unfold after
  dsimp only
  by_cases blank : Text.trim text = ""
  · rw [if_pos blank, if_neg fun filled => filled.2 blank, List.append_nil]
  · rw [if_neg blank, texts, texts, List.filter_append, List.map_append]
    by_cases same : batch = other
    · rw [if_pos ⟨same, blank⟩]
      simp [same]
    · rw [if_neg fun filled => same filled.1]
      simp [same]

theorem Ledger.texts_resolved (ledger : Ledger) (batch : Batch) :
    ledger.resolved.texts batch =
      if batch = .labelsToAdd then
        (ledger.texts batch).filter fun label => !(ledger.texts .labelsToRemove).contains label
      else ledger.texts batch := by
  simp only [resolved, texts, List.filter_filter]
  split
  · next adding =>
      subst adding
      rw [List.filter_map, List.filter_filter]
      congr 1
      refine List.filter_congr fun entry _ => ?_
      by_cases added : entry.1 = .labelsToAdd
      · simp [added]
      · simp [added]
  · next other =>
      congr 1
      refine List.filter_congr fun entry _ => ?_
      by_cases same : entry.1 = batch
      · simp [same, other]
      · simp [same]

theorem add_erase_dups (texts : List String) (text : String) :
    NameSet.add texts.eraseDups text =
      (texts ++ if Text.trim text ≠ "" then [Text.trim text] else []).eraseDups := by
  unfold NameSet.add
  dsimp only
  by_cases blank : Text.trim text = ""
  · simp [blank]
  · have known : texts.eraseDups.contains (Text.trim text) = texts.contains (Text.trim text) := by
      rw [Bool.eq_iff_iff, List.contains_iff_mem, List.contains_iff_mem, List.mem_eraseDups]
    rw [if_pos blank, erase_dups_concat, known]
    simp [blank]

theorem Keeps.new : Keeps .new empty := by
  refine ⟨fun batch => ?_, rfl⟩
  cases batch <;> rfl

theorem Keeps.enter (keeps : Keeps ledger pool) (batch : Batch) (text : String) :
    Keeps (ledger.after (.enter batch text)) (pool.enter batch text) := by
  constructor
  · intro other
    rw [names_enter, keeps.names, Ledger.texts_enter]
    by_cases same : batch = other
    · rw [if_pos same, add_erase_dups]
      simp only [same, true_and]
    · rw [if_neg same, if_neg fun filled => same filled.1, List.append_nil]
  · have unchanged : (pool.enter batch text).flushed = pool.flushed := by
      cases batch <;> simp only [Pool.enter, addLabel, removeLabel, addAssignee, addReviewer]
    rw [unchanged, keeps.flushed]
    unfold Ledger.after
    dsimp only
    split
    · rfl
    · rfl

theorem names_resolve_conflicts (pool : Pool) (batch : Batch) :
    pool.resolveConflicts.names batch =
      if batch = .labelsToAdd then
        (pool.names batch).filter fun label => !(pool.names .labelsToRemove).contains label
      else pool.names batch := by
  cases batch <;> rfl

theorem Keeps.resolve (keeps : Keeps ledger pool) :
    Keeps ledger.resolved pool.resolveConflicts := by
  refine ⟨?_, keeps.flushed⟩
  intro batch
  have removed (label : String) : (ledger.texts .labelsToRemove).eraseDups.contains label =
      (ledger.texts .labelsToRemove).contains label := by
    rw [Bool.eq_iff_iff, List.contains_iff_mem, List.contains_iff_mem, List.mem_eraseDups]
  rw [names_resolve_conflicts, Ledger.texts_resolved, keeps.names, keeps.names]
  split
  · simp only [removed, erase_dups_filter]
  · rfl

end Ledgers

section Flushes

variable {σ : Type} (client : Client σ) {state : RunState σ Pool}

theorem run_keep (pool : Pool) (state : RunState σ Pool) :
    (keep pool).run.run state = (.ok (), { state with context := pool }) := rfl

theorem take_enter (batch : Batch) (text : String) :
    (take client (.enter batch text)).run.run state =
      (.ok none, { state with context := state.context.enter batch text }) := rfl

theorem take_resolve_conflicts :
    (take client .resolveConflicts).run.run state =
      (.ok none, { state with context := state.context.resolveConflicts }) := rfl

theorem take_flush_again (flushed : state.context.flushed = true) (target : Option Item) :
    (take client (.flush target)).run.run state = (.ok (some .nothing), state) := by
  unfold take
  rw [run_bind_ok (run_get state)]
  simp only [Pool.flush, flushed, if_true]
  rfl

theorem take_flush_nowhere (fresh : state.context.flushed = false) :
    (take client (.flush none)).run.run state =
      (.ok (some .nothing),
        { state with context := { state.context.resolveConflicts with flushed := true } }) := by
  unfold take
  rw [run_bind_ok (run_get state)]
  simp only [Pool.flush, fresh, Bool.false_eq_true, if_false]
  rfl

theorem take_flush_onto (fresh : state.context.flushed = false) (target : Item) :
    let report := state.context.report (some target)
    ∃ result store sent,
      (take client (.flush (some target))).run.run state =
        (result, ⟨{ empty with flushed := true }, store,
          state.journal ++ sent.map fun mutation => .called (.write mutation)⟩) ∧
      sent <+: report.mutations target.number ∧
      (∀ told, result = .ok told → told = some report ∧ sent = report.mutations target.number) ∧
      ∀ failure, result = .error failure → ∃ last before, sent.getLast? = some last ∧
        (client.answer (.write last) before).1 = .error failure := by
  intro report
  obtain ⟨result, store, sent, going, early, complete, failed⟩ :=
    writes_go_out client (report.mutations target.number)
      ⟨{ empty with flushed := true }, state.store, state.journal⟩
  have taken : (take client (.flush (some target))).run.run state =
      (((report.mutations target.number).forM fun mutation => call client (.write mutation)) >>=
        fun _ => (pure (some report) : Effects σ Pool _)).run.run
          ⟨{ empty with flushed := true }, state.store, state.journal⟩ := by
    unfold take
    rw [run_bind_ok (run_get state)]
    simp only [Pool.flush, fresh, Bool.false_eq_true, if_false, bind_assoc, pure_bind]
    exact run_bind_ok (run_keep _ state)
  cases result with
  | error failure =>
      refine ⟨.error failure, store, sent, taken.trans (run_bind_error going), early, nofun, ?_⟩
      rintro _ ⟨⟩
      exact failed failure rfl
  | ok value =>
      refine ⟨.ok (some report), store, sent, taken.trans (run_bind_ok going), early, ?_, nofun⟩
      rintro _ ⟨⟩
      exact ⟨rfl, complete value rfl⟩

theorem Keeps.take {ledger : Ledger} (keeps : Keeps ledger state.context) (step : Step) :
    Keeps (ledger.after step) ((take client step).run.run state).2.context := by
  cases step with
  | enter batch text =>
      rw [take_enter]
      exact keeps.enter batch text
  | resolveConflicts =>
      rw [take_resolve_conflicts]
      exact keeps.resolve
  | flush target =>
      unfold Ledger.after
      dsimp only
      rw [← keeps.flushed]
      cases flushed : state.context.flushed with
      | true =>
          rw [if_pos rfl, take_flush_again client flushed]
          exact keeps
      | false =>
          rw [if_neg Bool.false_ne_true]
          cases target with
          | none =>
              rw [take_flush_nowhere client flushed]
              exact ⟨fun batch => keeps.resolve.names batch, rfl⟩
          | some item =>
              -- the pool has been emptied in front of the calls, so a failed one changes nothing
              obtain ⟨_, _, _, taken, _⟩ := take_flush_onto client flushed item
              rw [taken]
              refine ⟨fun batch => ?_, rfl⟩
              cases batch <;> rfl

theorem Keeps.history (steps : List Step) (store : σ) :
    Keeps (.ofSteps steps) (history client steps store).context := by
  induction steps using List.reverseRecOn with
  | nil => exact .new
  | append_singleton steps step induction =>
      unfold Ledger.ofSteps Pool.history at *
      rw [List.foldl_concat, List.foldl_concat]
      exact induction.take client step

theorem Ledger.flushed_after (ledger : Ledger) (step : Step) :
    (ledger.after step).flushed = true ↔
      ledger.flushed = true ∨ ∃ target, step = .flush target := by
  cases step with
  | enter batch text =>
      unfold after
      dsimp only
      split <;> simp
  | resolveConflicts => simp [after, resolved]
  | flush target =>
      unfold after
      dsimp only
      cases flushed : ledger.flushed with
      | true => simp [flushed]
      | false => cases target <;> simp

theorem Ledger.flushed_of_steps (steps : List Step) :
    (ofSteps steps).flushed = true ↔ ∃ target, .flush target ∈ steps := by
  induction steps using List.reverseRecOn with
  | nil => simp [ofSteps, new]
  | append_singleton steps step induction =>
      unfold ofSteps at *
      rw [List.foldl_concat, flushed_after, induction, ← exists_or]
      simp only [List.mem_append, List.mem_singleton, eq_comm]

theorem Ledger.clean_of_steps (steps : List Step) :
    ∀ entry ∈ (ofSteps steps).entries, Text.trim entry.2 = entry.2 ∧ entry.2 ≠ "" := by
  induction steps using List.reverseRecOn with
  | nil => simp [ofSteps, new]
  | append_singleton steps step induction =>
      unfold ofSteps at *
      rw [List.foldl_concat]
      generalize steps.foldl after new = ledger at *
      cases step with
      | enter batch text =>
          unfold after
          dsimp only
          split
          · exact induction
          · next filled =>
              intro entry member
              rcases List.mem_append.1 member with early | late
              · exact induction entry early
              · rw [List.mem_singleton.1 late]
                exact ⟨Text.trim_trim text, filled⟩
      | resolveConflicts =>
          intro entry member
          exact induction entry (List.mem_filter.1 member).1
      | flush target =>
          unfold after
          dsimp only
          split
          · exact induction
          · split
            · exact List.forall_mem_nil _
            · intro entry member
              exact induction entry (List.mem_filter.1 member).1

end Flushes

def Batch.all : List Batch := [.labelsToAdd, .labelsToRemove, .assignees, .reviewers]

def Batch.mutation (number : Nat) (names : List String) : Batch → Mutation
  | .labelsToAdd => .addLabels number names
  | .labelsToRemove => .removeLabels number names
  | .assignees => .addAssignees number names
  | .reviewers => .addReviewers number names

def due (pool : Pool) (item : Item) : Batch → List String
  | .labelsToAdd => pool.labelsToAdd.filter fun label => !pool.labelsToRemove.contains label
  | .labelsToRemove => pool.labelsToRemove
  | .assignees => pool.assignees
  | .reviewers => if item.isPullRequest then pool.reviewers else []

end Pool

def Mutation.batch? : Mutation → Option Pool.Batch
  | .addLabels _ _ => some .labelsToAdd
  | .removeLabels _ _ => some .labelsToRemove
  | .addAssignees _ _ => some .assignees
  | .addReviewers _ _ => some .reviewers
  | .removeAssignees _ _ | .removeReviewers _ _ | .postComment _ _ | .setMilestone _ _
  | .addToProject _ _ | .removeFromProject _ _ => none

namespace FlushReport

def names (report : FlushReport) : Pool.Batch → List String
  | .labelsToAdd => report.labelsAdded
  | .labelsToRemove => report.labelsRemoved
  | .assignees => report.assigneesAdded
  | .reviewers => report.reviewersAdded

def calls (report : FlushReport) (number : Nat) : List Mutation :=
  (Pool.Batch.all.filter fun batch => !(report.names batch).isEmpty).map fun batch =>
    batch.mutation number (report.names batch)

/-- A report tells what was sent. A list is empty only if no call was made for it, and reviewers are
for pull requests. -/
structure Tells (report : FlushReport) (target : Option Item) (sent : List Mutation) : Prop where
  made : sent = target.elim [] fun item => report.calls item.number
  silent : ∀ batch, report.names batch = [] ↔ ∀ mutation ∈ sent, mutation.batch? ≠ some batch
  reviewing : report.reviewersAdded ≠ [] → ∃ item, target = some item ∧ item.isPullRequest = true

theorem mutations_eq_calls (report : FlushReport) (number : Nat) :
    report.mutations number = report.calls number := by
  rcases report with ⟨added, removed, assigned, reviewing⟩
  rcases added with _ | _ <;> rcases removed with _ | _ <;> rcases assigned with _ | _ <;>
    rcases reviewing with _ | _ <;> rfl

theorem batch_of_mutation (batch : Pool.Batch) (number : Nat) (names : List String) :
    (batch.mutation number names).batch? = some batch := by
  cases batch <;> rfl

theorem silent_of_calls (report : FlushReport) (number : Nat) (batch : Pool.Batch) :
    report.names batch = [] ↔
      ∀ mutation ∈ report.calls number, mutation.batch? ≠ some batch := by
  have listed : batch ∈ Pool.Batch.all := by
    cases batch <;> decide
  constructor
  · intro empty mutation member same
    obtain ⟨other, filled, rfl⟩ := List.mem_map.1 member
    rw [batch_of_mutation, Option.some_inj] at same
    subst same
    rw [List.mem_filter, empty] at filled
    cases filled.2
  · intro silent
    by_contra filled
    refine silent _ (List.mem_map_of_mem (List.mem_filter.2 ⟨listed, ?_⟩))
      (batch_of_mutation batch number _)
    simpa using filled

end FlushReport

namespace Pool

theorem names_report (pool : Pool) (item : Item) (batch : Batch) :
    (pool.report (some item)).names batch = pool.due item batch := by
  cases batch <;> rfl

theorem tells_nothing (target : Option Item) : FlushReport.nothing.Tells target [] := by
  refine ⟨?_, ?_, ?_⟩
  · cases target <;> rfl
  · intro batch
    refine iff_of_true ?_ (List.forall_mem_nil _)
    cases batch <;> rfl
  · intro some
    cases some rfl

theorem tells_report (pool : Pool) (item : Item) :
    (pool.report (some item)).Tells (some item)
      ((pool.report (some item)).mutations item.number) := by
  refine ⟨FlushReport.mutations_eq_calls _ _, ?_, ?_⟩
  · intro batch
    rw [FlushReport.mutations_eq_calls]
    exact FlushReport.silent_of_calls _ _ batch
  · intro reviewing
    refine ⟨item, rfl, ?_⟩
    by_contra issue
    refine reviewing ?_
    exact if_neg issue

/-- What holds of a pool after changes of it, and of the change that comes next. -/
structure Lives {σ : Type} (client : Client σ) (steps : List Step) (state : RunState σ Pool) :
    Prop where
  in_order : ∀ batch, state.context.names batch = ((Ledger.ofSteps steps).texts batch).eraseDups
  distinct : ∀ batch, (state.context.names batch).Nodup
  trimmed : ∀ batch, ∀ name ∈ state.context.names batch, Text.trim name = name ∧ name ≠ ""
  /-- Other changes than flushes make no call. -/
  quiet : ∀ step, (∀ target, step ≠ .flush target) → ∃ pool,
    (take client step).run.run state = (.ok none, { state with context := pool })
  /-- Nor does a flush that is not the first. -/
  only_first : (∃ earlier, .flush earlier ∈ steps) → ∀ target,
    (take client (.flush target)).run.run state = (.ok (some .nothing), state)
  told : ∀ target report after,
    (take client (.flush target)).run.run state = (.ok (some report), after) →
      ∃ sent, report.Tells target sent ∧
        after.journal = state.journal ++ sent.map fun mutation => .called (.write mutation)
  /-- The first flush onto an item sends what is due, and ends in a failure only if a call does,
  which is the last one then. -/
  first : (∀ earlier, .flush earlier ∉ steps) → ∀ item, ∃ result after sent,
    (take client (.flush (some item))).run.run state = (result, after) ∧
      after.journal = state.journal ++ sent.map (fun mutation => .called (.write mutation)) ∧
      (∀ told, result = .ok told → ∃ report, told = some report ∧
        ∀ batch, report.names batch = state.context.due item batch) ∧
      ∀ failure, result = .error failure → ∃ last before, sent.getLast? = some last ∧
        (client.answer (.write last) before).1 = .error failure ∧
        ∃ report : FlushReport, (∀ batch, report.names batch = state.context.due item batch) ∧
          sent <+: report.calls item.number

theorem life_cycle {σ : Type} (client : Client σ) (steps : List Step) (store : σ) :
    Lives client steps (history client steps store) := by
  have keeps := Keeps.history client steps store
  -- all that is needed of the steps is that the pool is as their ledger has it
  generalize history client steps store = state at keeps
  have flushed : state.context.flushed = true ↔ ∃ earlier, .flush earlier ∈ steps := by
    rw [keeps.flushed, Ledger.flushed_of_steps]
  constructor
  case in_order => exact keeps.names
  case distinct =>
    intro batch
    rw [keeps.names]
    exact nodup_erase_dups _
  case trimmed =>
    intro batch name member
    rw [keeps.names, List.mem_eraseDups] at member
    obtain ⟨entry, found, rfl⟩ := List.mem_map.1 member
    exact Ledger.clean_of_steps steps entry (List.mem_filter.1 found).1
  case quiet =>
    intro step other
    cases step with
    | enter batch text => exact ⟨_, take_enter client batch text⟩
    | resolveConflicts => exact ⟨_, take_resolve_conflicts client⟩
    | flush target => exact absurd rfl (other target)
  case only_first =>
    intro earlier
    exact take_flush_again client (flushed.2 earlier)
  case told =>
    intro target report after taken
    cases again : state.context.flushed with
    | true =>
        rw [take_flush_again client again] at taken
        cases taken
        exact ⟨[], tells_nothing target, (List.append_nil _).symm⟩
    | false =>
        cases target with
        | none =>
            rw [take_flush_nowhere client again] at taken
            cases taken
            exact ⟨[], tells_nothing none, (List.append_nil _).symm⟩
        | some item =>
            obtain ⟨result, last, sent, going, _, complete, _⟩ := take_flush_onto client again item
            rw [going] at taken
            cases taken
            obtain ⟨same, rfl⟩ := complete _ rfl
            cases same
            exact ⟨_, tells_report _ item, rfl⟩
  case first =>
    intro new item
    have unflushed : state.context.flushed = false := by
      rw [← Bool.not_eq_true, flushed, not_exists]
      exact new
    obtain ⟨result, last, sent, going, early, complete, failed⟩ :=
      take_flush_onto client unflushed item
    refine ⟨result, _, sent, going, rfl, ?_, ?_⟩
    · intro told same
      exact ⟨_, (complete told same).1, names_report _ item⟩
    · intro failure same
      obtain ⟨final, before, ends, refused⟩ := failed failure same
      rw [FlushReport.mutations_eq_calls] at early
      exact ⟨final, before, ends, refused, _, names_report _ item, early⟩

end Pool

end RepoRules
