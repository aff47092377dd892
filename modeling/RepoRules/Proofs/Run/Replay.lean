import RepoRules.Proofs.Repository.Replay
import RepoRules.Proofs.Run.Operations
import RepoRules.Proofs.Run.Stages
import RepoRules.Repository.Offline

/-!
Walks over a repository in memory. A walk makes the entries and the writes of its operations one
after the other, and a flush the writes of what has been pooled; what is stored is what these writes
make of what was stored before.
-/

namespace RepoRules

open OfflineStore

namespace Run.Executed

def entries (step : Executed) : List (Pool.Batch × String) :=
  step.operation.entries step.context

def writes (step : Executed) : List Mutation :=
  step.operation.writes step.context

end Run.Executed

/-- What evaluations and listings leave as it is. -/
def RunState.standing (state : RunState OfflineStore Context) :
    Option Item × Pool × List Mutation × OfflineStore :=
  (state.context.target, state.context.operations, Event.writes state.journal, state.store)

/-- Between two states these operations were carried out: all with the same item at hand, they have
made their entries in the pool, and their writes have been noted and stored. -/
structure Replays (before : RunState OfflineStore Context) (steps : List Run.Executed)
    (after : RunState OfflineStore Context) : Prop where
  target : after.context.target = before.context.target
  targets : ∀ step ∈ steps, step.context.target = before.context.target
  pool : after.context.operations =
    before.context.operations.enterAll (steps.flatMap Run.Executed.entries)
  writes : Event.writes after.journal =
    Event.writes before.journal ++ steps.flatMap Run.Executed.writes
  store : after.store = before.store.replay (steps.flatMap Run.Executed.writes)

namespace Replays

theorem of_standing {before after : RunState OfflineStore Context}
    (same : after.standing = before.standing) : Replays before [] after := by
  obtain ⟨target, pool, writes, store⟩ : _ ∧ _ ∧ _ ∧ _ := by
    simpa only [RunState.standing, Prod.mk.injEq] using same
  refine ⟨target, List.forall_mem_nil _, ?_, ?_, ?_⟩
  · rw [pool, List.flatMap_nil]
    rfl
  · rw [writes, List.flatMap_nil, List.append_nil]
  · rw [store, List.flatMap_nil]
    rfl

theorem append {before middle after : RunState OfflineStore Context}
    {first others : List Run.Executed} (early : Replays before first middle)
    (late : Replays middle others after) : Replays before (first ++ others) after where
  target := late.target.trans early.target
  targets := by
    intro step member
    rcases List.mem_append.1 member with member | member
    · exact early.targets step member
    · exact (late.targets step member).trans early.target
  pool := by rw [late.pool, early.pool, Pool.enter_all_append, List.flatMap_append]
  writes := by rw [late.writes, early.writes, List.append_assoc, List.flatMap_append]
  store := by rw [late.store, early.store, List.flatMap_append, replay_append]

end Replays

section Standing

variable {before after : RunState OfflineStore Context}

theorem Evaluates.standing_eq (evaluates : Evaluates before after) :
    after.standing = before.standing := by
  unfold RunState.standing
  cases evaluates with
  | noted source => rw [Event.writes_append_silent rfl]
  | failed message => rfl

theorem Lists.standing_eq {repository : RepositoryRef} {page : String → Option String}
    (lists : Lists ⟨client repository, page⟩ before after) : after.standing = before.standing := by
  unfold RunState.standing
  cases lists with
  | called number =>
      rw [RunState.called, Event.writes_append_silent rfl]
      rfl
  | kept files => rfl

end Standing

namespace Run

open Effects

variable {repository : RepositoryRef} {page : String → Option String}

theorem run_writes (mutations : List Mutation) (state : RunState OfflineStore Context) :
    (mutations.forM (write ⟨client repository, page⟩)).run.run state =
      (.ok (), { state with
        store := state.store.replay mutations
        journal := state.journal ++ mutations.map fun mutation => .called (.write mutation) }) := by
  induction mutations generalizing state with
  | nil =>
      rw [List.map_nil, List.append_nil]
      rfl
  | cons mutation rest induction =>
      change (write ⟨client repository, page⟩ mutation >>= fun _ =>
        rest.forM (write ⟨client repository, page⟩)).run.run state = _
      rw [run_bind_ok (run_write mutation state), induction, List.map_cons, RunState.called,
        List.append_assoc]
      rfl

theorem replays_operation (operation : Operation) (state : RunState OfflineStore Context) :
    Replays state [⟨operation, state.context⟩]
      ((operate ⟨client repository, page⟩ operation).run.run state).2 := by
  have acts : ActsAs ⟨client repository, page⟩ operation (operate _ operation) state :=
    acts_operate operation state
  have evaluated : Replays state [] (state.evaluating (operation.evaluations state.context)) :=
    .of_standing (eq_of_steps RunState.standing (fun _ _ => Evaluates.standing_eq)
      (state.steps_evaluating _))
  rw [acts, run_bind_ok (run_writes _ _), run_modify_context]
  refine evaluated.append ⟨rfl, ?_, ?_, ?_, ?_⟩
  · intro step member
    rw [List.mem_singleton.1 member]
    exact evaluated.target.symm
  · rw [List.flatMap_singleton]
    rfl
  · rw [Event.writes_append, Event.writes_of_mutations, List.flatMap_singleton]
    rfl
  · rw [List.flatMap_singleton]
    rfl

theorem replays_law : WalkLaw (⟨client repository, page⟩ : Services OfflineStore) Replays where
  idle _ := .of_standing rfl
  chain := .append
  evaluated steps :=
    .of_standing (eq_of_steps RunState.standing (fun _ _ => Evaluates.standing_eq) steps)
  listed steps := .of_standing (eq_of_steps RunState.standing (fun _ _ => Lists.standing_eq) steps)
  operated := replays_operation

end Run

def Plan.executed {σ : Type} (services : Services σ) (plan : Plan) (state : RunState σ Context) :
    List Run.Executed :=
  match plan.work with
  | none => []
  | some (_, tree) => Run.executed services tree.children state

def Pool.report (pool : Pool) : Option Item → FlushReport
  | none => .nothing
  | some item => pool.resolveConflicts.reportFor item

def FlushReport.batches (report : FlushReport) : Option Item → List Mutation
  | none => []
  | some item => report.mutations item.number

namespace Run

open Effects

variable {repository : RepositoryRef} {page : String → Option String}

theorem walk_replays (plan : Plan) (state : RunState OfflineStore Context) :
    Replays state (plan.executed ⟨client repository, page⟩ state)
      ((walkPlan ⟨client repository, page⟩ plan).run.run state).2 := by
  unfold walkPlan Plan.executed
  cases plan.work with
  | none => exact .of_standing rfl
  | some work => exact replays_law.walk_nodes _ _

/-- A flush reports what it sends. -/
theorem run_flush {state : RunState OfflineStore Context}
    (unflushed : state.context.operations.flushed = false) :
    let report := state.context.operations.report state.context.target
    let batches := report.batches state.context.target
    ∃ context, (flush ⟨client repository, page⟩).run.run state =
      (.ok report, {
        context
        store := state.store.replay batches
        journal := state.journal ++ batches.map fun mutation => .called (.write mutation) }) := by
  unfold flush Pool.flush
  rw [run_bind_ok (run_context state)]
  simp only [unflushed, Bool.false_eq_true, if_false]
  cases state.context.target with
  | none =>
      rw [run_bind_ok (run_modify_context _ state), FlushReport.batches, List.map_nil,
        List.append_nil]
      exact ⟨_, rfl⟩
  | some item =>
      rw [run_bind_ok (run_modify_context _ state), run_bind_ok (run_writes _ _)]
      exact ⟨_, rfl⟩

theorem run_conclude (plan : Plan) {state : RunState OfflineStore Context}
    (unflushed : state.context.operations.flushed = false) :
    let report := state.context.operations.report state.context.target
    let batches := report.batches state.context.target
    ∃ outcome context, (conclude ⟨client repository, page⟩ plan).run.run state =
        (.ok outcome, {
          context
          store := state.store.replay batches
          journal := state.journal ++ batches.map fun mutation => .called (.write mutation) }) ∧
      outcome.operations = report := by
  obtain ⟨context, flushed⟩ := @run_flush repository page state unflushed
  unfold conclude
  rw [run_bind_ok flushed]
  cases plan.work with
  | none => exact ⟨_, _, rfl, rfl⟩
  | some work => exact ⟨_, _, rfl, rfl⟩

end Run

end RepoRules
