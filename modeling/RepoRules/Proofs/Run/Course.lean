import RepoRules.Proofs.Run.DryRun
import RepoRules.Proofs.Run.Planning
import RepoRules.Proofs.Run.Replay

/-!
The course of a delivery over a repository in memory: the state in front of the walk, and the
operations that the walk carries out. The writes of the delivery are those of these operations, and
behind them the batches of the pool; they make what is stored at the end of what was stored at the
start.
-/

namespace RepoRules

open OfflineStore

/-- A delivery up to the end of its walk: the state in front of the walk, and the operations that the
walk carries out. -/
structure Course where
  start : Context
  steps : List Run.Executed

namespace Course

def target (course : Course) : Option Item :=
  course.start.target

def pool (course : Course) : Pool :=
  course.start.operations.enterAll (course.steps.flatMap Run.Executed.entries)

def writes (course : Course) : List Mutation :=
  course.steps.flatMap Run.Executed.writes

def report (course : Course) : FlushReport :=
  course.pool.report course.target

def sent (course : Course) : List Mutation :=
  course.writes ++ course.report.batches course.target

/-- What a delivery of this course reports, notes and leaves behind. -/
structure Leaves {κ : Type} (course : Course) (seeded : OfflineStore) (outcome : Outcome)
    (last : RunState OfflineStore κ) : Prop where
  targets : ∀ step ∈ course.steps, step.context.target = course.target
  operations : outcome.operations = course.report
  writes : Event.writes last.journal = course.sent
  store : last.store = seeded.replay course.sent

end Course

theorem Run.walk_and_conclude {repository : RepositoryRef} {page : String → Option String}
    {plan : Plan} {state inner last : RunState OfflineStore Context} {outcome : Outcome}
    (silent : Event.writes state.journal = [])
    (unflushed : state.context.operations.flushed = false)
    (walked : (walkPlan ⟨client repository, page⟩ plan).run.run state = (.ok (), inner))
    (concluded : (conclude ⟨client repository, page⟩ plan).run.run inner = (.ok outcome, last)) :
    Course.Leaves ⟨state.context, plan.executed ⟨client repository, page⟩ state⟩ state.store outcome
      last := by
  have replays := @walk_replays repository page plan state
  rw [walked] at replays
  have pending : inner.context.operations.flushed = false := by
    rw [replays.pool, Pool.enter_all_flushed]
    exact unflushed
  obtain ⟨_, _, ended, reported⟩ := @run_conclude repository page plan inner pending
  rw [concluded] at ended
  cases ended
  rw [replays.pool, replays.target] at reported
  refine ⟨replays.targets, reported, ?_, ?_⟩
  · simp only
    rw [Event.writes_append, Event.writes_of_mutations, replays.writes, silent, replays.pool,
      replays.target]
    rfl
  · simp only
    rw [replays.store, replays.pool, replays.target, ← replay_append]
    rfl

section Writes

variable {context : Context} {operation : Operation} {mutation : Mutation}

theorem eq_of_mem_unless {left : Bool} {written : Mutation}
    (member : mutation ∈ if left then [] else [written]) : left = false ∧ mutation = written := by
  cases left with
  | true => cases member
  | false => exact ⟨rfl, List.mem_singleton.1 member⟩

theorem Operation.mem_writes_to {item : Item} (written : mutation ∈ operation.writesTo context item) :
    mutation.isPooled = false ∧ mutation.number? = some item.number ∧
      ∀ number names, mutation = .removeReviewers number names → item.isPullRequest = true := by
  cases operation with
  | assignees change values =>
      simp only [writesTo] at written
      obtain ⟨_, rfl⟩ := eq_of_mem_unless written
      exact ⟨rfl, rfl, fun _ _ same => by cases same⟩
  | reviewers change values =>
      simp only [writesTo] at written
      obtain ⟨proposed, rfl⟩ := eq_of_mem_unless written
      rw [Bool.or_eq_false_iff, Bool.not_eq_false'] at proposed
      exact ⟨rfl, rfl, fun _ _ _ => proposed.1⟩
  | milestone change value =>
      obtain ⟨title, _, rfl⟩ := Option.map_eq_some_iff.1 (Option.mem_toList.1 written)
      exact ⟨rfl, rfl, fun _ _ same => by cases same⟩
  | comment template =>
      simp only [writesTo] at written
      obtain ⟨_, rfl⟩ := eq_of_mem_unless written
      exact ⟨rfl, rfl, fun _ _ same => by cases same⟩
  | _ => cases written

theorem Operation.mem_writes_to_project (written : mutation ∈ operation.writesToProject context) :
    mutation.isPooled = false ∧ mutation.number? = none := by
  cases operation with
  | project change value =>
      simp only [writesToProject] at written
      split at written
      · cases written
      · split at written
        · cases written
        · split at written
          · rw [List.mem_singleton.1 written]
            exact ⟨rfl, rfl⟩
          · rw [List.mem_singleton.1 written]
            exact ⟨rfl, rfl⟩
  | _ => cases written

/-- The writes of an operation go to the item at hand. -/
theorem Operation.mem_writes (written : mutation ∈ operation.writes context) :
    mutation.isPooled = false ∧ ∀ number, mutation.number? = some number →
      ∃ item, context.target = some item ∧ item.number = number ∧
        ∀ names, mutation = .removeReviewers number names → item.isPullRequest = true := by
  rcases List.mem_append.1 written with written | written
  · cases here : context.target with
    | none =>
        rw [here] at written
        cases written
    | some item =>
        rw [here] at written
        obtain ⟨direct, numbered, proposed⟩ := mem_writes_to written
        refine ⟨direct, fun number same => ⟨item, rfl, ?_, proposed number⟩⟩
        exact Option.some.inj (numbered.symm.trans same)
  · obtain ⟨direct, numbered⟩ := mem_writes_to_project written
    refine ⟨direct, fun number same => ?_⟩
    rw [numbered] at same
    cases same

theorem FlushReport.mem_mutations {report : FlushReport} {number : Nat}
    (sent : mutation ∈ report.mutations number) :
    mutation.isPooled = true ∧
      ∀ other logins, mutation = .addReviewers other logins → report.reviewersAdded ≠ [] := by
  simp only [mutations, List.mem_append] at sent
  rcases sent with ((added | removed) | assigned) | reviewing
  · obtain ⟨_, rfl⟩ := eq_of_mem_unless added
    exact ⟨rfl, fun _ _ same => by cases same⟩
  · obtain ⟨_, rfl⟩ := eq_of_mem_unless removed
    exact ⟨rfl, fun _ _ same => by cases same⟩
  · obtain ⟨_, rfl⟩ := eq_of_mem_unless assigned
    exact ⟨rfl, fun _ _ same => by cases same⟩
  · obtain ⟨filled, rfl⟩ := eq_of_mem_unless reviewing
    refine ⟨rfl, fun _ _ _ nobody => ?_⟩
    rw [nobody] at filled
    cases filled

theorem FlushReport.mem_batches {report : FlushReport} {target : Option Item}
    (sent : mutation ∈ report.batches target) :
    mutation.isPooled = true ∧
      ∀ other logins, mutation = .addReviewers other logins → report.reviewersAdded ≠ [] := by
  cases target with
  | none => cases sent
  | some item => exact mem_mutations sent

end Writes

namespace Engine

open Effects

section Course

variable {σ : Type}

def course (rules : RulesSource) (queries : QueryEngine) (delivery : Delivery)
    (services : Services σ) (repository : RepositoryRef) : Effects σ Unit Course := do
  let (plan, start) ← prepare rules queries delivery services repository
  let state ← get
  let _ ← Effects.within start (Run.walkPlan services plan)
  return ⟨start, plan.executed services ⟨start, state.store, state.journal⟩⟩

/-- The course of a delivery, if nothing fails up to the end of the walk. -/
def course? (engine : Engine σ) (delivery : Delivery) (store : σ) : Option Course :=
  ((engine.withServices delivery
    (course engine.rules engine.queries delivery)).run.run ⟨(), store, []⟩).1.toOption

theorem run_with_services_fixed {α : Type} (client : Client σ) (page : String → Option String)
    (rules : RulesSource) (queries : QueryEngine) {delivery : Delivery} {named : RepositoryRef}
    (found : Context.repositoryOf? delivery.payload = some named)
    (steps : Services σ → RepositoryRef → Effects σ Unit α) (state : RunState σ Unit) :
    ((fixed client page rules queries).withServices delivery steps).run.run state =
      (steps ⟨client, page⟩ named).run.run state := by
  unfold withServices
  rw [found]
  exact run_bind_ok (run_on_store _ state)

theorem of_payload_unflushed {kind : EventKind} {payload : Json} {rules : RuleDocument}
    {served : RepositoryRef} {delivery : Option String} {queries : QueryEngine} {context : Context}
    (read : Context.ofPayload kind payload rules served delivery queries = .ok context) :
    context.operations.flushed = false := by
  obtain ⟨_, _, _, _, _, _, rfl⟩ := Context.exists_of_payload read
  rfl

theorem prepare_unflushed {rules : RulesSource} {queries : QueryEngine} {delivery : Delivery}
    {services : Services σ} {named : RepositoryRef} {state after : RunState σ Unit} {plan : Plan}
    {start : Context}
    (prepared : (prepare rules queries delivery services named).run.run state =
      (.ok (plan, start), after)) :
    start.operations.flushed = false := by
  obtain ⟨context, middle, started, planned⟩ := run_bind_eq_ok prepared
  obtain ⟨document, _, payload⟩ := starting_context_eq_ok started
  have fresh : context.operations.flushed = false := of_payload_unflushed payload
  obtain ⟨inner, ready, rfl, _⟩ := run_within_eq_ok planned
  have moves : Moves (Plans services) (Run.plan services) ⟨context, middle.store, middle.journal⟩ :=
    Run.moves_plan
  rw [Moves, ready] at moves
  exact (eq_of_steps (·.context.operations.flushed) (fun _ _ => Plans.flushed_eq) moves).trans fresh

end Course

variable {repository : RepositoryRef} {page : String → Option String} {rules : RulesSource}
  {queries : QueryEngine} {delivery : Delivery} {seeded : OfflineStore}

/-- Up to the walk nothing is written, and the repository is still as it was seeded. -/
theorem prepare_standing {named : RepositoryRef} {plan : Plan} {start : Context}
    {after : RunState OfflineStore Unit}
    (prepared : (prepare rules queries delivery ⟨client repository, page⟩ named).run.run
      ⟨(), seeded, []⟩ = (.ok (plan, start), after)) :
    after.store = seeded ∧ Event.writes after.journal = [] := by
  obtain ⟨result, _, _, _, reading, here, _, ⟨rfl, _⟩, reads⟩ :=
    agree_prepare (services_agree_reading repository page seeded) rfl Event.is_read_planning
      rules queries delivery named () seeded (seeded, []) [] [] ⟨rfl, rfl⟩
  have same := here.symm.trans prepared
  cases same
  refine ⟨rfl, List.eq_nil_iff_forall_not_mem.2 fun mutation member => ?_⟩
  exact reads _ (Event.mem_writes.1 member) mutation rfl

/-- What a delivery leaves behind is told by its course. -/
theorem handle_replays {outcome : Outcome} {last : RunState OfflineStore Unit}
    (handled : ((fixed (client repository) page rules queries).handle delivery).run.run
      ⟨(), seeded, []⟩ = (.ok outcome, last)) :
    ∃ course, (fixed (client repository) page rules queries).course? delivery seeded = some course ∧
      course.Leaves seeded outcome last := by
  rw [handle_eq] at handled
  cases found : Context.repositoryOf? delivery.payload with
  | none =>
      unfold withServices at handled
      rw [found] at handled
      cases handled
  | some named =>
      rw [run_with_services_fixed _ _ _ _ found] at handled
      -- the run is taken apart into getting ready, the walk and what comes after it
      obtain ⟨_, _, walkedRun, concluded⟩ := run_bind_eq_ok handled
      obtain ⟨⟨plan, start⟩, ⟨_, store, journal⟩, ready, walkedRun⟩ := run_bind_eq_ok walkedRun
      obtain ⟨⟨_, finish⟩, _, walking, rest⟩ := run_bind_eq_ok walkedRun
      cases rest
      obtain ⟨⟨ending, _⟩, _, ended, rest⟩ := run_bind_eq_ok concluded
      cases rest
      refine ⟨⟨start, plan.executed ⟨client repository, page⟩ ⟨start, store, journal⟩⟩, ?_, ?_⟩
      · unfold course?
        rw [run_with_services_fixed _ _ _ _ found]
        unfold course
        rw [run_bind_ok ready, run_bind_ok (run_get _), run_bind_ok walking]
        rfl
      · obtain ⟨rfl, silent⟩ := prepare_standing ready
        obtain ⟨inner, walk, rfl, rfl⟩ := run_within_eq_ok walking
        obtain ⟨inmost, conclude, rfl, rfl⟩ := run_within_eq_ok ended
        obtain ⟨targets, operations, writes, stored⟩ :=
          Run.walk_and_conclude silent (prepare_unflushed ready) walk conclude
        exact ⟨targets, operations, writes, stored⟩

end Engine

def OfflineStore.handle (seeded : OfflineStore) (repository : RepositoryRef)
    (page : String → Option String) (rules : RulesSource) (queries : QueryEngine)
    (delivery : Delivery) : Except Failure Outcome × RunState OfflineStore Unit :=
  ((Engine.fixed (client repository) page rules queries).handle delivery).run.run ⟨(), seeded, []⟩

/-- A delivery that comes to its end over a repository in memory. -/
structure OfflineRun where
  repository : RepositoryRef
  page : String → Option String
  rules : RulesSource
  delivery : Delivery
  seeded : OfflineStore
  queries : QueryEngine := Query.run
  ends : (seeded.handle repository page rules queries delivery).1.toOption.isSome = true

namespace OfflineRun

variable (run : OfflineRun) {item : Item}

def outcome : Outcome :=
  (run.seeded.handle run.repository run.page run.rules run.queries run.delivery).1.toOption.get
    run.ends

def last : RunState OfflineStore Unit :=
  (run.seeded.handle run.repository run.page run.rules run.queries run.delivery).2

theorem handle_eq_ok :
    run.seeded.handle run.repository run.page run.rules run.queries run.delivery =
      (.ok run.outcome, run.last) := by
  have ended : (result : Except Failure Outcome × RunState OfflineStore Unit) →
      (ends : result.1.toOption.isSome = true) →
      result = (.ok (result.1.toOption.get ends), result.2)
    | (.ok _, _), _ => rfl
    | (.error _, _), ends => by cases ends
  exact ended _ run.ends

theorem course_is_some :
    ((Engine.fixed (client run.repository) run.page run.rules run.queries).course?
      run.delivery run.seeded).isSome = true := by
  obtain ⟨course, found, _⟩ := Engine.handle_replays run.handle_eq_ok
  rw [found]
  rfl

def course : Course :=
  ((Engine.fixed (client run.repository) run.page run.rules run.queries).course?
    run.delivery run.seeded).get run.course_is_some

theorem course_leaves : run.course.Leaves run.seeded run.outcome run.last := by
  obtain ⟨course, found, leaves⟩ := Engine.handle_replays run.handle_eq_ok
  have same : run.course = course := Option.get_of_eq_some _ found
  rwa [same]

theorem copies_last (number : Nat) :
    run.last.store.copies number =
      (run.seeded.copies number).map (Item.after number run.course.sent) := by
  rw [run.course_leaves.store, copies_replay]

theorem mem_writes {mutation : Mutation} (written : mutation ∈ run.course.writes) :
    mutation.isPooled = false ∧ ∀ number, mutation.number? = some number →
      ∃ item, run.course.target = some item ∧ item.number = number ∧
        ∀ names, mutation = .removeReviewers number names → item.isPullRequest = true := by
  obtain ⟨step, member, written⟩ := List.mem_flatMap.1 written
  have facts := Operation.mem_writes written
  rwa [run.course_leaves.targets step member] at facts

/-- An item after a delivery onto it. -/
theorem after_sent (target : run.course.target = some item) (held : Item) :
    held.after item.number run.course.sent =
      (held.after item.number run.course.writes).after item.number
        ((run.course.pool.resolveConflicts.reportFor item).mutations item.number) := by
  unfold Course.sent Course.report
  rw [target, Item.after_append]
  rfl

theorem mem_journal {mutation : Mutation} (direct : mutation.isPooled = false) :
    .called (.write mutation) ∈ run.last.journal ↔ mutation ∈ run.course.writes := by
  rw [← Event.mem_writes, run.course_leaves.writes, Course.sent, List.mem_append]
  refine or_iff_left fun sent => ?_
  have pooled := (FlushReport.mem_batches sent).1
  rw [direct] at pooled
  cases pooled

theorem number_of_mem_writes (target : run.course.target = some item) {mutation : Mutation}
    {number : Nat} (written : mutation ∈ run.course.writes)
    (numbered : mutation.number? = some number) : item.number = number := by
  obtain ⟨other, here, same, _⟩ := (run.mem_writes written).2 number numbered
  rwa [Option.some.inj (target.symm.trans here)]

end OfflineRun

def RuleDocument.onOpened (steps : List Step) : RuleDocument where
  revision := 1
  schemaVersion := minimumVersion
  ownerAlias := ""
  metadata := ⟨[], [], none⟩
  actions _ := ⟨[("opened", .sequence steps)]⟩
  predefined := .empty

def Delivery.opened (kind : EventKind) (field : String) (item : List (String × Json)) : Delivery where
  kind := kind
  payload := .ofFields
    [("action", .string "opened"), (field, .ofFields item),
      ("repository", .ofFields [("full_name", .string "octo/docs")])]
  id := none

def Delivery.seeded (delivery : Delivery) : OfflineStore :=
  (OfflineStore.ofPayload delivery.payload).toOption.getD .empty

end RepoRules
