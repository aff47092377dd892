import RepoRules.Proofs.Run.Beginning
import RepoRules.Proofs.Run.Standing

/-!
Reruns from start to end. The label that asked for a rerun comes off, whatever the rules want with
it; what is looked up is the action it names, and everything behind that is about the items as they
were read anew.
-/

namespace RepoRules

open Effects

theorem Rerun.trim_ne_empty {label suffix : String} (asks : suffix? label = some suffix) :
    Text.trim label ≠ "" := by
  unfold suffix? at asks
  dsimp only at asks
  split at asks
  · next fits =>
      rw [Bool.and_eq_true, Text.sameAsciiCase_iff, String.toList_ofList] at fits
      obtain ⟨_, begins⟩ := fits
      cases characters : label.toList with
      | nil =>
          rw [characters] at begins
          cases begins
      | cons first rest =>
          rw [characters] at begins
          have letter : first.toLower = 'r' := List.head_eq_of_cons_eq begins
          have visible : Text.isBlank first = false := by
            rw [Bool.eq_false_iff]
            intro blank
            rw [Text.lower_of_blank blank] at letter
            rw [letter] at blank
            cases blank
          intro empty
          have none := congrArg String.toList empty
          rw [Text.trim, String.toList_ofList, characters] at none
          exact Text.trim_chars_ne_nil List.mem_cons_self visible none
  · cases asks

section Pools

variable {name : String}

theorem NameSet.mem_add_of_mem {set : NameSet} (member : name ∈ set) (text : String) :
    name ∈ set.add text := by
  unfold NameSet.add
  dsimp only
  split
  · exact member
  · exact List.mem_append_left _ member

theorem NameSet.mem_add (set : NameSet) {text : String} (filled : Text.trim text ≠ "") :
    Text.trim text ∈ set.add text := by
  unfold NameSet.add
  dsimp only
  split
  · next known =>
      rw [Bool.or_eq_true, String.isEmpty_iff, List.contains_iff_mem] at known
      exact known.resolve_left filled
  · exact List.mem_append_right _ (List.mem_singleton.2 rfl)

theorem Pool.mem_remove_label (pool : Pool) {label : String} (filled : Text.trim label ≠ "") :
    Text.trim label ∈ (pool.removeLabel label).labelsToRemove := by
  simp only [removeLabel]
  exact NameSet.mem_add _ filled

/-- A label that is to be removed stays so. -/
theorem Pool.mem_removals {pool : Pool} (member : name ∈ pool.labelsToRemove)
    (entries : List (Batch × String)) : name ∈ (pool.enterAll entries).labelsToRemove := by
  induction entries generalizing pool with
  | nil => exact member
  | cons entry rest induction =>
      obtain ⟨batch, text⟩ := entry
      have entered : name ∈ (pool.enter batch text).labelsToRemove := by
        cases batch with
        | labelsToRemove =>
            simp only [enter, removeLabel]
            exact NameSet.mem_add_of_mem member text
        | labelsToAdd | assignees | reviewers =>
            simp only [enter, addLabel, addAssignee, addReviewer]
            exact member
      have first : pool.enterAll ((batch, text) :: rest) =
          (pool.enter batch text).enterAll rest := rfl
      rw [first]
      exact induction entered

/-- It is reported as removed, and not as added, even if it is to be added as well. -/
theorem Pool.removed_of_report {pool : Pool} (member : name ∈ pool.labelsToRemove) (item : Item) :
    name ∈ (pool.report (some item)).labelsRemoved ∧
      name ∉ (pool.report (some item)).labelsAdded := by
  refine ⟨member, ?_⟩
  intro added
  have kept := (List.mem_filter.1 added).2
  rw [List.contains_iff_mem.2 member] at kept
  cases kept

theorem Pool.mutations_of_removal {label : String} (filled : Text.trim label ≠ "") (item : Item) :
    ((Pool.empty.removeLabel label).report (some item)).batches (some item) =
      [.removeLabels item.number [Text.trim label]] := by
  have single : NameSet.add [] label = [Text.trim label] := by
    simp [NameSet.add, filled]
  simp [report, FlushReport.batches, FlushReport.mutations, reportFor, resolveConflicts, removeLabel,
    empty, single]

end Pools

namespace Run

variable {σ : Type} {services : Services σ} {state after : RunState σ Context}

theorem writes_eq_ok {mutations : List Mutation}
    (sent : (mutations.forM (write services)).run.run state = (.ok (), after)) :
    after.journal = state.journal ++ mutations.map fun mutation => .called (.write mutation) := by
  obtain ⟨_, _, gone, going, _, complete, _⟩ := writes_go_out services.client mutations state
  cases going.symm.trans sent
  rw [complete () rfl]

/-- A flush that comes to its end has sent what it reports. -/
theorem flush_eq_ok {report : FlushReport} (unflushed : state.context.operations.flushed = false)
    (flushed : (flush services).run.run state = (.ok report, after)) :
    report = state.context.operations.report state.context.target ∧
      after.journal = state.journal ++
        (report.batches state.context.target).map fun mutation => .called (.write mutation) := by
  unfold flush Pool.flush at flushed
  rw [run_bind_ok (run_context state)] at flushed
  simp only [unflushed, Bool.false_eq_true, if_false] at flushed
  cases target : state.context.target with
  | none =>
      rw [target] at flushed
      cases flushed
      exact ⟨rfl, (List.append_nil _).symm⟩
  | some item =>
      rw [target] at flushed
      obtain ⟨_, kept, holding, flushed⟩ := run_bind_eq_ok flushed
      cases holding
      obtain ⟨_, last, sent, flushed⟩ := run_bind_eq_ok flushed
      have noted := writes_eq_ok sent
      cases flushed
      exact ⟨rfl, noted⟩

theorem conclude_eq_ok {plan : Plan} {outcome : Outcome}
    (unflushed : state.context.operations.flushed = false)
    (concluded : (conclude services plan).run.run state = (.ok outcome, after)) :
    outcome.rerun = plan.rerun ∧ outcome.action = plan.work.map Prod.fst ∧
      (outcome.status = .noAction ↔ plan.work = none) ∧
      outcome.operations = state.context.operations.report state.context.target ∧
      after.journal = state.journal ++
        (outcome.operations.batches state.context.target).map
          fun mutation => .called (.write mutation) := by
  obtain ⟨report, flushed, flushing, concluded⟩ := run_bind_eq_ok concluded
  obtain ⟨reported, sent⟩ := flush_eq_ok unflushed flushing
  cases work : plan.work with
  | none =>
      rw [work] at concluded
      cases concluded
      exact ⟨rfl, rfl, iff_of_true rfl rfl, reported, sent⟩
  | some found =>
      rw [work] at concluded
      cases concluded
      refine ⟨rfl, rfl, iff_of_false ?_ nofun, reported, sent⟩
      unfold Engine.outcomeOf
      dsimp only
      split <;> exact nofun

theorem rerun_of_plan {plan : Plan} (plain : state.context.Plain)
    (planned : (Run.plan services).run.run state = (.ok plan, after)) (rerun : plan.rerun = true) :
    ∃ label action, state.context.rerun? = some (label, action) ∧
      Rereads services.client state.context after.context state.store after.store ∧
      after.context.operations = state.context.operations.removeLabel label ∧
      (plan.work = none ∧
          resolve (state.context.rules.actions state.context.kind) action = .ok .undefined ∨
        ∃ name tree remapped steps, plan.work = some (name, tree) ∧
          resolve (state.context.rules.actions state.context.kind) action =
            .ok (.resolved name remapped steps)) := by
  obtain ⟨fresh, answered, readies, looked⟩ := plan_eq_ok plain planned
  rw [rerun] at answered
  obtain ⟨⟨label, action⟩, asked⟩ := Option.isSome_iff_exists.1 answered.symm
  have named : state.context.requested = action := by
    rw [Context.requested, asked]
    rfl
  have reread := readies.reread answered.symm
  have marked := readies.marked label action asked
  rw [named] at looked
  refine ⟨label, action, asked, ?_⟩
  rcases looked with ⟨undefined, idle, context⟩ |
    ⟨name, remapped, steps, resolved, work, _, context⟩
  · rw [context]
    exact ⟨reread, marked, .inl ⟨idle, undefined⟩⟩
  · rw [context]
    exact ⟨reread.of_items (fresh.items_followed name remapped),
      (fresh.operations_followed name remapped).trans marked,
      .inr ⟨name, _, remapped, steps, work, resolved⟩⟩

end Run

/-- The states in which a walk meets nodes, and the one it ends with. -/
def Plan.met {σ : Type} (services : Services σ) (plan : Plan) (state : RunState σ Context) :
    List Context :=
  (match plan.work with
    | none => []
    | some (_, tree) => Run.met services tree.children state) ++
    [((Run.walkPlan services plan).run.run state).2.context]

theorem Run.stands_walk_plan {σ : Type} (services : Services σ) (plan : Plan)
    (state : RunState σ Context) :
    state.context.Stands ((walkPlan services plan).run.run state).2.context := by
  unfold walkPlan
  cases plan.work with
  | none => exact .refl _
  | some work => exact stands_law.walk_nodes work.2.children state

theorem Plan.stands_of_met {σ : Type} {services : Services σ} {plan : Plan}
    {state : RunState σ Context} {context : Context} (found : context ∈ plan.met services state) :
    state.context.Stands context := by
  unfold met at found
  rw [List.mem_append, List.mem_singleton] at found
  rcases found with found | rfl
  · cases work : plan.work with
    | none =>
        rw [work] at found
        cases found
    | some held =>
        rw [work] at found
        exact Run.stands_of_met held.2.children state context found
  · exact Run.stands_walk_plan services plan state

/-- How a delivery goes on with a label that asks for a rerun: its action is the one that is looked
up, everything behind that is about what was read anew, and the label comes off. -/
structure Reruns {σ : Type} (services : Services σ) (delivered : Context)
    (loaded : RunState σ Unit) (plan : Plan) (start : Context) (ready : RunState σ Unit)
    (label suffix : String) (outcome : Outcome) : Prop where
  asked : delivered.rerun? = some (label, Text.lower (Text.trim suffix))
  named : Rerun.suffix? label = some suffix
  resolved : (outcome.status = .noAction ∧
      resolve (delivered.rules.actions delivered.kind) (Text.lower (Text.trim suffix)) =
        .ok .undefined) ∨
    ∃ name remapped steps, outcome.status ≠ .noAction ∧ outcome.action = some name ∧
      resolve (delivered.rules.actions delivered.kind) (Text.lower (Text.trim suffix)) =
        .ok (.resolved name remapped steps)
  reread : Rereads services.client delivered start loaded.store ready.store
  used : ∀ context ∈ plan.met services ⟨start, ready.store, ready.journal⟩,
    context.items = start.items
  removed : Text.trim label ∈ outcome.operations.labelsRemoved
  kept_off : Text.trim label ∉ outcome.operations.labelsAdded

namespace Engine

variable {σ : Type}

section Preparing

variable {engine : Engine σ} {delivery : Delivery} {before ready : RunState σ Unit} {plan : Plan}
  {start : Context} {client : Client σ} {repository : RepositoryRef} {delivered : Context}
  {loaded : RunState σ Unit}

theorem Prepares.prepared
    (prepares : engine.Prepares delivery before client repository delivered loaded plan start
      ready) :
    ∃ entered, (prepare engine.rules engine.queries delivery ⟨client, engine.page⟩
      repository).run.run { before with store := entered } = (.ok (plan, start), ready) := by
  obtain ⟨entered, _, started⟩ := prepares.started
  exact ⟨entered, (run_bind_ok started).trans prepares.planned⟩

theorem Prepares.writes_eq
    (prepares : engine.Prepares delivery before client repository delivered loaded plan start
      ready) :
    Event.writes ready.journal = Event.writes before.journal := by
  obtain ⟨entered, prepared⟩ := prepares.prepared
  obtain ⟨reading, grown, reads⟩ :=
    (agree_prepare (Services.Agree.refl Event.IsRead ⟨client, engine.page⟩) rfl
      Event.is_read_planning engine.rules engine.queries delivery repository).journal_eq
      { before with store := entered }
  rw [prepared] at grown
  have silent : Event.writes reading = [] := by
    refine List.eq_nil_iff_forall_not_mem.2 fun mutation member => ?_
    exact reads _ (Event.mem_writes.1 member) mutation rfl
  rw [grown, Event.writes_append, silent, List.append_nil]

end Preparing

/-- What comes behind the preparations is the walk, and then the pool is sent. -/
theorem carry_out_eq_ok {services : Services σ} {plan : Plan} {start : Context}
    {ready last : RunState σ Unit} {outcome : Outcome}
    (carried : (carryOut services plan start).run.run ready = (.ok outcome, last)) :
    ∃ walked ended,
      (Run.walkPlan services plan).run.run ⟨start, ready.store, ready.journal⟩ = (.ok (), walked) ∧
      (Run.conclude services plan).run.run walked = (.ok outcome, ended) ∧
      last.journal = ended.journal := by
  obtain ⟨⟨_, _⟩, middle, walking, carried⟩ := run_bind_eq_ok carried
  obtain ⟨⟨_, _⟩, _, concluding, ended⟩ := run_bind_eq_ok carried
  cases ended
  obtain ⟨walked, walk, rfl, rfl⟩ := run_within_eq_ok walking
  obtain ⟨ended, concluded, _, rfl⟩ := run_within_eq_ok concluding
  exact ⟨walked, ended, walk, concluded, rfl⟩

/-- A delivery that comes to its end with a rerun goes on with the label that asked for it. If there
is nothing to do for the action, to take the label off is all that is written. -/
theorem consumed_label_comes_off (engine : Engine σ) (delivery : Delivery)
    {before last : RunState σ Unit} {outcome : Outcome}
    (handled : (engine.handle delivery).run.run before = (.ok outcome, last))
    (rerun : outcome.rerun = true) :
    ∃ client repository delivered loaded plan start ready label suffix,
      engine.Prepares delivery before client repository delivered loaded plan start ready ∧
      Reruns ⟨client, engine.page⟩ delivered loaded plan start ready label suffix outcome ∧
      (outcome.status = .noAction → ∃ item, start.target = some item ∧
        Event.writes last.journal =
          Event.writes before.journal ++ [.removeLabels item.number [Text.trim label]]) := by
  obtain ⟨plan, start, ready, prepared⟩ := prepared_of_handled handled
  obtain ⟨client, repository, delivered, loaded, prepares⟩ := exists_prepares prepared
  obtain ⟨_, _, empty, plain⟩ := prepares.delivered_eq
  obtain ⟨_, reached⟩ := prepares.prepared
  have unflushed := prepare_unflushed reached
  have silent := prepares.writes_eq
  rw [prepares.continued] at handled
  obtain ⟨walked, ended, walking, concluded, journal⟩ := carry_out_eq_ok handled
  have stands := Run.stands_walk_plan ⟨client, engine.page⟩ plan ⟨start, ready.store, ready.journal⟩
  rw [walking] at stands
  obtain ⟨items, _, entries, pool⟩ := stands
  have target : walked.context.target = start.target := Context.target_of_items items
  have waiting : walked.context.operations.flushed = false := by
    rw [pool, Pool.enter_all_flushed]
    exact unflushed
  obtain ⟨again, named, idle, operations, sent⟩ := Run.conclude_eq_ok waiting concluded
  obtain ⟨inner, planned, rfl, rfl⟩ := run_within_eq_ok prepares.planned
  obtain ⟨label, action, asked, reread, marked, looked⟩ :=
    Run.rerun_of_plan plain planned (again.symm.trans rerun)
  obtain ⟨_, _, item, suffix, held, _, stripped, rfl⟩ := Context.rerun_eq_some asked
  have filled := Rerun.trim_ne_empty stripped
  -- what was labeled is still there, so that the pool is sent
  have present := reread.target_is_some
  rw [held] at present
  obtain ⟨current, at_hand⟩ := Option.isSome_iff_exists.1 present
  rw [empty] at marked
  have pooled : Text.trim label ∈ walked.context.operations.labelsToRemove := by
    rw [pool]
    refine Pool.mem_removals ?_ entries
    dsimp only
    rw [marked]
    exact Pool.mem_remove_label .empty filled
  obtain ⟨removed, off⟩ := Pool.removed_of_report pooled current
  rw [target, at_hand] at operations sent
  rw [← operations] at removed off
  refine ⟨client, repository, delivered, loaded, plan, inner.context, _, label, suffix, prepares,
    ⟨asked, stripped, ?resolved, reread, ?used, removed, off⟩, ?only⟩
  case resolved =>
    rcases looked with ⟨nothing, undefined⟩ | ⟨name, tree, remapped, steps, work, resolved⟩
    · exact .inl ⟨idle.2 nothing, undefined⟩
    · refine .inr ⟨name, remapped, steps, ?_, ?_, resolved⟩
      · intro status
        rw [idle.1 status] at work
        cases work
      · rw [named, work]
        rfl
  case used => exact fun context found => (Plan.stands_of_met found).items
  case only =>
    intro status
    refine ⟨current, at_hand, ?_⟩
    rw [Run.walkPlan, idle.1 status] at walking
    cases walking
    rw [journal, sent, Event.writes_append, Event.writes_of_mutations, silent, operations, marked,
      Pool.mutations_of_removal filled]

/-- The label comes off although the rules add it. -/
theorem readded_label_comes_off :
    let engine : Engine OfflineStore :=
      fixed (OfflineStore.client ⟨"octo", "docs"⟩) (fun _ => none)
        (.fixed (.onReopened
          [.action (.operation (.labels .add ["Rerun-Action- Reopened", "triaged"]))]))
    ∃ outcome last label,
      (engine.handle rerunOfReopened).run.run ⟨(), OfflineStore.rewritten, []⟩ =
        (.ok outcome, last) ∧
      outcome.operations = ⟨["triaged"], ["Rerun-Action- Reopened"], [], []⟩ ∧
      (Rerun.suffix? label).isSome ∧ Text.trim label = "Rerun-Action- Reopened" := by
  intro engine
  have computed : ((engine.handle rerunOfReopened).run.run
      ⟨(), OfflineStore.rewritten, []⟩).1.toOption.map (fun outcome =>
        (outcome.rerun, outcome.operations)) =
      some (true, ⟨["triaged"], ["Rerun-Action- Reopened"], [], []⟩) := by decide +kernel
  rcases handled : (engine.handle rerunOfReopened).run.run ⟨(), OfflineStore.rewritten, []⟩ with
    ⟨failure | outcome, last⟩
  · rw [handled] at computed
    cases computed
  · rw [handled] at computed
    simp only [Except.toOption, Option.map_some, Option.some.injEq, Prod.mk.injEq] at computed
    obtain ⟨rerun, operations⟩ := computed
    obtain ⟨_, _, _, _, _, _, _, label, suffix, _, reruns, _⟩ :=
      consumed_label_comes_off engine rerunOfReopened handled rerun
    refine ⟨outcome, last, label, rfl, operations, ?_, ?_⟩
    · rw [reruns.named]
      rfl
    · have removed := reruns.removed
      rw [operations] at removed
      exact List.mem_singleton.1 removed

end Engine

end RepoRules
