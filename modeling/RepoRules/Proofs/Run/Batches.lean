import RepoRules.Proofs.Run.Stages

/-!
When the pool is sent. The four batches go out after the walk, each at most once, in a fixed order
and never empty. A walk that ends in a failure sends none of them, and a delivery that fails before
the walk writes nothing at all.
-/

namespace RepoRules

def Mutation.names : Mutation → List String
  | .addLabels _ names | .removeLabels _ names | .addAssignees _ names
  | .removeAssignees _ names | .addReviewers _ names | .removeReviewers _ names => names
  | .postComment _ _ | .setMilestone _ _ | .addToProject _ _ | .removeFromProject _ _ => []

def Event.KeepsPool (event : Event) : Prop :=
  ∀ mutation, event = .called (.write mutation) → mutation.isPooled = false

/-- At most one mutation of each kind of batch, in the order of the kinds, each naming something. -/
structure InBatches (mutations : List Mutation) : Prop where
  ordered : (mutations.map Mutation.name).Sublist
    ["add_labels", "remove_labels", "add_assignees", "add_reviewers"]
  filled : ∀ mutation ∈ mutations, mutation.names ≠ []

namespace InBatches

theorem nil : InBatches [] :=
  ⟨List.nil_sublist _, by simp⟩

theorem of_beginning {sent mutations : List Mutation} (batches : InBatches mutations)
    (early : sent <+: mutations) : InBatches sent :=
  ⟨(early.sublist.map Mutation.name).trans batches.ordered,
    fun mutation member => batches.filled mutation (early.subset member)⟩

end InBatches

theorem FlushReport.mutations_in_batches (report : FlushReport) (number : Nat) :
    InBatches (report.mutations number) := by
  have single (texts : List String) (batch : List String → Mutation)
      (same : ∀ names, (batch names).names = names) (kind : String)
      (named : ∀ names, (batch names).name = kind) :
      ((if texts.isEmpty then [] else [batch texts]).map Mutation.name).Sublist [kind] ∧
        ∀ mutation ∈ if texts.isEmpty then [] else [batch texts], mutation.names ≠ [] := by
    cases texts with
    | nil => exact ⟨List.nil_sublist _, by simp⟩
    | cons text rest =>
        refine ⟨by simp [named], ?_⟩
        intro mutation member
        rw [List.mem_singleton.1 member, same]
        exact List.cons_ne_nil _ _
  have added := single report.labelsAdded (.addLabels number) (fun _ => rfl) _ fun _ => rfl
  have removed := single report.labelsRemoved (.removeLabels number) (fun _ => rfl) _ fun _ => rfl
  have assigned := single report.assigneesAdded (.addAssignees number) (fun _ => rfl) _ fun _ => rfl
  have reviewing :=
    single report.reviewersAdded (.addReviewers number) (fun _ => rfl) _ fun _ => rfl
  constructor
  · simp only [FlushReport.mutations, List.map_append]
    exact ((added.1.append removed.1).append assigned.1).append reviewing.1
  · intro mutation member
    simp only [FlushReport.mutations, List.mem_append] at member
    rcases member with ((first | second) | third) | fourth
    · exact added.2 mutation first
    · exact removed.2 mutation second
    · exact assigned.2 mutation third
    · exact reviewing.2 mutation fourth

namespace Run

variable {σ : Type}

/-- Mutations go out one after the other, as far as the calls succeed. -/
theorem writes_in_order (services : Services σ) (mutations : List Mutation)
    (state : RunState σ Context) :
    ∃ sent, sent <+: mutations ∧
      ((mutations.forM (write services)).run.run state).2.journal =
        state.journal ++ sent.map fun mutation => .called (.write mutation) := by
  obtain ⟨_, _, sent, going, early, _⟩ :=
    Effects.writes_go_out services.client mutations state
  exact ⟨sent, early, congrArg (fun ended => ended.2.journal) going⟩

/-- A flush sends batches and does nothing else. -/
theorem flush_in_batches (services : Services σ) (state : RunState σ Context) :
    ∃ sent, InBatches sent ∧
      ((flush services).run.run state).2.journal =
        state.journal ++ sent.map fun mutation => .called (.write mutation) := by
  have silent {after : RunState σ Context} (same : after.journal = state.journal) :
      ∃ sent, InBatches sent ∧ after.journal =
        state.journal ++ sent.map fun mutation => .called (.write mutation) :=
    ⟨[], InBatches.nil, by rw [same, List.map_nil, List.append_nil]⟩
  unfold flush
  rw [Effects.run_bind_ok (run_context state)]
  unfold Pool.flush
  simp only
  split
  · exact silent rfl
  · cases state.context.target with
    | none => exact silent rfl
    | some item =>
        simp only
        rw [Effects.run_bind_ok (run_modify_context _ state)]
        generalize ({ state.context.operations.resolveConflicts with flushed := true } :
          Pool).reportFor item = report
        rw [Effects.state_bind fun _ _ => rfl]
        obtain ⟨sent, early, noted⟩ := writes_in_order services (report.mutations item.number) _
        exact ⟨sent, (report.mutations_in_batches item.number).of_beginning early, noted⟩

end Run

namespace Engine

open Effects

variable {σ : Type}

/-- How the journal of a delivery grows: getting ready only reads, the walk writes nothing that
could wait in the pool, and what comes after the walk are batches. -/
structure InStages (start : List Event)
    (prepared walked : Except Failure (Plan × Context) × RunState σ Unit)
    (handled : Except Failure Outcome × RunState σ Unit)
    (reading walking : List Event) (batches : List Mutation) : Prop where
  prepared_journal : prepared.2.journal = start ++ reading
  walked_journal : walked.2.journal = prepared.2.journal ++ walking
  handled_journal : handled.2.journal =
    walked.2.journal ++ batches.map fun mutation => .called (.write mutation)
  reads : ∀ event ∈ reading, event.IsRead
  keeps_pool : ∀ event ∈ walking, event.KeepsPool
  in_batches : InBatches batches
  /-- A failure before the walk is the end: there is no walk, and nothing is sent. -/
  unprepared : ∀ failure, prepared.1 = .error failure →
    handled.1 = .error failure ∧ walking = [] ∧ batches = []
  /-- So is a failure on the walk. -/
  unfinished : ∀ failure, walked.1 = .error failure → handled.1 = .error failure ∧ batches = []

theorem InStages.of_unprepared {start reading : List Event} {failure : Failure}
    {last : RunState σ Unit} (read : last.journal = start ++ reading)
    (reads : ∀ event ∈ reading, event.IsRead) :
    InStages start (.error failure, last) (.error failure, last) (.error failure, last)
      reading [] [] := by
  refine ⟨read, (List.append_nil _).symm, (List.append_nil _).symm, reads, by simp,
    InBatches.nil, ?_, ?_⟩
  · rintro _ ⟨⟩
    exact ⟨rfl, rfl, rfl⟩
  · rintro _ ⟨⟩
    exact ⟨rfl, rfl⟩

theorem walk_keeps_pool (services : Services σ) (plan : Plan) (context : Context)
    (state : RunState σ Unit) :
    ∃ walking,
      ((within context (Run.walkPlan services plan)).run.run state).2.journal =
        state.journal ++ walking ∧ ∀ event ∈ walking, event.KeepsPool := by
  have calls : WalkAllowed Event.KeepsPool := by
    constructor
    · intro number mutation same
      cases same
    · intro mutation direct other same
      cases same
      exact direct
  have queries (source : String) : (Event.evaluated source).KeepsPool := by
    intro mutation same
    cases same
  have steps := Run.agree_walk_plan (Services.Agree.refl _ services) calls queries plan
  exact (steps.within context).journal_eq state

theorem conclude_sends_batches (services : Services σ) (plan : Plan) (context : Context)
    (state : RunState σ Unit) :
    ∃ batches, InBatches batches ∧
      ((within context (Run.conclude services plan)).run.run state).2.journal =
        state.journal ++ batches.map fun mutation => .called (.write mutation) := by
  rw [journal_within]
  unfold Run.conclude
  rw [state_bind]
  · exact Run.flush_in_batches services ⟨context, state.store, state.journal⟩
  · intro operations after
    cases plan.work with
    | none => rfl
    | some work => rfl

/-- The stages of a delivery for which a client was found. -/
theorem serve_in_stages (rules : RulesSource) (queries : QueryEngine) (delivery : Delivery)
    (services : Services σ) (repository : RepositoryRef) (start : RunState σ Unit) :
    ∃ reading walking batches,
      InStages start.journal ((prepare rules queries delivery services repository).run.run start)
        ((prepareAndWalk rules queries delivery services repository).run.run start)
        ((serve rules queries delivery services repository).run.run start) reading walking
        batches := by
  obtain ⟨reading, read, reads⟩ :=
    (agree_prepare (Services.Agree.refl Event.IsRead services) rfl Event.is_read_planning rules
      queries delivery repository).journal_eq start
  rcases prepared : (prepare rules queries delivery services repository).run.run start with
    ⟨failure | ⟨plan, context⟩, middle⟩
  · have walked : (prepareAndWalk rules queries delivery services repository).run.run start =
        (.error failure, middle) := run_bind_error prepared
    have served : (serve rules queries delivery services repository).run.run start =
        (.error failure, middle) := run_bind_error walked
    rw [prepared] at read
    rw [walked, served]
    exact ⟨reading, [], [], .of_unprepared read reads⟩
  · -- prepared; the walk may still end in a failure
    rw [prepared] at read
    obtain ⟨walking, stepped, keeps⟩ := walk_keeps_pool services plan context middle
    rcases walk : (within context (Run.walkPlan services plan)).run.run middle with
      ⟨failure | ⟨_, after⟩, last⟩
    · have walked : (prepareAndWalk rules queries delivery services repository).run.run start =
          (.error failure, last) := (run_bind_ok prepared).trans (run_bind_error walk)
      have served : (serve rules queries delivery services repository).run.run start =
          (.error failure, last) := run_bind_error walked
      rw [walk] at stepped
      rw [walked, served]
      refine ⟨reading, walking, [], read, stepped, (List.append_nil _).symm, reads, keeps,
        InBatches.nil, by simp, ?_⟩
      rintro _ ⟨⟩
      exact ⟨rfl, rfl⟩
    · have walked : (prepareAndWalk rules queries delivery services repository).run.run start =
          (.ok (plan, after), last) := (run_bind_ok prepared).trans (run_bind_ok walk)
      have served : ((serve rules queries delivery services repository).run.run start).2 =
          ((within after (Run.conclude services plan)).run.run last).2 := by
        unfold serve
        rw [run_bind_ok walked]
        exact state_bind (fun _ _ => rfl) last
      obtain ⟨batches, ordered, sent⟩ := conclude_sends_batches services plan after last
      rw [walk] at stepped
      rw [walked]
      exact ⟨reading, walking, batches, read, stepped, by rw [served, sent], reads, keeps, ordered,
        by simp, by simp⟩

/-- Either no client is found for a delivery, or its stages are those of one that is served. -/
theorem with_services_cases (engine : Engine σ) (delivery : Delivery) (start : RunState σ Unit) :
    (∃ failure after, after.journal = start.journal ∧ ∀ {α : Type}
      (steps : Services σ → RepositoryRef → Effects σ Unit α),
        (engine.withServices delivery steps).run.run start = (.error failure, after)) ∨
    ∃ services repository after, after.journal = start.journal ∧ ∀ {α : Type}
      (steps : Services σ → RepositoryRef → Effects σ Unit α),
        (engine.withServices delivery steps).run.run start =
          (steps services repository).run.run after := by
  unfold withServices
  cases Context.repositoryOf? delivery.payload with
  | none => exact .inl ⟨noRepository, start, rfl, fun steps => rfl⟩
  | some repository =>
      simp only
      generalize (delivery.payload.path? ["installation", "id"]).bind Json.natural? = installation
      have found := run_on_store (engine.clientFor installation repository) start
      rcases answered : engine.clientFor installation repository start.store with
        ⟨failure | client, after⟩
      · rw [answered] at found
        exact .inl ⟨failure, { start with store := after }, rfl, fun steps => run_bind_error found⟩
      · rw [answered] at found
        exact .inr ⟨⟨client, engine.page⟩, repository, { start with store := after }, rfl,
          fun steps => run_bind_ok found⟩

/-- Whatever calls fail, a delivery reads, then walks, then sends each batch at most once; a failure
on the way is the end of it. -/
theorem handle_in_stages (engine : Engine σ) (delivery : Delivery) (start : RunState σ Unit) :
    ∃ reading walking batches,
      InStages start.journal
        ((engine.withServices delivery
          (prepare engine.rules engine.queries delivery)).run.run start)
        ((engine.withServices delivery
          (prepareAndWalk engine.rules engine.queries delivery)).run.run start)
        ((engine.handle delivery).run.run start) reading walking batches := by
  rw [handle_eq]
  rcases with_services_cases engine delivery start with
    ⟨failure, after, same, ends⟩ | ⟨services, repository, after, same, goes⟩
  · rw [ends, ends, ends]
    refine ⟨[], [], [], .of_unprepared ?_ ?_⟩
    · rw [same, List.append_nil]
    · intro event member
      cases member
  · rw [goes, goes, goes, ← same]
    exact serve_in_stages engine.rules engine.queries delivery services repository after

end Engine

end RepoRules
