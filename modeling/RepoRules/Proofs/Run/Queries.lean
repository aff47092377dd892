import RepoRules.Proofs.Rules.Queries
import RepoRules.Proofs.Rules.Validation
import RepoRules.Proofs.Run.Batches
import RepoRules.Proofs.Run.Course

/-!
Which queries are evaluated. Whatever a delivery and the pages hold, and whatever becomes of the
variables, a query is only evaluated if it is written in the document by which the delivery is
handled.
-/

namespace RepoRules

open Effects

namespace Event

def evaluations (journal : List Event) : List String :=
  journal.filterMap fun
    | .evaluated source => some source
    | .called _ | .fetched _ => none

theorem evaluations_append (journal events : List Event) :
    evaluations (journal ++ events) = evaluations journal ++ evaluations events :=
  List.filterMap_append

theorem evaluations_of_sources (sources : List String) :
    evaluations (sources.map Event.evaluated) = sources := by
  unfold evaluations
  rw [List.filterMap_map]
  exact List.filterMap_some

theorem evaluations_of_mutations (mutations : List Mutation) :
    evaluations (mutations.map fun mutation => .called (.write mutation)) = [] := by
  unfold evaluations
  rw [List.filterMap_map]
  exact List.filterMap_eq_nil_iff.2 fun _ _ => rfl

def EvaluatesOnly (sources : List String) : Event → Prop
  | .evaluated source => source ∈ sources
  | .called _ | .fetched _ => True

theorem evaluates_only_planning (sources : List String) :
    PlanningAllowed (EvaluatesOnly sources) :=
  ⟨fun _ => trivial, fun _ => trivial, fun _ => trivial, fun _ => trivial, fun _ => trivial⟩

theorem evaluates_only_walk (sources : List String) : WalkAllowed (EvaluatesOnly sources) :=
  ⟨fun _ => trivial, fun _ _ => trivial⟩

end Event

section Runs

variable {σ κ α : Type} {sources : List String}

theorem Effects.Agree.evaluations_subset {steps : Effects σ κ α}
    (agree : Agree (Event.EvaluatesOnly sources) Eq steps steps) (state : RunState σ κ) :
    Event.evaluations (steps.run.run state).2.journal ⊆
      Event.evaluations state.journal ++ sources := by
  obtain ⟨events, grown, noted⟩ := agree.journal_eq state
  rw [grown, Event.evaluations_append]
  refine List.append_subset.2 ⟨List.subset_append_left _ _, ?_⟩
  intro source member
  obtain ⟨event, present, evaluated⟩ := List.mem_filterMap.1 member
  cases event with
  | evaluated other =>
      cases evaluated
      exact List.mem_append_right _ (noted _ present)
  | called request => cases evaluated
  | fetched url => cases evaluated

end Runs

section Plans

variable {σ : Type} {services : Services σ}

theorem Plans.rules_eq {before after : RunState σ Context} (plans : Plans services before after) :
    after.context.rules = before.context.rules := by
  cases plans <;> rfl

theorem Run.queries_of_plan {state after : RunState σ Context} {plan : Plan}
    (planned : (Run.plan services).run.run state = (.ok plan, after)) :
    ∀ work ∈ plan.work, Tree.queriesOf work.2.children ⊆ state.context.rules.queries := by
  obtain ⟨rerun, middle, applied, planned⟩ := run_bind_eq_ok planned
  have moves : Moves (Plans services) (applyRerun services) state := moves_apply_rerun
  rw [Moves, applied] at moves
  have same : middle.context.rules = state.context.rules :=
    eq_of_steps (·.context.rules) (fun _ _ => Plans.rules_eq) moves
  rw [run_bind_ok (run_context middle)] at planned
  rw [← same]
  cases resolved : resolve (middle.context.rules.actions middle.context.kind)
      middle.context.action with
  | error error =>
      rw [resolved] at planned
      cases planned
  | ok resolution =>
      rw [resolved] at planned
      cases resolution with
      | undefined =>
          cases planned
          simp
      | resolved action remapped steps =>
          have own := RuleDocument.written_of_entry (RuleDocument.get?_of_follow resolved)
          have built {state : RunState σ Context}
              (taken : (ensureMetadata services >>= fun _ =>
                pure (⟨rerun.isSome, some (action, ActionTree.build middle.context.rules steps)⟩ :
                  Plan)).run.run state = (.ok plan, after)) :
              ∀ work ∈ plan.work,
                Tree.queriesOf work.2.children ⊆ middle.context.rules.queries := by
            obtain ⟨_, _, _, taken⟩ := run_bind_eq_ok taken
            cases taken
            rintro _ ⟨⟩
            exact Tree.queries_of_build own
          cases remapped with
          | false => exact built planned
          | true =>
              obtain ⟨_, _, _, planned⟩ := run_bind_eq_ok planned
              exact built planned

end Plans

namespace Engine

variable {σ : Type} {services : Services σ} {rules : RulesSource}
  {queries : QueryEngine} {delivery : Delivery} {named : RepositoryRef}

theorem rules_of_payload {kind : EventKind} {payload : Json} {rules : RuleDocument}
    {served : RepositoryRef} {delivery : Option String} {queries : QueryEngine} {context : Context}
    (read : Context.ofPayload kind payload rules served delivery queries = .ok context) :
    context.rules = rules := by
  obtain ⟨_, _, _, _, _, _, rfl⟩ := Context.exists_of_payload read
  rfl

theorem queries_of_prepare {state after : RunState σ Unit} {plan : Plan} {start : Context}
    (prepared :
      (prepare rules queries delivery services named).run.run state = (.ok (plan, start), after)) :
    ∃ document, ((loadRules rules services.client named).run.run state).1 = .ok document ∧
      ∀ work ∈ plan.work, Tree.queriesOf work.2.children ⊆ document.queries := by
  obtain ⟨context, middle, started, planned⟩ := run_bind_eq_ok prepared
  obtain ⟨document, loaded, payload⟩ := starting_context_eq_ok started
  obtain ⟨inner, ready, _, _⟩ := run_within_eq_ok planned
  have written := Run.queries_of_plan ready
  rw [rules_of_payload payload] at written
  exact ⟨document, by rw [loaded], written⟩

def carryOut (services : Services σ) (plan : Plan) (start : Context) : Effects σ Unit Outcome := do
  let (_, walked) ← within start (Run.walkPlan services plan)
  let (outcome, _) ← within walked (Run.conclude services plan)
  return outcome

theorem serve_eq :
    serve rules queries delivery services named = (do
      let (plan, start) ← prepare rules queries delivery services named
      carryOut services plan start) := by
  unfold serve prepareAndWalk carryOut
  simp only [bind_assoc, pure_bind]

/-- What comes behind the preparations evaluates the queries of the plan only. -/
theorem agree_carry_out {sources : List String} {plan : Plan}
    (within : ∀ work ∈ plan.work, Tree.queriesOf work.2.children ⊆ sources) (start : Context) :
    Effects.Agree (Event.EvaluatesOnly sources) Eq (carryOut services plan start)
      (carryOut services plan start) := by
  have same := Services.Agree.refl (Event.EvaluatesOnly sources) services
  have walk : Effects.Agree (Event.EvaluatesOnly sources) Eq (Run.walkPlan services plan)
      (Run.walkPlan services plan) := by
    unfold Run.walkPlan
    cases work : plan.work with
    | none => exact agree_pure _
    | some found =>
        refine Run.agree_walk_nodes same (Event.evaluates_only_walk sources) _ ?_
        intro source member
        exact within found work member
  unfold carryOut
  refine (walk.within start).bind fun walked => ?_
  exact ((Run.agree_conclude same (fun _ => trivial) plan).within _).bind fun _ => agree_pure _

theorem evaluations_of_serve (services : Services σ) (state : RunState σ Unit)
    (silent : Event.evaluations state.journal = []) :
    ∀ source ∈ Event.evaluations
        ((serve rules queries delivery services named).run.run state).2.journal,
      ∃ document, ((loadRules rules services.client named).run.run state).1 = .ok document ∧
        source ∈ document.queries := by
  have reads := (agree_prepare (Services.Agree.refl _ services) rfl
    (Event.evaluates_only_planning []) rules queries delivery named).evaluations_subset state
  rw [silent, List.append_nil] at reads
  intro source member
  rw [serve_eq] at member
  rcases prepared : (prepare rules queries delivery services named).run.run state with
    ⟨failure | ⟨plan, start⟩, middle⟩
  · rw [prepared] at reads
    rw [run_bind_error prepared] at member
    cases reads member
  · rw [prepared] at reads
    rw [run_bind_ok prepared] at member
    obtain ⟨document, loaded, written⟩ := queries_of_prepare prepared
    refine ⟨document, loaded, ?_⟩
    rcases List.mem_append.1 ((agree_carry_out written start).evaluations_subset middle member)
      with early | late
    · cases reads early
    · exact late

variable (engine : Engine σ) (delivery : Delivery) (store : σ)

def document? : Option RuleDocument :=
  ((engine.withServices delivery fun services repository =>
    loadRules engine.rules services.client repository).run.run ⟨(), store, []⟩).1.toOption

def evaluations : List String :=
  Event.evaluations ((engine.handle delivery).run.run ⟨(), store, []⟩).2.journal

theorem mem_queries_of_evaluations {source : String}
    (member : source ∈ engine.evaluations delivery store) :
    ∃ document, engine.document? delivery store = some document ∧ source ∈ document.queries := by
  unfold evaluations at member
  unfold document?
  rw [handle_eq] at member
  rcases with_services_cases engine delivery ⟨(), store, []⟩ with
    ⟨failure, after, same, ends⟩ | ⟨services, repository, after, same, goes⟩
  · rw [ends, same] at member
    cases member
  · rw [goes] at member
    have silent : Event.evaluations after.journal = [] := by
      rw [same]
      rfl
    obtain ⟨document, loaded, written⟩ :=
      evaluations_of_serve services after silent source member
    refine ⟨document, ?_, written⟩
    rw [goes, loaded]
    rfl

/-- Every query that is evaluated when a delivery is handled is the body of a template of the
document or an expression of one of its checks. So whatever else two deliveries differ in, and
whoever serves them: when they are handled by one document, no other queries than those of this
document are evaluated for either. -/
theorem only_written_queries_are_evaluated :
    (∀ source ∈ engine.evaluations delivery store,
      ∃ document, engine.document? delivery store = some document ∧
        ((∃ template ∈ document.templates, Template.queryBody? template = some source) ∨
          source ∈ document.expressions)) ∧
      ∀ {τ : Type} (other : Engine τ) (message : Delivery) (state : τ) (document : RuleDocument),
        engine.document? delivery store = some document →
        other.document? message state = some document →
        engine.evaluations delivery store ⊆ document.queries ∧
          other.evaluations message state ⊆ document.queries := by
  have within {υ : Type} (engine : Engine υ) (delivery : Delivery) (store : υ)
      {document : RuleDocument} (loaded : engine.document? delivery store = some document) :
      engine.evaluations delivery store ⊆ document.queries := by
    intro source member
    obtain ⟨found, same, written⟩ := engine.mem_queries_of_evaluations delivery store member
    rw [loaded] at same
    cases same
    exact written
  refine ⟨?_, ?_⟩
  · intro source member
    obtain ⟨document, loaded, written⟩ := engine.mem_queries_of_evaluations delivery store member
    refine ⟨document, loaded, ?_⟩
    exact (List.mem_append.1 written).imp_left List.mem_filterMap.1
  · intro _ other message state document here there
    exact ⟨within engine delivery store here, within other message state there⟩

/-- A title that looks like a query is put in place of its name, and is not evaluated. -/
example :
    let document := RuleDocument.onOpened
      [.action (.operation (.variable .set "text" "$title$")),
        .action (.check (.ofFields [("expr", .string "issue.title")])),
        .action (.operation (.comment "$expr: variables.text"))]
    let delivery := Delivery.opened .issues "issue"
      [("number", .int 7), ("title", .string "$expr: issue.body")]
    (Engine.fixed (OfflineStore.client ⟨"octo", "docs"⟩) (fun _ => none)
        (.fixed document)).evaluations delivery delivery.seeded =
      ["issue.title", "variables.text"] := by
  decide +kernel

end Engine

end RepoRules
