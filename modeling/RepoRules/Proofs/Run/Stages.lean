import RepoRules.Proofs.Metadata.Extraction
import RepoRules.Proofs.Run.WalkEvents
import RepoRules.Run.Delivery

/-!
The stages of a delivery. First everything is got ready: the client, the rules, the state, a rerun,
the steps for the action. Then the tree is walked through, and at the end the pool is sent. Only
reads and fetches of pages belong to the first stage.
-/

namespace RepoRules

/-- What is to be done for a delivery: nothing, or the steps of an action, as a tree. -/
structure Plan where
  rerun : Bool
  work : Option (String × ActionTree)

namespace Run

variable {σ : Type}

def plan (services : Services σ) : Run σ Plan := do
  let rerun := (← applyRerun services).isSome
  let current ← context
  match resolve (current.rules.actions current.kind) current.action with
  | .error error => throw (Failure.ofRule error)
  | .ok .undefined => return ⟨rerun, none⟩
  | .ok (.resolved action remapped steps) =>
      if remapped then modifyContext fun context => context.setAction action
      ensureMetadata services
      return ⟨rerun, some (action, ActionTree.build current.rules steps)⟩

def walkPlan (services : Services σ) (plan : Plan) : Run σ Unit :=
  match plan.work with
  | none => return
  | some (_, tree) => walk services tree

def conclude (services : Services σ) (plan : Plan) : Run σ Outcome := do
  let operations ← flush services
  match plan.work with
  | none => return Engine.idleOutcome (← context) plan.rerun operations
  | some (action, tree) =>
      return Engine.outcomeOf (← context) action plan.rerun tree operations

theorem process_eq (services : Services σ) :
    Engine.process services = (do
      let prepared ← plan services
      walkPlan services prepared
      conclude services prepared) := by
  unfold Engine.process plan walkPlan conclude execute
  simp only [bind_assoc]
  refine bind_congr fun rerun => ?_
  refine bind_congr fun current => ?_
  cases resolve (current.rules.actions current.kind) current.action with
  | error error => rfl
  | ok resolution =>
      cases resolution with
      | undefined => rfl
      | resolved action remapped steps =>
          cases remapped with
          | true => simp only [if_true, bind_assoc, pure_bind]
          | false => simp only [Bool.false_eq_true, if_false, bind_assoc, pure_bind]

end Run

namespace Engine

variable {σ α : Type}

def startingContext (rules : RulesSource) (queries : QueryEngine) (delivery : Delivery)
    (services : Services σ) (repository : RepositoryRef) : Effects σ Unit Context := do
  let document ← loadRules rules services.client repository
  match Context.ofPayload delivery.kind delivery.payload document services.client.repository
      delivery.id queries with
  | .error failure => throw failure
  | .ok context => return context

def prepare (rules : RulesSource) (queries : QueryEngine) (delivery : Delivery)
    (services : Services σ) (repository : RepositoryRef) : Effects σ Unit (Plan × Context) := do
  let context ← startingContext rules queries delivery services repository
  Effects.within context (Run.plan services)

def prepareAndWalk (rules : RulesSource) (queries : QueryEngine) (delivery : Delivery)
    (services : Services σ) (repository : RepositoryRef) : Effects σ Unit (Plan × Context) := do
  let (plan, context) ← prepare rules queries delivery services repository
  let (_, context) ← Effects.within context (Run.walkPlan services plan)
  return (plan, context)

def serve (rules : RulesSource) (queries : QueryEngine) (delivery : Delivery)
    (services : Services σ) (repository : RepositoryRef) : Effects σ Unit Outcome := do
  let (plan, context) ← prepareAndWalk rules queries delivery services repository
  let (outcome, _) ← Effects.within context (Run.conclude services plan)
  return outcome

def withServices (engine : Engine σ) (delivery : Delivery)
    (steps : Services σ → RepositoryRef → Effects σ Unit α) : Effects σ Unit α :=
  match Context.repositoryOf? delivery.payload with
  | none => throw noRepository
  | some repository => do
      let installation := (delivery.payload.path? ["installation", "id"]).bind Json.natural?
      let client : Client σ ← Effects.onStore (engine.clientFor installation repository)
      steps ⟨client, engine.page⟩ repository

theorem handle_eq (engine : Engine σ) (delivery : Delivery) :
    engine.handle delivery =
      engine.withServices delivery (serve engine.rules engine.queries delivery) := by
  unfold handle withServices
  cases Context.repositoryOf? delivery.payload with
  | none => rfl
  | some repository =>
      refine bind_congr fun client => ?_
      unfold serve prepareAndWalk prepare startingContext
      simp only [bind_assoc, pure_bind]
      refine bind_congr fun document => ?_
      cases Context.ofPayload delivery.kind delivery.payload document client.repository
          delivery.id engine.queries with
      | error failure => rfl
      | ok context =>
          simp only [pure_bind, Run.process_eq, Effects.within_bind, bind_assoc]

end Engine

section Planning

open Effects

variable {σ τ : Type} {allowed : Event → Prop} {related : σ → τ → Prop}

structure PlanningAllowed (allowed : Event → Prop) : Prop where
  rules : ∀ path, allowed (.called (.rulesFile path))
  issue : ∀ number, allowed (.called (.issue number))
  pullRequest : ∀ number, allowed (.called (.pullRequest number))
  comment : ∀ id, allowed (.called (.comment id))
  page : ∀ url, allowed (.fetched url)

def Event.IsRead (event : Event) : Prop :=
  ∀ mutation, event ≠ .called (.write mutation)

theorem Event.is_read_planning : PlanningAllowed Event.IsRead := by
  constructor <;> intros <;> intro mutation same <;> cases same

variable {here : Services σ} {there : Services τ}

namespace Run

theorem fetch_eq (services : Services σ) (url : String) : fetch services url =
    (do Effects.note (.fetched url); return services.page url : Run σ (Option String)) := rfl

theorem agree_fetches (reads : PlanningAllowed allowed) (urls : List String) :
    Effects.Agree allowed related
      (forM urls fun url => (Effects.note (.fetched url) : Run σ Unit))
      (forM urls fun url => (Effects.note (.fetched url) : Run τ Unit)) := by
  induction urls with
  | nil => exact agree_pure _
  | cons url rest induction =>
      rw [List.forM_cons, List.forM_cons]
      exact (agree_note (reads.page url)).bind fun _ => induction

theorem agree_extract (agree : Services.Agree allowed related here there)
    (reads : PlanningAllowed allowed) (settings : MetadataSettings) (body : String)
    (known : Metadata) :
    Effects.Agree allowed related (Metadata.extract (fetch here) settings body known)
      (Metadata.extract (fetch there) settings body known) := by
  obtain ⟨urls, fields, extracts⟩ := Metadata.exists_extract_eq here.page settings body known
  have others := fetch_eq there
  rw [← agree.page] at others
  rw [extracts (fetch_eq here), extracts others]
  exact (agree_fetches reads urls).bind fun _ => agree_pure _

theorem agree_ensure_metadata (agree : Services.Agree allowed related here there)
    (reads : PlanningAllowed allowed) :
    Effects.Agree allowed related (ensureMetadata here) (ensureMetadata there) := by
  unfold ensureMetadata
  refine agree_context.bind fun current => ?_
  simp only
  split
  · exact agree_pure _
  · cases current.target with
    | none => exact agree_pure _
    | some item =>
        refine (agree_extract agree reads _ _ _).bind fun metadata => ?_
        exact agree_modify_context _

theorem agree_refresh (agree : Services.Agree allowed related here there)
    (reads : PlanningAllowed allowed) :
    Effects.Agree allowed related (refresh here) (refresh there) := by
  have issue : Effects.Agree allowed related (refreshIssue here) (refreshIssue there) := by
    unfold refreshIssue
    refine agree_context.bind fun current => ?_
    cases current.issue with
    | none => exact agree_pure _
    | some item =>
        refine (agree_call (reads.issue _) (agree.answer _ (reads.issue _))).bind fun fresh => ?_
        exact agree_modify_context _
  have pullRequest : Effects.Agree allowed related (refreshPullRequest here)
      (refreshPullRequest there) := by
    unfold refreshPullRequest
    refine agree_context.bind fun current => ?_
    cases current.pullRequest with
    | none => exact agree_pure _
    | some item =>
        have permitted := reads.pullRequest item.number
        refine (agree_call permitted (agree.answer _ permitted)).bind fun fresh => ?_
        exact agree_modify_context _
  have comment : Effects.Agree allowed related (refreshComment here) (refreshComment there) := by
    unfold refreshComment
    refine agree_context.bind fun current => ?_
    cases current.comment with
    | none => exact agree_pure _
    | some comment =>
        have permitted := reads.comment comment.id
        refine (agree_call permitted (agree.answer _ permitted)).bind fun fresh => ?_
        exact agree_modify_context _
  exact issue.bind fun _ => pullRequest.bind fun _ => comment.bind fun _ =>
    agree_modify_context _

theorem agree_apply_rerun (agree : Services.Agree allowed related here there)
    (reads : PlanningAllowed allowed) :
    Effects.Agree allowed related (applyRerun here) (applyRerun there) := by
  unfold applyRerun
  refine agree_context.bind fun current => ?_
  split
  · exact agree_pure _
  · split
    · exact agree_pure _
    · split
      · exact agree_pure _
      · refine (agree_modify_context _).bind fun _ => ?_
        refine (agree_refresh agree reads).bind fun _ => ?_
        exact (agree_modify_context _).bind fun _ => agree_pure _

/-- Planning only reads, and agrees where the reads do. -/
theorem agree_plan (agree : Services.Agree allowed related here there)
    (reads : PlanningAllowed allowed) :
    Effects.Agree allowed related (plan here) (plan there) := by
  unfold plan
  refine (agree_apply_rerun agree reads).bind fun rerun => ?_
  refine agree_context.bind fun current => ?_
  cases resolve (current.rules.actions current.kind) current.action with
  | error error => exact agree_throw _
  | ok resolution =>
      cases resolution with
      | undefined => exact agree_pure _
      | resolved action remapped steps =>
          have metadata := (agree_ensure_metadata agree reads).bind fun _ =>
            agree_pure (α := Plan)
              ⟨rerun.isSome, some (action, ActionTree.build current.rules steps)⟩
          cases remapped with
          | true => exact (agree_modify_context _).bind fun _ => metadata
          | false => exact metadata

theorem agree_walk_plan (agree : Services.Agree allowed related here there)
    (calls : WalkAllowed allowed) (queries : ∀ source, allowed (.evaluated source)) (plan : Plan) :
    Effects.Agree allowed related (walkPlan here plan) (walkPlan there plan) := by
  unfold walkPlan
  cases plan.work with
  | none => exact agree_pure _
  | some work => exact agree_walk_nodes agree calls _ fun source _ => queries source

theorem agree_flush (agree : Services.Agree allowed related here there)
    (writes : ∀ mutation, allowed (.called (.write mutation))) :
    Effects.Agree allowed related (flush here) (flush there) := by
  have sent (mutations : List Mutation) :
      Effects.Agree allowed related (mutations.forM (write here))
        (mutations.forM (write there)) := by
    induction mutations with
    | nil => exact agree_pure _
    | cons mutation rest induction =>
        exact (agree_write agree (writes mutation)).bind fun _ => induction
  unfold flush Pool.flush
  refine agree_context.bind fun current => ?_
  simp only
  split
  · exact agree_pure _
  · cases current.target with
    | none => exact (agree_modify_context _).bind fun _ => agree_pure _
    | some item =>
        refine (agree_modify_context _).bind fun _ => ?_
        exact (sent _).bind fun _ => agree_pure _

theorem agree_conclude (agree : Services.Agree allowed related here there)
    (writes : ∀ mutation, allowed (.called (.write mutation))) (plan : Plan) :
    Effects.Agree allowed related (conclude here plan) (conclude there plan) := by
  unfold conclude
  refine (agree_flush agree writes).bind fun operations => ?_
  cases plan.work with
  | none => exact agree_context.bind fun _ => agree_pure _
  | some work => exact agree_context.bind fun _ => agree_pure _

end Run

namespace Engine

/-- Getting ready only reads, and agrees where the reads do. -/
theorem agree_prepare (agree : Services.Agree allowed related here there)
    (served : here.client.repository = there.client.repository)
    (reads : PlanningAllowed allowed) (rules : RulesSource)
    (queries : QueryEngine) (delivery : Delivery) (repository : RepositoryRef) :
    Effects.Agree allowed related (prepare rules queries delivery here repository)
      (prepare rules queries delivery there repository) := by
  have lifted {α : Type} (result : Except Failure α) :
      Effects.Agree allowed related (loadRules.liftExcept result : Effects σ Unit α)
        (loadRules.liftExcept result : Effects τ Unit α) := by
    cases result with
    | ok value => exact agree_pure _
    | error failure => exact agree_throw _
  have loaded : Effects.Agree allowed related (loadRules rules here.client repository)
      (loadRules rules there.client repository) := by
    unfold loadRules
    cases rules with
    | fixed document => exact agree_pure _
    | localFile path content => exact lifted _
    | repository =>
        have permitted := reads.rules RuleDocument.filePath
        exact (agree_call permitted (agree.answer _ permitted)).bind fun _ => lifted _
  unfold prepare startingContext
  rw [served]
  refine Agree.bind (loaded.bind fun document => ?_) fun context => ?_
  · cases Context.ofPayload delivery.kind delivery.payload document there.client.repository
        delivery.id queries with
    | error failure => exact agree_throw _
    | ok context => exact agree_pure _
  · exact (Run.agree_plan agree reads).within context

end Engine

end Planning

end RepoRules
