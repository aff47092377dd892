import RepoRules.Proofs.Metadata.Extraction
import RepoRules.Proofs.Rules.Reading
import RepoRules.Proofs.Run.Stages
import RepoRules.Proofs.Run.Steps

/-!
The steps in front of a walk. Getting ready marks the label of a rerun for removal, reads and
fetches, and describes the state anew; nothing of this writes, and the pool stays open.
-/

namespace RepoRules

open Effects

variable {σ : Type}

/-- Everything that may be done in one step to get ready for a walk. -/
inductive Plans (services : Services σ) : RunState σ Context → RunState σ Context → Prop
  | fetched (state : RunState σ Context) (url : String) :
      Plans services state { state with journal := state.journal ++ [.fetched url] }
  | read (state : RunState σ Context) (request : Call)
      (reads : ∀ mutation, request ≠ .write mutation) :
      Plans services state (state.called services.client request)
  | marked (state : RunState σ Context) (label : String) :
      Plans services state
        { state with context :=
          { state.context with operations := state.context.operations.removeLabel label } }
  | renewed (state : RunState σ Context) (issue pullRequest : Option Item)
      (comment : Option Comment) :
      Plans services state
        { state with context := { state.context with issue, pullRequest, comment } }
  | forgotten (state : RunState σ Context) :
      Plans services state { state with context := { state.context with changedFiles := none } }
  | described (state : RunState σ Context) (action : String) (table : VariableTable)
      (metadata : Metadata) :
      Plans services state
        { state with context :=
          { state.context with action, variableTable := table, metadata } }

theorem Plans.flushed_eq {services : Services σ} {before after : RunState σ Context}
    (plans : Plans services before after) :
    after.context.operations.flushed = before.context.operations.flushed := by
  cases plans with
  | fetched _ => rfl
  | read _ _ => rfl
  | marked _ => simp only [Pool.removeLabel]
  | renewed _ _ _ => rfl
  | forgotten => rfl
  | described _ _ _ => rfl

namespace Run

variable {services : Services σ} {state : RunState σ Context}

theorem moves_fetches (urls : List String) :
    Moves (Plans services) (forM urls fun url => (Effects.note (.fetched url) : Run σ Unit))
      state := by
  induction urls generalizing state with
  | nil => exact moves_pure _
  | cons url rest induction =>
      rw [List.forM_cons]
      exact (moves_note (.fetched _ _)).bind fun _ _ _ => induction

theorem moves_extract (settings : MetadataSettings) (body : String) (known : Metadata) :
    Moves (Plans services) (Metadata.extract (fetch services) settings body known) state := by
  obtain ⟨urls, fields, extracts⟩ :=
    Metadata.exists_extract_eq services.page settings body known
  rw [extracts (fetch_eq services)]
  exact (moves_fetches urls).bind fun _ _ _ => moves_pure _

theorem moves_ensure_metadata : Moves (Plans services) (ensureMetadata services) state := by
  unfold ensureMetadata
  apply moves_context
  simp only
  split
  · exact moves_pure _
  · cases state.context.target with
    | none => exact moves_pure _
    | some item =>
        refine (moves_extract _ _ _).bind fun metadata after _ => ?_
        exact .single (.described after after.context.action _ metadata)

theorem moves_refresh : Moves (Plans services) (refresh services) state := by
  have issue (state : RunState σ Context) :
      Moves (Plans services) (refreshIssue services) state := by
    unfold refreshIssue
    apply moves_context
    cases state.context.issue with
    | none => exact moves_pure _
    | some item =>
        refine (moves_call (.read _ _ nofun)).bind fun fresh after _ => ?_
        exact .single (.renewed after (some fresh) _ _)
  have pullRequest (state : RunState σ Context) :
      Moves (Plans services) (refreshPullRequest services) state := by
    unfold refreshPullRequest
    apply moves_context
    cases state.context.pullRequest with
    | none => exact moves_pure _
    | some item =>
        refine (moves_call (.read _ _ nofun)).bind fun fresh after _ => ?_
        exact .single (.renewed after _ (some fresh) _)
  have comment (state : RunState σ Context) :
      Moves (Plans services) (refreshComment services) state := by
    unfold refreshComment
    apply moves_context
    cases state.context.comment with
    | none => exact moves_pure _
    | some comment =>
        refine (moves_call (.read _ _ nofun)).bind fun fresh after _ => ?_
        exact .single (.renewed after _ _ (some fresh))
  unfold refresh
  refine (issue _).bind fun _ after _ => (pullRequest _).bind fun _ after _ =>
    (comment _).bind fun _ after _ => ?_
  exact .tail (.single (.forgotten after)) (.described _ _ _ _)

theorem moves_apply_rerun : Moves (Plans services) (applyRerun services) state := by
  unfold applyRerun
  apply moves_context
  split
  · exact moves_pure _
  · split
    · exact moves_pure _
    · split
      · exact moves_pure _
      · refine Moves.bind (.single (.marked _ _)) fun _ after _ => ?_
        refine moves_refresh.bind fun _ after _ => ?_
        exact Moves.bind (.single (.described after _ _ after.context.metadata)) fun _ _ _ =>
          moves_pure _

theorem moves_plan : Moves (Plans services) (plan services) state := by
  unfold plan
  refine moves_apply_rerun.bind fun rerun after _ => ?_
  apply moves_context
  cases resolve (after.context.rules.actions after.context.kind) after.context.action with
  | error error => exact .refl
  | ok resolution =>
      cases resolution with
      | undefined => exact moves_pure _
      | resolved action remapped steps =>
          have described (state : RunState σ Context) (plan : Plan) :
              Moves (Plans services) (ensureMetadata services >>= fun _ => pure plan) state :=
            moves_ensure_metadata.bind fun _ _ _ => moves_pure _
          cases remapped with
          | false => exact described _ _
          | true =>
              exact Moves.bind (.single (.described after _ _ after.context.metadata)) fun _ _ _ =>
                described _ _

end Run

def Context.arrived (kind : EventKind) (payload : Json) (rules : RuleDocument)
    (served : RepositoryRef) (delivery : Option String) (issue pullRequest : Option Item)
    (comment : Option Comment) (queries : QueryEngine) : Context :=
  let action := ((payload.field? "action").bind Json.string?).getD ""
  { kind, action, rawAction := action, delivery, payload, rules, issue, comment, queries
    repository := (repositoryOf? payload).getD served
    pullRequest := pullRequest.map fun item => { item with isPullRequest := true }
    projectContent := (payload.path? ["projects_v2_item", "content_node_id"]).bind Json.string?
    variableTable := .empty
    metadata := .empty
    operations := .empty
    failures := []
    changedFiles := none }

theorem Context.exists_of_payload {kind : EventKind} {payload : Json} {rules : RuleDocument}
    {served : RepositoryRef} {delivery : Option String} {queries : QueryEngine}
    {context : Context}
    (read : ofPayload kind payload rules served delivery queries = .ok context) :
    ∃ issue pullRequest comment, objectOf payload "issue" Item.ofJson = .ok issue ∧
      objectOf payload "pull_request" Item.ofJson = .ok pullRequest ∧
      objectOf payload "comment" Comment.ofJson = .ok comment ∧
      context =
        (arrived kind payload rules served delivery issue pullRequest comment queries).seedVariables := by
  unfold ofPayload at read
  obtain ⟨issue, issues, read⟩ := bind_eq_ok read
  obtain ⟨pullRequest, pulls, read⟩ := bind_eq_ok read
  obtain ⟨comment, comments, read⟩ := bind_eq_ok read
  cases read
  exact ⟨issue, pullRequest, comment, issues, pulls, comments, rfl⟩

/-- What a delivery starts with is read from its payload, next to the rules. -/
theorem Engine.starting_context_eq_ok {rules : RulesSource} {queries : QueryEngine} {delivery : Delivery}
    {services : Services σ} {repository : RepositoryRef} {state after : RunState σ Unit}
    {delivered : Context}
    (started : (startingContext rules queries delivery services repository).run.run state =
      (.ok delivered, after)) :
    ∃ document, (loadRules rules services.client repository).run.run state = (.ok document, after) ∧
      Context.ofPayload delivery.kind delivery.payload document services.client.repository
        delivery.id queries = .ok delivered := by
  obtain ⟨document, middle, loaded, read⟩ := run_bind_eq_ok started
  refine ⟨document, ?_⟩
  cases payload : Context.ofPayload delivery.kind delivery.payload document
      services.client.repository delivery.id queries with
  | error failure =>
      rw [payload] at read
      cases read
  | ok made =>
      rw [payload] at read
      cases read
      exact ⟨loaded, rfl⟩

end RepoRules
