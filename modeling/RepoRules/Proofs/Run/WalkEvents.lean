import RepoRules.Proofs.Run.Agreement
import RepoRules.Run.Walk

/-!
What a walk through a tree may note: evaluations of the queries that are written in the tree,
listings of changed files, and writes of the kinds that do not wait in the pool. Walks of clients
that answer these calls alike agree.
-/

namespace RepoRules

def Mutation.isPooled : Mutation → Bool
  | .addLabels _ _ | .removeLabels _ _ | .addAssignees _ _ | .addReviewers _ _ => true
  | .removeAssignees _ _ | .removeReviewers _ _ | .postComment _ _ | .setMilestone _ _
  | .addToProject _ _ | .removeFromProject _ _ => false

def Operation.templates : Operation → List String
  | .labels _ values | .assignees _ values | .reviewers _ values => values
  | .milestone _ value | .project _ value | .variable _ _ value => [value]
  | .comment template => [template]

def Operation.queries (operation : Operation) : List String :=
  operation.templates.filterMap Template.queryBody?

mutual

def Condition.queries : Condition → List String
  | .fact _ => []
  | .expression source => [source]
  | .all parts | .any parts => Condition.queriesOf parts
  | .not inner => inner.queries

def Condition.queriesOf : List Condition → List String
  | [] => []
  | part :: rest => part.queries ++ Condition.queriesOf rest

end

namespace Tree

mutual

def Node.queries : Node → List String
  | .gate none => []
  | .gate (some condition) => condition.queries
  | .operation operation => operation.queries
  | .files _ _ _ body => queriesOf body
  | .sequence children => queriesOf children

def queriesOf : List Node → List String
  | [] => []
  | node :: rest => node.queries ++ queriesOf rest

end

end Tree

/-- Two ways of being served that cannot be told apart by allowed calls. -/
structure Services.Agree {σ τ : Type} (allowed : Event → Prop) (related : σ → τ → Prop)
    (here : Services σ) (there : Services τ) : Prop where
  page : here.page = there.page
  answer : ∀ request, allowed (.called request) → ∀ store other, related store other →
    (here.client.answer request store).1 = (there.client.answer request other).1 ∧
      related (here.client.answer request store).2 (there.client.answer request other).2

theorem Services.Agree.refl {σ : Type} (allowed : Event → Prop) (services : Services σ) :
    services.Agree allowed Eq services := by
  refine ⟨rfl, ?_⟩
  rintro request _ store _ rfl
  exact ⟨rfl, rfl⟩

structure WalkAllowed (allowed : Event → Prop) : Prop where
  listing : ∀ number, allowed (.called (.changedFiles number))
  direct : ∀ mutation : Mutation, mutation.isPooled = false → allowed (.called (.write mutation))

namespace Condition

/-- Judging only adds queries of the given ones to those noted before. -/
def NotesOnly (sources : List String) (steps : Judge α) : Prop :=
  ∀ seen, ∃ more, (steps.run.run seen).2 = seen ++ more ∧ ∀ source ∈ more, source ∈ sources

theorem notes_only_pure {sources : List String} (value : α) :
    NotesOnly sources (pure value : Judge α) := by
  intro seen
  exact ⟨[], (List.append_nil seen).symm, by simp⟩

theorem NotesOnly.bind {sources : List String} {steps : Judge α} {next : α → Judge β}
    (first : NotesOnly sources steps) (others : ∀ value, NotesOnly sources (next value)) :
    NotesOnly sources (steps >>= next) := by
  intro seen
  obtain ⟨more, taken, known⟩ := first seen
  rw [ExceptT.run_bind, StateT.run_bind]
  rcases result : steps.run.run seen with ⟨error | value, after⟩
  · rw [result] at taken
    exact ⟨more, taken, known⟩
  · rw [result] at taken
    obtain ⟨last, takenLast, knownLast⟩ := others value after
    refine ⟨more ++ last, ?_, ?_⟩
    · rw [← List.append_assoc, ← taken]
      exact takenLast
    · intro source member
      rcases List.mem_append.1 member with early | late
      · exact known source early
      · exact knownLast source late

theorem NotesOnly.mono {sources wider : List String} {steps : Judge α}
    (notes : NotesOnly sources steps) (within : ∀ source ∈ sources, source ∈ wider) :
    NotesOnly wider steps := by
  intro seen
  obtain ⟨more, taken, known⟩ := notes seen
  exact ⟨more, taken, fun source member => within source (known source member)⟩

theorem notes_only_judge_query (context : Context) (source : String) :
    NotesOnly [source] (judgeQuery context source) := by
  have noted : NotesOnly [source] (modify (· ++ [source]) : Judge Unit) := by
    intro seen
    exact ⟨[source], rfl, by simp⟩
  refine noted.bind fun _ => ?_
  cases context.answer source with
  | ok value => exact notes_only_pure _
  | error error =>
      intro seen
      exact ⟨[], (List.append_nil seen).symm, by simp⟩

mutual

theorem notes_only_judge (context : Context) : (condition : Condition) →
    NotesOnly condition.queries (judge context condition)
  | .fact _ => notes_only_pure _
  | .expression source => notes_only_judge_query context source
  | .all parts => notes_only_judge_all context parts
  | .any parts => notes_only_judge_any context parts
  | .not inner => (notes_only_judge context inner).bind fun _ => notes_only_pure _

theorem notes_only_judge_all (context : Context) : (parts : List Condition) →
    NotesOnly (queriesOf parts) (judgeAll context parts)
  | [] => notes_only_pure _
  | part :: rest => by
      have first : NotesOnly (queriesOf (part :: rest)) (judge context part) :=
        (notes_only_judge context part).mono fun _ => List.mem_append_left _
      have others : NotesOnly (queriesOf (part :: rest)) (judgeAll context rest) :=
        (notes_only_judge_all context rest).mono fun _ => List.mem_append_right _
      unfold judgeAll
      refine first.bind fun answer => ?_
      cases answer with
      | true => exact others
      | false => exact notes_only_pure _

theorem notes_only_judge_any (context : Context) : (parts : List Condition) →
    NotesOnly (queriesOf parts) (judgeAny context parts)
  | [] => notes_only_pure _
  | part :: rest => by
      have first : NotesOnly (queriesOf (part :: rest)) (judge context part) :=
        (notes_only_judge context part).mono fun _ => List.mem_append_left _
      have others : NotesOnly (queriesOf (part :: rest)) (judgeAny context rest) :=
        (notes_only_judge_any context rest).mono fun _ => List.mem_append_right _
      unfold judgeAny
      refine first.bind fun answer => ?_
      cases answer with
      | true => exact notes_only_pure _
      | false => exact others

end

/-- Only queries that are written in a condition are evaluated for it. -/
theorem mem_queries_of_evaluate {context : Context} {condition : Condition} {source : String}
    (member : source ∈ (condition.evaluate context).2) : source ∈ condition.queries := by
  obtain ⟨more, taken, known⟩ := notes_only_judge context condition []
  apply known
  rw [List.nil_append] at taken
  rwa [← taken]

end Condition

namespace Run

open Effects

variable {σ τ : Type} {allowed : Event → Prop} {related : σ → τ → Prop}

theorem agree_expand {template : String}
    (queries : ∀ source, Template.queryBody? template = some source →
      allowed (.evaluated source)) :
    Effects.Agree allowed related (expand template : Run σ String)
      (expand template : Run τ String) := by
  unfold expand
  refine agree_context.bind fun current => ?_
  cases body : Template.queryBody? template with
  | none => exact agree_pure _
  | some source =>
      refine (agree_note (queries source body)).bind fun _ => ?_
      cases current.answer source with
      | ok value => exact agree_pure _
      | error error => exact (agree_modify_context _).bind fun _ => agree_pure _

theorem agree_expand_all {templates : List String}
    (queries : ∀ source ∈ templates.filterMap Template.queryBody?,
      allowed (.evaluated source)) :
    Effects.Agree allowed related (expandAll templates : Run σ (List String))
      (expandAll templates : Run τ (List String)) := by
  induction templates with
  | nil => exact agree_pure _
  | cons template rest induction =>
      have first : ∀ source, Template.queryBody? template = some source →
          allowed (.evaluated source) := by
        intro source body
        exact queries source (List.mem_filterMap.2 ⟨template, List.mem_cons_self, body⟩)
      have others : ∀ source ∈ rest.filterMap Template.queryBody?,
          allowed (.evaluated source) := by
        intro source member
        obtain ⟨other, present, body⟩ := List.mem_filterMap.1 member
        exact queries source (List.mem_filterMap.2 ⟨other, List.mem_cons_of_mem _ present, body⟩)
      unfold expandAll
      refine (agree_expand first).bind fun text => ?_
      exact (induction others).bind fun _ => agree_pure _

variable {here : Services σ} {there : Services τ}

theorem agree_write (agree : Services.Agree allowed related here there) {mutation : Mutation}
    (permitted : allowed (.called (.write mutation))) :
    Effects.Agree allowed related (write here mutation) (write there mutation) :=
  agree_call permitted (agree.answer _ permitted)

theorem agree_labels (change : Change) {values : List String}
    (queries : ∀ source ∈ values.filterMap Template.queryBody?, allowed (.evaluated source)) :
    Effects.Agree allowed related (labels change values : Run σ Unit)
      (labels change values : Run τ Unit) := by
  unfold labels
  refine (agree_expand_all queries).bind fun wanted => ?_
  cases change with
  | add => exact agree_modify_context _
  | remove => exact agree_modify_context _
  | set =>
      refine agree_context.bind fun current => ?_
      exact (agree_modify_context _).bind fun _ => agree_modify_context _

theorem agree_people (agree : Services.Agree allowed related here there)
    (gone : List String) {removal : Mutation} (permitted : allowed (.called (.write removal)))
    (change : Change) (enter : Pool → String → Pool) (logins : List String) :
    Effects.Agree allowed related
      (do
        if !gone.isEmpty then write here removal
        if change ≠ .remove then poolAll enter logins : Run σ Unit)
      (do
        if !gone.isEmpty then write there removal
        if change ≠ .remove then poolAll enter logins : Run τ Unit) := by
  have entered : Effects.Agree allowed related
      (if change ≠ .remove then poolAll enter logins else pure () : Run σ Unit)
      (if change ≠ .remove then poolAll enter logins else pure () : Run τ Unit) := by
    split
    · exact agree_modify_context _
    · exact agree_pure _
  by_cases nobody : gone.isEmpty = true
  · simpa only [nobody, Bool.not_true, Bool.false_eq_true, if_false] using entered
  · simp only [nobody, Bool.not_false, if_true]
    exact (agree_write agree permitted).bind fun _ => entered

theorem agree_assignees (agree : Services.Agree allowed related here there)
    (calls : WalkAllowed allowed) (change : Change) {values : List String}
    (queries : ∀ source ∈ values.filterMap Template.queryBody?, allowed (.evaluated source)) :
    Effects.Agree allowed related (assignees here change values)
      (assignees there change values) := by
  unfold assignees
  refine (agree_expand_all queries).bind fun logins => ?_
  refine agree_context.bind fun current => ?_
  cases current.target with
  | none => exact agree_pure _
  | some item => exact agree_people agree _ (calls.direct _ rfl) _ _ _

theorem agree_reviewers (agree : Services.Agree allowed related here there)
    (calls : WalkAllowed allowed) (change : Change) {values : List String}
    (queries : ∀ source ∈ values.filterMap Template.queryBody?, allowed (.evaluated source)) :
    Effects.Agree allowed related (reviewers here change values)
      (reviewers there change values) := by
  unfold reviewers
  refine agree_context.bind fun current => ?_
  cases current.target.filter Item.isPullRequest with
  | none => exact agree_pure _
  | some item =>
      refine (agree_expand_all queries).bind fun logins => ?_
      exact agree_people agree _ (calls.direct _ rfl) _ _ _

theorem agree_milestone (agree : Services.Agree allowed related here there)
    (calls : WalkAllowed allowed) (change : Change) {value : String}
    (queries : ∀ source, Template.queryBody? value = some source → allowed (.evaluated source)) :
    Effects.Agree allowed related (milestone here change value)
      (milestone there change value) := by
  unfold milestone
  refine (agree_expand queries).bind fun text => ?_
  refine agree_context.bind fun current => ?_
  cases current.target with
  | none => exact agree_pure _
  | some item =>
      have written (title : Option String) := agree_write (τ := τ) agree
        (calls.direct (.setMilestone item.number title) rfl)
      cases change with
      | set =>
          simp only
          split
          · exact written _
          · exact agree_pure _
      | add | remove =>
          simp only
          split
          · exact written _
          · exact agree_pure _

theorem agree_project (agree : Services.Agree allowed related here there)
    (calls : WalkAllowed allowed) (change : Change) {value : String}
    (queries : ∀ source, Template.queryBody? value = some source → allowed (.evaluated source)) :
    Effects.Agree allowed related (project here change value) (project there change value) := by
  unfold project
  refine (agree_expand queries).bind fun text => ?_
  refine agree_context.bind fun current => ?_
  cases current.contentNode with
  | none => exact agree_pure _
  | some content =>
      simp only
      split
      · exact agree_pure _
      · split
        · exact agree_write agree (calls.direct _ rfl)
        · exact agree_write agree (calls.direct _ rfl)

theorem agree_comment (agree : Services.Agree allowed related here there)
    (calls : WalkAllowed allowed) {template : String}
    (queries : ∀ source, Template.queryBody? template = some source →
      allowed (.evaluated source)) :
    Effects.Agree allowed related (comment here template) (comment there template) := by
  unfold comment
  refine (agree_expand queries).bind fun body => ?_
  split
  · exact agree_pure _
  · refine agree_context.bind fun current => ?_
    cases current.target with
    | none => exact agree_pure _
    | some item => exact agree_write agree (calls.direct _ rfl)

theorem agree_change_variable (change : Change) (name : String) {template : String}
    (queries : ∀ source, Template.queryBody? template = some source →
      allowed (.evaluated source)) :
    Effects.Agree allowed related (changeVariable change name template : Run σ Unit)
      (changeVariable change name template : Run τ Unit) := by
  have assigned : Effects.Agree allowed related (setVariable name template : Run σ Unit)
      (setVariable name template : Run τ Unit) :=
    (agree_expand queries).bind fun _ => agree_modify_context _
  cases change with
  | set => exact assigned
  | remove =>
      unfold changeVariable
      exact agree_modify_context _
  | add =>
      unfold changeVariable
      refine agree_context.bind fun current => ?_
      split
      · exact assigned
      · exact agree_pure _

/-- The query of the only template of an operation is one of its queries. -/
theorem evaluates_single {operation : Operation} {template : String}
    (queries : ∀ source ∈ operation.queries, allowed (.evaluated source))
    (single : operation.templates = [template]) :
    ∀ source, Template.queryBody? template = some source → allowed (.evaluated source) := by
  intro source body
  exact queries source (by simp [Operation.queries, single, body])

theorem agree_operate (agree : Services.Agree allowed related here there)
    (calls : WalkAllowed allowed) : (operation : Operation) →
    (∀ source ∈ operation.queries, allowed (.evaluated source)) →
    Effects.Agree allowed related (operate here operation) (operate there operation)
  | .labels change _, queries => agree_labels change queries
  | .assignees change _, queries => agree_assignees agree calls change queries
  | .reviewers change _, queries => agree_reviewers agree calls change queries
  | .milestone change _, queries =>
      agree_milestone agree calls change (evaluates_single queries rfl)
  | .project change _, queries => agree_project agree calls change (evaluates_single queries rfl)
  | .comment _, queries => agree_comment agree calls (evaluates_single queries rfl)
  | .variable change name _, queries =>
      agree_change_variable change name (evaluates_single queries rfl)

theorem agree_notes {sources : List String}
    (queries : ∀ source ∈ sources, allowed (.evaluated source)) :
    Effects.Agree allowed related
      (sources.forM fun source => note (.evaluated source) : Run σ Unit)
      (sources.forM fun source => note (.evaluated source) : Run τ Unit) := by
  induction sources with
  | nil => exact agree_pure _
  | cons source rest induction =>
      refine (agree_note (queries source List.mem_cons_self)).bind fun _ => ?_
      exact induction fun other member => queries other (List.mem_cons_of_mem _ member)

theorem agree_pass_gate : (condition : Option Condition) →
    (∀ source ∈ (Tree.Node.gate condition).queries, allowed (.evaluated source)) →
    Effects.Agree allowed related (passGate condition : Run σ Flow)
      (passGate condition : Run τ Flow)
  | none, _ => agree_pure _
  | some condition, queries => by
      have judged : Effects.Agree allowed related
          (judge condition : Run σ (Except RuleError Bool))
          (judge condition : Run τ (Except RuleError Bool)) := by
        unfold judge
        refine agree_context.bind fun current => ?_
        refine (agree_notes ?_).bind fun _ => agree_pure _
        intro source member
        exact queries source (Condition.mem_queries_of_evaluate member)
      unfold passGate
      refine judged.bind fun answer => ?_
      match answer with
      | .ok true => exact agree_pure _
      | .ok false => exact agree_pure _
      | .error error => exact (agree_modify_context _).bind fun _ => agree_pure _

theorem agree_changed_files (agree : Services.Agree allowed related here there)
    (calls : WalkAllowed allowed) :
    Effects.Agree allowed related (changedFiles here) (changedFiles there) := by
  unfold changedFiles
  refine agree_context.bind fun current => ?_
  cases current.changedFiles with
  | some files => exact agree_pure _
  | none =>
      have kept (files : List String) : Effects.Agree allowed related
          (do
            modifyContext fun context => { context with changedFiles := some files }
            return files : Run σ (List String))
          (do
            modifyContext fun context => { context with changedFiles := some files }
            return files : Run τ (List String)) :=
        (agree_modify_context _).bind fun _ => agree_pure _
      cases current.target with
      | none => exact kept []
      | some item =>
          simp only
          split
          · exact (agree_call (calls.listing _) (agree.answer _ (calls.listing _))).bind kept
          · exact kept []

theorem agree_files_accepted (agree : Services.Agree allowed related here there)
    (calls : WalkAllowed allowed) (mode : FileMatch) (pattern : Pattern) :
    Effects.Agree allowed related (filesAccepted here mode pattern)
      (filesAccepted there mode pattern) := by
  unfold filesAccepted
  refine agree_context.bind fun current => ?_
  split
  · exact agree_pure _
  · exact (agree_changed_files agree calls).bind fun _ => agree_pure _

mutual

theorem agree_walk_node (agree : Services.Agree allowed related here there)
    (calls : WalkAllowed allowed) : (node : Tree.Node) →
    (∀ source ∈ node.queries, allowed (.evaluated source)) →
    Effects.Agree allowed related (walkNode here node) (walkNode there node)
  | .gate condition, queries => agree_pass_gate condition queries
  | .operation operation, queries =>
      (agree_operate agree calls operation queries).bind fun _ => agree_pure _
  | .files mode _ pattern body, queries => by
      have inside := agree_walk_nodes agree calls body queries
      unfold walkNode
      refine (agree_files_accepted agree calls mode pattern).bind fun accepted => ?_
      cases accepted with
      | true => exact inside.bind fun _ => agree_pure _
      | false => exact agree_pure _
  | .sequence children, queries =>
      (agree_walk_nodes agree calls children queries).bind fun _ => agree_pure _

/-- Walks through the same nodes agree, whichever way the queries in them turn out. -/
theorem agree_walk_nodes (agree : Services.Agree allowed related here there)
    (calls : WalkAllowed allowed) : (nodes : List Tree.Node) →
    (∀ source ∈ Tree.queriesOf nodes, allowed (.evaluated source)) →
    Effects.Agree allowed related (walkNodes here nodes) (walkNodes there nodes)
  | [], _ => agree_pure _
  | node :: rest, queries => by
      have first := agree_walk_node agree calls node fun source member =>
        queries source (List.mem_append_left _ member)
      have others := agree_walk_nodes agree calls rest fun source member =>
        queries source (List.mem_append_right _ member)
      unfold walkNodes
      refine first.bind fun flow => ?_
      cases flow with
      | proceed => exact others
      | halt => exact agree_pure _

end

end Run

end RepoRules
