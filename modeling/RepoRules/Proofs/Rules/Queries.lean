import RepoRules.Proofs.Rules.Reading
import RepoRules.Proofs.Run.WalkEvents
import RepoRules.Proofs.Tree.Expansion

/-!
The queries that are written in a document: the bodies of templates and the expressions of checks.
Whatever tree is built from the steps of a document, it holds no other query.
-/

namespace RepoRules

namespace Condition

/-- The expressions behind a key, where `group` are those of the value as a group and `list` those
of the value as a list of groups. -/
def expressionsBehind (key : String) (value : Json) (group list : List String) : List String :=
  match Text.asciiLower key with
  | "any" => list
  | "not" => group
  | "expr" => value.string?.toList
  | _ => []

mutual

/-- The expressions that are written in the group of a check: texts alone, which stand for a
condition, and texts under the key `expr`. -/
def expressions : Json → List String
  | .string source => [source]
  | .array items => expressionsOfItems items
  | .object fields => expressionsOfFields fields
  | _ => []

def expressionsOfItems : List Json → List String
  | [] => []
  | item :: rest => expressions item ++ expressionsOfItems rest

def expressionsOfList : Json → List String
  | .array items => expressionsOfItems items
  | _ => []

def expressionsOfFields : List (String × Json) → List String
  | [] => []
  | (key, value) :: rest =>
      expressionsBehind key value (expressions value) (expressionsOfList value) ++
        expressionsOfFields rest

end

theorem queries_of_all (parts : List Condition) : (allOf parts).queries = queriesOf parts := by
  unfold allOf
  split
  · rw [queriesOf, queriesOf, List.append_nil]
  · rfl

theorem queries_of_expression {source : String} {condition : Condition}
    (read : expressionOf source = .ok condition) : condition.queries = [source] := by
  unfold expressionOf at read
  split at read
  · cases read
    rfl
  · cases read

theorem queries_of_named {key : String} {value : Json} {group : Unit → Except RuleError Condition}
    {list : Unit → Option (Except RuleError (List Condition))} {condition : Condition}
    (inner : ∀ found, group () = .ok found → found.queries = expressions value)
    (parts : ∀ found, list () = some (.ok found) → queriesOf found = expressionsOfList value)
    (read : named key value group list = .ok condition) :
    condition.queries =
      expressionsBehind key value (expressions value) (expressionsOfList value) := by
  unfold named at read
  unfold expressionsBehind
  generalize Text.asciiLower key = word at read ⊢
  split at read
  · split at read
    · obtain ⟨found, taken, rfl⟩ := map_eq_ok read
      subst taken
      exact parts found (by assumption)
    · cases read
  · obtain ⟨found, taken, rfl⟩ := map_eq_ok read
    exact inner found taken
  · obtain ⟨source, taken, read⟩ := bind_eq_ok read
    unfold text at taken
    split at taken
    · cases taken
      exact queries_of_expression read
    · cases taken
  · obtain ⟨found, taken, rfl⟩ := map_eq_ok read
    simp_all [queries]

mutual

theorem queries_of_group : (group : Json) → ∀ condition, ofGroup group = .ok condition →
    condition.queries = expressions group
  | .array [], _, read | .object [], _, read => by
      rw [ofGroup] at read
      cases read
  | .array (item :: rest), _, read => by
      rw [ofGroup] at read
      obtain ⟨parts, taken, rfl⟩ := map_eq_ok read
      exact queries_of_groups (item :: rest) parts taken
  | .object (field :: rest), _, read => by
      rw [ofGroup] at read
      obtain ⟨parts, taken, rfl⟩ := map_eq_ok read
      rw [queries_of_all]
      exact queries_of_fields (field :: rest) parts taken
  | .string source, _, read => by
      rw [ofGroup] at read
      exact queries_of_expression read
  | .bool _, _, read => by
      rw [ofGroup] at read
      cases read
      rfl
  | .null, _, read | .int _, _, read | .float _, _, read => by
      rw [ofGroup] at read
      · cases read
      all_goals simp

theorem queries_of_groups : (items : List Json) → ∀ parts, ofGroups items = .ok parts →
    queriesOf parts = expressionsOfItems items
  | [], _, read => by
      rw [ofGroups] at read
      cases read
      rfl
  | item :: rest, _, read => by
      rw [ofGroups] at read
      obtain ⟨first, taken, read⟩ := bind_eq_ok read
      obtain ⟨others, behind, read⟩ := bind_eq_ok read
      cases read
      rw [queriesOf, queries_of_group item first taken, queries_of_groups rest others behind,
        expressionsOfItems]

theorem queries_of_list : (value : Json) → ∀ parts, ofList value = some (.ok parts) →
    queriesOf parts = expressionsOfList value
  | .array items, parts, read => by
      rw [ofList, Option.some.injEq] at read
      exact queries_of_groups items parts read
  | .null, _, read | .bool _, _, read | .int _, _, read | .float _, _, read
  | .string _, _, read | .object _, _, read => by
      rw [ofList] at read
      · cases read
      · simp

theorem queries_of_fields : (fields : List (String × Json)) → ∀ parts, ofFields fields = .ok parts →
    queriesOf parts = expressionsOfFields fields
  | [], _, read => by
      rw [ofFields] at read
      cases read
      rfl
  | (key, value) :: rest, _, read => by
      rw [ofFields] at read
      obtain ⟨first, taken, read⟩ := bind_eq_ok read
      obtain ⟨others, behind, read⟩ := bind_eq_ok read
      cases read
      rw [queriesOf, queries_of_fields rest others behind, expressionsOfFields,
        queries_of_named (queries_of_group value) (queries_of_list value) taken]

end

end Condition

namespace Action

def templates : Action → List String
  | .operation change => change.templates
  | .check _ | .predefined _ => []

def expressions : Action → List String
  | .check group => Condition.expressions group
  | .operation _ | .predefined _ => []

end Action

mutual

def Step.actions : Step → List Action
  | .action only => [only]
  | .group steps => Step.actionsOf steps
  | .files _ _ body => Step.actionsOf body
  | .malformed _ _ => []

def Step.actionsOf : List Step → List Action
  | [] => []
  | step :: rest => step.actions ++ Step.actionsOf rest

end

def ActionEntry.steps : ActionEntry → List Step
  | .sequence steps => steps
  | .alias _ | .other _ => []

namespace RuleDocument

def written (document : RuleDocument) : List Action :=
  (EventKind.all.flatMap fun kind =>
    (document.actions kind).entries.flatMap fun entry => Step.actionsOf entry.2.steps) ++
  document.predefined.entries.flatMap fun entry => Step.actionsOf entry.2

def templates (document : RuleDocument) : List String :=
  document.written.flatMap Action.templates

def expressions (document : RuleDocument) : List String :=
  document.written.flatMap Action.expressions

/-- The queries that are written in a document: the bodies of its templates, and the expressions of
its checks. -/
def queries (document : RuleDocument) : List String :=
  document.templates.filterMap Template.queryBody? ++ document.expressions

section Written

variable {document : RuleDocument} {name : String} {steps : List Step}

theorem written_of_entry {kind : EventKind}
    (found : (document.actions kind).get? name = some (.sequence steps)) :
    Step.actionsOf steps ⊆ document.written := by
  have present := (document.actions kind).mem_entries_of_get? found
  intro action member
  refine List.mem_append_left _ (List.mem_flatMap.2 ⟨kind, kind.mem_all, ?_⟩)
  exact List.mem_flatMap.2 ⟨_, present, member⟩

theorem written_of_predefined (defined : document.predefined.get? name = some steps) :
    Step.actionsOf steps ⊆ document.written := by
  intro action member
  have present := document.predefined.mem_entries_of_get? defined
  exact List.mem_append_right _ (List.mem_flatMap.2 ⟨_, present, member⟩)

theorem queries_of_operation {operation : Operation}
    (member : .operation operation ∈ document.written) : operation.queries ⊆ document.queries := by
  intro source query
  obtain ⟨template, present, body⟩ := List.mem_filterMap.1 query
  refine List.mem_append_left _ (List.mem_filterMap.2 ⟨template, ?_, body⟩)
  exact List.mem_flatMap.2 ⟨_, member, present⟩

theorem queries_of_check {group : Json} {condition : Condition}
    (member : .check group ∈ document.written) (read : Condition.ofGroup group = .ok condition) :
    condition.queries ⊆ document.queries := by
  intro source query
  rw [Condition.queries_of_group group condition read] at query
  exact List.mem_append_right _ (List.mem_flatMap.2 ⟨_, member, query⟩)

end Written

end RuleDocument

namespace Tree

theorem queries_of_append (nodes others : List Node) :
    queriesOf (nodes ++ others) = queriesOf nodes ++ queriesOf others := by
  induction nodes with
  | nil => rfl
  | cons node nodes induction =>
      rw [List.cons_append, queriesOf, induction, queriesOf, List.append_assoc]

section Builds

variable {document : RuleDocument} {builder last : Builder} {steps : List Step} {nodes : List Node}

/-- What is kept for finished sequences holds written queries only. -/
def Builder.KeepsWritten (document : RuleDocument) (builder : Builder) : Prop :=
  ∀ {name nodes}, builder.finished.lookup name = some nodes → queriesOf nodes ⊆ document.queries

theorem Builder.KeepsWritten.closed {name : String} (keeps : builder.KeepsWritten document)
    (written : queriesOf nodes ⊆ document.queries) :
    (builder.closed name nodes).KeepsWritten document := by
  intro other held found
  rcases Builder.lookup_closed_cases found with ⟨_, rfl⟩ | earlier
  · exact written
  · exact keeps earlier

/-- Steps of a document are expanded to nodes that hold queries of the document only. -/
theorem Expansion.queries_written (expansion : Expansion document builder steps nodes last)
    (own : Step.actionsOf steps ⊆ document.written) (keeps : builder.KeepsWritten document) :
    queriesOf nodes ⊆ document.queries ∧ last.KeepsWritten document := by
  have joined {first others : List String} (here : first ⊆ document.queries)
      (there : others ⊆ document.queries) : first ++ others ⊆ document.queries :=
    List.append_subset.2 ⟨here, there⟩
  have rest {step : Step} {rest : List Step}
      (all : Step.actionsOf (step :: rest) ⊆ document.written) :
      step.actions ⊆ document.written ∧ Step.actionsOf rest ⊆ document.written :=
    List.append_subset.1 all
  induction expansion with
  | nil => exact ⟨List.nil_subset _, keeps⟩
  | check read _ behind =>
      obtain ⟨first, own⟩ := rest own
      obtain ⟨others, final⟩ := behind own keeps
      have here := RuleDocument.queries_of_check (first List.mem_cons_self) read
      exact ⟨joined here others, final⟩
  | operation _ behind =>
      obtain ⟨first, own⟩ := rest own
      obtain ⟨others, final⟩ := behind own keeps
      exact ⟨joined (RuleDocument.queries_of_operation (first List.mem_cons_self)) others, final⟩
  | refusedCheck _ _ behind =>
      obtain ⟨others, final⟩ := behind (rest own).2 keeps
      exact ⟨joined (List.nil_subset _) others, final⟩
  | malformed _ behind | refusedFiles _ _ behind | cyclic _ _ _ behind
  | missing _ _ _ _ behind => exact behind (rest own).2 keeps
  | group _ _ inside behind | files _ _ _ inside behind =>
      obtain ⟨first, own⟩ := rest own
      obtain ⟨here, middle⟩ := inside first keeps
      obtain ⟨others, final⟩ := behind own middle
      exact ⟨joined here others, final⟩
  | finished found _ behind =>
      obtain ⟨others, final⟩ := behind (rest own).2 keeps
      rw [queries_of_append]
      exact ⟨joined (keeps found) others, final⟩
  | inline _ _ defined _ _ inside behind =>
      obtain ⟨here, middle⟩ := inside (RuleDocument.written_of_predefined defined) keeps
      obtain ⟨others, final⟩ := behind (rest own).2 (middle.closed here)
      rw [queries_of_append]
      exact ⟨joined here others, final⟩

theorem queries_of_build (own : Step.actionsOf steps ⊆ document.written) :
    queriesOf (ActionTree.build document steps).children ⊆ document.queries := by
  have start : Builder.start.KeepsWritten document := by
    intro name nodes found
    cases found
  exact ((build_expansion document steps).queries_written own start).1

end Builds

end Tree

end RepoRules
