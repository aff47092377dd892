import RepoRules.Proofs.Rules.Reading
import RepoRules.Proofs.Tree.References

/-!
Validation of documents. Nothing is wrong with a document exactly when every action that it
configures leads to steps that can all be used, and all predefined sequences consist of such steps.
Whatever action a delivery then asks for, either nothing is configured for it, or its steps can be
used.
-/

namespace RepoRules.RuleDocument

def IsUsable (document : RuleDocument) (steps : List Step) : Prop :=
  (ActionTree.build document steps).diagnostics = []

def Serves (document : RuleDocument) (kind : EventKind) (action : String) : Prop :=
  ∃ name remapped steps,
    resolve (document.actions kind) action = .ok (.resolved name remapped steps) ∧
      document.IsUsable steps

section Resolving

variable {table : OrderedMap ActionEntry} {action name : String} {remapped : Bool}
  {steps : List Step}

theorem resolve_sequence (found : table.get? action = some (.sequence steps)) :
    resolve table action = .ok (.resolved action false steps) := by
  rw [resolve, Resolution.maximumHops, Resolution.follow, found]

theorem resolve_undefined (found : table.get? action = none) :
    resolve table action = .ok .undefined := by
  rw [resolve, Resolution.maximumHops, Resolution.follow, found]

theorem get?_of_follow {hops : Nat} {before : Bool}
    (followed : Resolution.follow table hops before action = .ok (.resolved name remapped steps)) :
    table.get? name = some (.sequence steps) := by
  induction hops generalizing before action with
  | zero =>
      rw [Resolution.follow] at followed
      split at followed
      · cases followed
      · cases followed
        assumption
      · cases followed
      · cases followed
  | succ hops induction =>
      rw [Resolution.follow] at followed
      split at followed
      · cases followed
      · cases followed
        assumption
      · cases followed
      · simp only at followed
        split at followed
        · cases followed
        · exact induction followed

end Resolving

section Entries

variable {document : RuleDocument} {kind : EventKind} {name : String} {entry : ActionEntry}

/-- Nothing is wrong with a document if nothing is wrong with its entries and its sequences. -/
theorem diagnostics_eq_nil_iff (document : RuleDocument) :
    document.diagnostics = [] ↔
      (∀ kind, ∀ entry ∈ (document.actions kind).entries,
        document.entryDiagnostics kind entry.1 entry.2 = []) ∧
      ∀ entry ∈ document.predefined.entries, document.IsUsable entry.2 := by
  simp only [diagnostics, List.append_eq_nil_iff, List.flatMap_eq_nil_iff, List.map_eq_nil_iff,
    IsUsable]
  constructor
  · rintro ⟨entries, sequences⟩
    exact ⟨fun kind => entries kind (EventKind.mem_all kind), sequences⟩
  · rintro ⟨entries, sequences⟩
    exact ⟨fun kind _ => entries kind, sequences⟩

theorem usable_of_sequence {steps : List Step}
    (right : document.entryDiagnostics kind name (.sequence steps) = []) :
    document.IsUsable steps :=
  List.map_eq_nil_iff.1 right

/-- Something is wrong with an entry that does not lead to steps. -/
theorem exists_resolved_of_entry (found : (document.actions kind).get? name = some entry)
    (right : document.entryDiagnostics kind name entry = []) :
    ∃ action remapped steps,
      resolve (document.actions kind) name = .ok (.resolved action remapped steps) := by
  match entry, right with
  | .sequence steps, _ => exact ⟨_, _, _, resolve_sequence found⟩
  | .alias _, right | .other _, right =>
      simp only [entryDiagnostics] at right
      split at right
      · exact ⟨_, _, _, by assumption⟩
      · cases right
      · cases right

/-- An entry that is no sequence is compiled where its name leads to. -/
theorem serves_of_entries
    (right : ∀ entry ∈ (document.actions kind).entries,
      document.entryDiagnostics kind entry.1 entry.2 = [])
    (found : (document.actions kind).get? name = some entry) : document.Serves kind name := by
  have present := (document.actions kind).mem_entries_of_get? found
  obtain ⟨action, remapped, steps, resolved⟩ :=
    exists_resolved_of_entry found (right _ present)
  have target : (action, .sequence steps) ∈ (document.actions kind).entries :=
    (document.actions kind).mem_entries_of_get? (get?_of_follow resolved)
  exact ⟨action, remapped, steps, resolved, usable_of_sequence (right _ target)⟩

theorem entry_diagnostics_of_serves (serves : document.Serves kind name)
    (found : (document.actions kind).get? name = some entry) :
    document.entryDiagnostics kind name entry = [] := by
  obtain ⟨action, remapped, steps, resolved, usable⟩ := serves
  match entry, found with
  | .sequence own, found =>
      rw [resolve_sequence found] at resolved
      cases resolved
      exact List.map_eq_nil_iff.2 usable
  | .alias _, _ | .other _, _ => simp only [entryDiagnostics, resolved]

end Entries

/-- Validation finds something wrong with a document that was read exactly when an action that it
configures does not lead to usable steps, or a predefined sequence is not usable. If it finds
nothing, then no action at all, configured or not, leads to an error or to steps that are not
usable. -/
theorem validation_finds_every_fault {text : String} {document : RuleDocument}
    (parsed : parse text = .ok document) :
    (document.diagnostics = [] ↔
      (∀ kind, ∀ name ∈ (document.actions kind).keys, document.Serves kind name) ∧
      ∀ name steps, document.predefined.get? name = some steps → document.IsUsable steps) ∧
    (document.diagnostics = [] → ∀ kind action,
      (document.actions kind).get? action = none ∧
          resolve (document.actions kind) action = .ok .undefined ∨
        document.Serves kind action) := by
  have read := well_read_of_parse parsed
  rw [diagnostics_eq_nil_iff]
  refine ⟨⟨?_, ?_⟩, ?_⟩
  · rintro ⟨entries, sequences⟩
    refine ⟨?_, ?_⟩
    · intro kind name present
      obtain ⟨⟨_, entry⟩, member, rfl⟩ := List.mem_map.1 present
      exact serves_of_entries (entries kind) (OrderedMap.get?_of_mem (read.actions kind) member)
    · intro name steps defined
      exact sequences _ (document.predefined.mem_entries_of_get? defined)
  · rintro ⟨serves, usable⟩
    refine ⟨?_, ?_⟩
    · rintro kind ⟨name, entry⟩ member
      have found := OrderedMap.get?_of_mem (read.actions kind) member
      exact entry_diagnostics_of_serves (serves kind name (List.mem_map_of_mem member)) found
    · rintro ⟨name, steps⟩ member
      exact usable name steps (OrderedMap.get?_of_mem read.predefined member)
  · rintro ⟨entries, _⟩ kind action
    cases found : (document.actions kind).get? action with
    | none => exact .inl ⟨rfl, resolve_undefined found⟩
    | some entry => exact .inr (serves_of_entries (entries kind) found)

def greetingText : String :=
  "revision: 1\nschema-version: 5\nowner-ms-alias: docsbot\nconfig: \x7b\x7d\n" ++
    "issues:\n  opened:\n    - predefined: greet\n  reopened: opened\n" ++
    "predefined:\n  greet:\n    - labels-add: [greeted]\n"

theorem greeting_is_valid :
    ∃ document, parse greetingText = .ok document ∧ document.diagnostics = [] ∧
      document.Serves .issues "reopened" ∧
      resolve (document.actions .issues) "closed" = .ok .undefined := by
  have read : ((parse greetingText).toOption.map fun document =>
      (document.diagnostics.length, ((document.actions .issues).get? "reopened").isSome,
        ((document.actions .issues).get? "closed").isSome)) = some (0, true, false) := by
    decide +kernel
  cases parsed : parse greetingText with
  | error error =>
      rw [parsed] at read
      cases read
  | ok document =>
      rw [parsed] at read
      simp only [Except.toOption, Option.map_some, Option.some.injEq, Prod.mk.injEq] at read
      obtain ⟨clean, known, unknown⟩ := read
      have right := List.eq_nil_of_length_eq_zero clean
      have serves := (validation_finds_every_fault parsed).2 right
      refine ⟨document, rfl, right, ?_, ?_⟩
      · rcases serves .issues "reopened" with ⟨missing, _⟩ | serves
        · simp [missing] at known
        · exact serves
      · have missing := Option.isNone_iff_eq_none.1 (Option.isSome_eq_false_iff.1 unknown)
        exact resolve_undefined missing

end RepoRules.RuleDocument
