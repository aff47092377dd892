import RepoRules.Proofs.Rules.Grammar
import RepoRules.Rules.Document

/-!
What reading gives. In a document that was read, no table has two entries under one name, and no
entry of a predefined sequence was refused in a way in which only references are refused.
-/

namespace RepoRules

namespace OrderedMap

variable {α : Type}

theorem mem_keys_insert_entry {name other : String} {value : α} {entries : List (String × α)} :
    other ∈ (insertEntry name value entries).map Prod.fst ↔
      other = name ∨ other ∈ entries.map Prod.fst := by
  induction entries with
  | nil => simp [insertEntry]
  | cons entry rest induction =>
      obtain ⟨held, _⟩ := entry
      by_cases same : held = name
      · subst same
        simp [insertEntry]
      · simp only [insertEntry, same, if_false, List.map_cons, List.mem_cons, induction]
        exact or_left_comm

theorem nodup_keys_insert {map : OrderedMap α} (distinct : map.keys.Nodup) (name : String)
    (value : α) : (map.insert name value).keys.Nodup := by
  obtain ⟨entries⟩ := map
  simp only [keys, insert] at distinct ⊢
  induction entries with
  | nil => simp [insertEntry]
  | cons entry rest induction =>
      obtain ⟨held, _⟩ := entry
      rw [List.map_cons, List.nodup_cons] at distinct
      by_cases same : held = name
      · subst same
        simpa [insertEntry] using distinct
      · rw [insertEntry, if_neg same, List.map_cons, List.nodup_cons, mem_keys_insert_entry]
        exact ⟨not_or.2 ⟨same, distinct.1⟩, induction distinct.2⟩

theorem get?_of_mem {map : OrderedMap α} (distinct : map.keys.Nodup) {name : String} {value : α}
    (present : (name, value) ∈ map.entries) : map.get? name = some value := by
  obtain ⟨entries⟩ := map
  simp only [keys, get?] at distinct present ⊢
  induction entries with
  | nil => cases present
  | cons entry rest induction =>
      obtain ⟨held, _⟩ := entry
      rw [List.map_cons, List.nodup_cons] at distinct
      rcases List.mem_cons.1 present with here | elsewhere
      · cases here
        exact lookup_cons_self _ _ _
      · have differs : name ≠ held := by
          rintro rfl
          exact distinct.1 (List.mem_map.2 ⟨_, elsewhere, rfl⟩)
        rw [lookup_cons_of_ne differs]
        exact induction distinct.2 elsewhere

end OrderedMap

/-- A table of a document is read from a mapping, in which a later entry replaces an earlier one. -/
theorem Yaml.Node.nodup_keys_map {α : Type} {read : Yaml.Node → Except Decode.Fault α}
    {node : Yaml.Node} {table : OrderedMap α} (taken : node.map read = .ok table) :
    table.keys.Nodup := by
  obtain ⟨entries, _, folded⟩ := bind_eq_ok taken
  refine holds_of_foldlM (fun table => table.keys.Nodup) ?_ List.nodup_nil folded
  intro before entry _ after distinct entered
  obtain ⟨key, _, entered⟩ := bind_eq_ok entered
  obtain ⟨value, _, entered⟩ := bind_eq_ok entered
  cases entered
  exact OrderedMap.nodup_keys_insert distinct key value

/-- What an entry of a record is read as: its field, which is not there before if it is known. -/
theorem Yaml.Node.record_field_eq_ok {α : Type} {known : List String}
    {field : α → String → Yaml.Node → Except Decode.Fault α} {read after : α × List String}
    {entry : Yaml.Node × Yaml.Node} (entered : recordField known field read entry = .ok after) :
    ∃ key value, entry.1.untagged = .string key ∧ (key ∈ known → key ∉ read.2) ∧
      field read.1 key entry.2 = .ok value ∧ after = (value, key :: read.2) := by
  obtain ⟨key, named, entered⟩ := bind_eq_ok entered
  have text : entry.1.untagged = .string key := by
    unfold textAs at named
    split at named
    · next held =>
        cases named
        exact held
    · cases named
  dsimp only at entered
  split at entered
  · cases entered
  · next free =>
      obtain ⟨value, taken, entered⟩ := bind_eq_ok entered
      cases entered
      refine ⟨key, value, text, ?_, taken, rfl⟩
      intro common again
      refine free ?_
      rw [List.contains_iff_mem.2 common, List.contains_iff_mem.2 again]
      rfl

theorem EventKind.mem_all (kind : EventKind) : kind ∈ EventKind.all := by
  cases kind <;> decide

/-- An error that only a reference to a predefined sequence can have. -/
def RuleError.OfReference : RuleError → Prop
  | .missingPredefined _ | .predefinedCycle _ => True
  | _ => False

mutual

def Step.Genuine : Step → Prop
  | .action _ => True
  | .files _ _ body => Step.AllGenuine body
  | .group steps => Step.AllGenuine steps
  | .malformed _ error => ¬ error.OfReference

def Step.AllGenuine : List Step → Prop
  | [] => True
  | step :: rest => step.Genuine ∧ Step.AllGenuine rest

end

/-- What is read is good, and what is refused is refused as entries are. -/
inductive Reads {α : Type} (good : α → Prop) : Except RuleError α → Prop
  | ok {value : α} (right : good value) : Reads good (.ok value)
  | error {error : RuleError} (genuine : ¬ error.OfReference) : Reads good (.error error)

abbrev ReadsAny {α : Type} : Except RuleError α → Prop :=
  Reads fun _ => True

namespace Reads

variable {α β : Type} {good : α → Prop} {better : β → Prop}

theorem bind {first : Except RuleError α} {next : α → Except RuleError β} (reads : Reads good first)
    (others : ∀ value, good value → Reads better (next value)) : Reads better (first >>= next) := by
  cases reads with
  | ok right => exact others _ right
  | error genuine => exact .error genuine

theorem map {result : Except RuleError α} {change : α → β} (reads : Reads good result)
    (keeps : ∀ value, good value → better (change value)) : Reads better (result.map change) := by
  cases reads with
  | ok right => exact .ok (keeps _ right)
  | error genuine => exact .error genuine

theorem mapM {read : α → Except RuleError β} (reads : ∀ item, ReadsAny (read item))
    (items : List α) : ReadsAny (items.mapM read) := by
  induction items with
  | nil => exact .ok trivial
  | cons item rest induction =>
      rw [List.mapM_cons]
      exact (reads item).bind fun _ _ => induction.bind fun _ _ => .ok trivial

end Reads

namespace Step

mutual

theorem genuine_of_stands : (step : Step) → (item : Json) → Stands item step → step.Genuine
  | .action _, _, _ => by
      rw [Genuine]
      trivial
  | .files _ _ body, _, .files _ _ each => by
      rw [Genuine]
      exact genuine_of_all_stand body _ each
  | .group steps, _, .list each => by
      rw [Genuine]
      exact genuine_of_all_stand steps _ each
  | .malformed _ _, _, stands => by
      rw [Genuine]
      cases stands with
      | refused _ blames =>
          rcases blames with ⟨_, _ | _⟩ | ⟨_, fault, rfl⟩ | _ <;> exact id
      | crowded _ | other _ _ => exact id

theorem genuine_of_all_stand : (steps : List Step) → (items : List Json) →
    List.Forall₂ Stands items steps → AllGenuine steps
  | [], _, _ => trivial
  | step :: rest, _, .cons first others =>
      ⟨genuine_of_stands step _ first, genuine_of_all_stand rest _ others⟩

end

theorem genuine_parse_items (items : List Json) : AllGenuine (parseItems items) :=
  genuine_of_all_stand _ items (parse_items_stand items)

end Step

namespace RuleDocument

structure Draft.Distinct (draft : Draft) : Prop where
  actions : ∀ kind, (draft.actions kind).keys.Nodup
  predefined : draft.predefined.keys.Nodup

theorem Draft.Distinct.of_field {draft after : Draft} {name : String} {node : Yaml.Node}
    (distinct : draft.Distinct) (read : draftField draft name node = .ok after) :
    after.Distinct := by
  unfold draftField at read
  split at read
  · obtain ⟨value, _, read⟩ := bind_eq_ok read
    cases read
    exact ⟨distinct.actions, distinct.predefined⟩
  · obtain ⟨value, _, read⟩ := bind_eq_ok read
    cases read
    exact ⟨distinct.actions, distinct.predefined⟩
  · obtain ⟨value, _, read⟩ := bind_eq_ok read
    cases read
    exact ⟨distinct.actions, distinct.predefined⟩
  · obtain ⟨value, _, read⟩ := bind_eq_ok read
    cases read
    exact ⟨distinct.actions, distinct.predefined⟩
  · obtain ⟨table, taken, read⟩ := bind_eq_ok read
    cases read
    exact ⟨distinct.actions, Yaml.Node.nodup_keys_map taken⟩
  · split at read
    · obtain ⟨table, taken, read⟩ := bind_eq_ok read
      cases read
      refine ⟨fun kind => ?_, distinct.predefined⟩
      simp only [setActions]
      split
      · exact Yaml.Node.nodup_keys_map taken
      · exact distinct.actions kind
    · cases read
      exact distinct

theorem distinct_of_read_draft {root : Yaml.Node} {draft : Draft}
    (read : readDraft root = .ok draft) : draft.Distinct := by
  obtain ⟨entries, _, read⟩ := bind_eq_ok read
  obtain ⟨last, folded, read⟩ := bind_eq_ok read
  cases read
  have empty : Draft.Distinct ⟨none, none, none, none, .empty, fun _ => .empty⟩ :=
    ⟨fun _ => List.nodup_nil, List.nodup_nil⟩
  refine holds_of_foldlM (fun read => Draft.Distinct read.1) ?_ empty folded
  intro before entry _ after distinct entered
  obtain ⟨key, value, _, _, taken, rfl⟩ := Yaml.Node.record_field_eq_ok entered
  exact distinct.of_field taken

/-- What holds of every document that was read. -/
structure WellRead (document : RuleDocument) : Prop where
  actions : ∀ kind, (document.actions kind).keys.Nodup
  predefined : document.predefined.keys.Nodup
  genuine : ∀ entry ∈ document.predefined.entries, Step.AllGenuine entry.2

theorem read_sequences {entries : List (String × Json)} {sequences : List (String × List Step)}
    (read : List.Forall₂ (fun entry sequence =>
      (do return (entry.1, ← predefinedOf entry.1 entry.2)) = Except.ok sequence)
      entries sequences) :
    sequences.map Prod.fst = entries.map Prod.fst ∧
      ∀ entry ∈ sequences, Step.AllGenuine entry.2 := by
  induction read with
  | nil => exact ⟨rfl, by simp⟩
  | @cons entry sequence _ _ first _ induction =>
      obtain ⟨steps, taken, first⟩ := bind_eq_ok first
      cases first
      have genuine : Step.AllGenuine steps := by
        unfold predefinedOf at taken
        cases parsed : Step.parseSequence entry.2 with
        | ok found =>
            rw [parsed] at taken
            cases taken
            obtain ⟨items, _, rfl⟩ := Step.parse_sequence_eq_ok_iff.1 parsed
            exact Step.genuine_parse_items items
        | error error =>
            rw [parsed] at taken
            cases taken
      refine ⟨by rw [List.map_cons, List.map_cons, induction.1], ?_⟩
      intro other member
      rcases List.mem_cons.1 member with here | elsewhere
      · exact here ▸ genuine
      · exact induction.2 other elsewhere

theorem well_read_of_draft {draft : Draft} {document : RuleDocument} (distinct : draft.Distinct)
    (read : ofDraft draft = .ok document) : document.WellRead := by
  unfold ofDraft at read
  obtain ⟨revision, _, read⟩ := bind_eq_ok read
  obtain ⟨version, _, read⟩ := bind_eq_ok read
  obtain ⟨owner, _, read⟩ := bind_eq_ok read
  obtain ⟨settings, _, read⟩ := bind_eq_ok read
  obtain ⟨_, _, read⟩ := bind_eq_ok read
  obtain ⟨sequences, taken, read⟩ := bind_eq_ok read
  cases read
  obtain ⟨names, genuine⟩ := read_sequences (forall₂_of_mapM taken)
  refine ⟨fun kind => ?_, ?_, genuine⟩
  · simpa [mapEntries, OrderedMap.keys, Function.comp_def] using distinct.actions kind
  · rw [OrderedMap.keys, names]
    exact distinct.predefined

theorem well_read_of_parse {text : String} {document : RuleDocument}
    (parsed : parse text = .ok document) : document.WellRead := by
  unfold parse at parsed
  cases tree : Yaml.Node.parse? text with
  | none =>
      rw [tree] at parsed
      cases parsed
  | some root =>
      rw [tree] at parsed
      simp only at parsed
      split at parsed
      · cases parsed
      · cases read : readDraft root with
        | error fault =>
            rw [read] at parsed
            cases parsed
        | ok draft =>
            rw [read] at parsed
            exact well_read_of_draft (distinct_of_read_draft read) (map_error_eq_ok parsed)

end RuleDocument

end RepoRules
