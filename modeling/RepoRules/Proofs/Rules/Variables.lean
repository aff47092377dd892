import RepoRules.Proofs.Rules.Reading
import RepoRules.Proofs.Text.Case
import RepoRules.Rules.Variables

/-!
Variables as a map from names in normal form. A variable that is set has its value under every
spelling of its name, and pairs with distinct names that are entered cover what was there before.
However a table comes about, its names are distinct and in normal form.
-/

namespace RepoRules

namespace OrderedMap

variable {α : Type}

theorem lookup_eq_none {entries : List (String × α)} {name : String}
    (absent : name ∉ entries.map Prod.fst) : entries.lookup name = none := by
  rw [List.lookup_eq_none_iff]
  intro entry member
  rw [bne_iff_ne]
  rintro rfl
  exact absent (List.mem_map_of_mem member)

end OrderedMap

namespace VariableTable

theorem normalize_normalize (name : String) : normalize (normalize name) = normalize name :=
  Text.lower_trim_lower_trim name

theorem get?_set (table : VariableTable) (name other value : String) :
    (table.set name value).get? other =
      if normalize other = normalize name then some value else table.get? other :=
  OrderedMap.get?_insert table.values (normalize name) (normalize other) value

/-- Pairs that can be entered in any order: their names are in normal form, each there once. -/
structure Entries (entries : List (String × String)) : Prop where
  distinct : (entries.map Prod.fst).Nodup
  normal : ∀ name ∈ entries.map Prod.fst, normalize name = name

theorem Entries.tail {entry : String × String} {rest : List (String × String)}
    (entries : Entries (entry :: rest)) : Entries rest :=
  ⟨(List.nodup_cons.1 entries.distinct).2, fun name member =>
    entries.normal name (List.mem_cons_of_mem _ member)⟩

theorem get?_extend {entries : List (String × String)} (valid : Entries entries)
    (table : VariableTable) (name : String) :
    (table.extend entries).get? name =
      (entries.lookup (normalize name)).or (table.get? name) := by
  induction entries generalizing table with
  | nil => rfl
  | cons entry rest induction =>
      obtain ⟨entered, value⟩ := entry
      have first : normalize entered = entered := valid.normal entered List.mem_cons_self
      change ((table.set entered value).extend rest).get? name = _
      rw [induction valid.tail, get?_set, first]
      by_cases same : normalize name = entered
      · -- the name is not entered a second time
        have absent : normalize name ∉ rest.map Prod.fst := by
          rw [same]
          exact (List.nodup_cons.1 valid.distinct).1
        rw [OrderedMap.lookup_eq_none absent, if_pos same, same, OrderedMap.lookup_cons_self]
        rfl
      · rw [if_neg same, OrderedMap.lookup_cons_of_ne same]

theorem substitute_chars_plain (table : VariableTable) {written : List Char}
    (plain : '$' ∉ written) (rest : List Char) :
    table.substituteChars (written ++ rest) = written ++ table.substituteChars rest := by
  induction written with
  | nil => rfl
  | cons character others induction =>
      rw [List.mem_cons, not_or] at plain
      rw [List.cons_append, substituteChars, if_neg (Ne.symm plain.1), induction plain.2]
      rfl

section Templates

variable (table : VariableTable) {template : String}

theorem has_pattern_of_few (few : table.tokenNames.flatten.length ≤ ordinaryLetters) :
    table.hasPattern = true := by
  rw [hasPattern, decide_eq_true few, Bool.true_or]

theorem substitute_of_plain (plain : '$' ∉ template.toList) : table.substitute template = template := by
  rw [substitute, if_neg]
  simp [plain]

theorem substitute_of_pattern (found : table.hasPattern = true) (template : String) :
    table.substitute template = String.ofList (table.substituteChars template.toList) := by
  by_cases dollar : '$' ∈ template.toList
  · rw [substitute, if_pos]
    simp [dollar, found]
  · rw [table.substitute_of_plain dollar, ← List.append_nil template.toList,
      table.substitute_chars_plain dollar, substituteChars, List.append_nil, String.ofList_toList]

theorem substitute_of_no_pattern (missing : table.hasPattern = false) (template : String) :
    table.substitute template = template := by
  rw [substitute, missing, Bool.and_false, if_neg Bool.false_ne_true]

end Templates

end VariableTable

namespace OrderedMap

open VariableTable

theorem entries_empty : Entries (empty : OrderedMap String).entries :=
  ⟨List.nodup_nil, List.forall_mem_nil _⟩

theorem entries_insert {map : OrderedMap String} (valid : Entries map.entries) {name : String}
    (normal : normalize name = name) (value : String) : Entries (map.insert name value).entries := by
  refine ⟨nodup_keys_insert valid.distinct name value, ?_⟩
  intro other member
  rcases mem_keys_insert_entry.1 member with rfl | held
  · exact normal
  · exact valid.normal other held

section Lookup

variable {α : Type} {map other : OrderedMap α} {name : String} {value : α}

theorem contains_iff : map.contains name = true ↔ name ∈ map.keys := by
  rw [contains, get?, List.lookup_isSome_iff, keys, List.mem_map]
  simp only [beq_iff_eq, @eq_comm _ name]

theorem get?_eq_some_iff (distinct : map.keys.Nodup) :
    map.get? name = some value ↔ (name, value) ∈ map.entries := by
  refine ⟨fun found => ?_, get?_of_mem distinct⟩
  obtain ⟨early, late, split, _⟩ := List.lookup_eq_some_iff.1 found
  rw [split]
  exact List.mem_append_right _ List.mem_cons_self

/-- What is found does not depend on the order of the entries. -/
theorem get?_of_perm (distinct : map.keys.Nodup) (same : other.entries.Perm map.entries)
    (name : String) : other.get? name = map.get? name := by
  refine Option.ext fun value => ?_
  have others : other.keys.Nodup := (same.map Prod.fst).nodup_iff.2 distinct
  rw [get?_eq_some_iff others, get?_eq_some_iff distinct, same.mem_iff]

end Lookup

section Insertion

variable {α : Type}

theorem insert_entry_of_not_mem {entries : List (String × α)} {name : String}
    (absent : name ∉ entries.map Prod.fst) (value : α) :
    insertEntry name value entries = entries ++ [(name, value)] := by
  induction entries with
  | nil => rfl
  | cons entry rest induction =>
      rw [List.map_cons, List.mem_cons, not_or] at absent
      rw [insertEntry, if_neg (Ne.symm absent.1), induction absent.2, List.cons_append]

end Insertion

end OrderedMap

namespace VariableTable

/-- Tables as they come about: names are set and removed one after another. -/
inductive Made : VariableTable → Prop where
  | empty : Made .empty
  | set {table : VariableTable} (made : Made table) (name value : String) :
      Made (table.set name value)
  | remove {table : VariableTable} (made : Made table) (name : String) : Made (table.remove name)

variable {table : VariableTable}

theorem Made.extend (made : Made table) (entries : List (String × String)) :
    Made (table.extend entries) := by
  induction entries generalizing table with
  | nil => exact made
  | cons entry rest induction => exact induction (made.set entry.1 entry.2)

theorem Made.valid (made : Made table) : Entries table.entries := by
  induction made with
  | empty => exact OrderedMap.entries_empty
  | set _ name value valid => exact OrderedMap.entries_insert valid (normalize_normalize name) value
  | @remove table _ name valid =>
      have kept : ((table.remove name).entries.map Prod.fst).Sublist (table.entries.map Prod.fst) :=
        List.filter_sublist.map Prod.fst
      exact ⟨valid.distinct.sublist kept, fun other member => valid.normal other (kept.mem member)⟩

end VariableTable

end RepoRules
