import Mathlib.Data.String.Basic
import RepoRules.Json.Reader

/-!
Names of fields. In whatever is read from a text, objects have their fields in the order of the
names, and no two of one name; this holds of the objects inside as well.
-/

namespace RepoRules.Json

/-- The names stand in order, so that none occurs twice. -/
def Ordered (fields : List (String × Json)) : Prop :=
  fields.Pairwise fun field other => field.1 < other.1

theorem name_of_mem_insert {name : String} {value : Json} {fields : List (String × Json)}
    {field : String × Json} (member : field ∈ insertField name value fields) :
    field = (name, value) ∨ field ∈ fields := by
  induction fields with
  | nil => exact .inl (List.mem_singleton.1 member)
  | cons entry rest induction =>
      obtain ⟨other, held⟩ := entry
      rw [insertField] at member
      split at member
      · exact (List.mem_cons.1 member).imp_right (List.mem_cons_of_mem _)
      · split at member
        · exact List.mem_cons.1 member
        · rcases List.mem_cons.1 member with rfl | member
          · exact .inr List.mem_cons_self
          · exact (induction member).imp_right (List.mem_cons_of_mem _)

theorem ordered_insert (name : String) (value : Json) {fields : List (String × Json)}
    (ordered : Ordered fields) : Ordered (insertField name value fields) := by
  induction fields with
  | nil => exact List.pairwise_singleton _ _
  | cons entry rest induction =>
      obtain ⟨other, held⟩ := entry
      obtain ⟨first, others⟩ := List.pairwise_cons.1 ordered
      rw [insertField]
      split
      · next same =>
          subst same
          exact List.pairwise_cons.2 ⟨first, others⟩
      · next differs =>
          split
          · next before =>
              refine List.pairwise_cons.2 ⟨?_, ordered⟩
              intro field member
              rcases List.mem_cons.1 member with rfl | member
              · exact before
              · exact lt_trans before (first field member)
          · next behind =>
              refine List.pairwise_cons.2 ⟨?_, induction others⟩
              intro field member
              rcases name_of_mem_insert member with rfl | member
              · exact lt_of_le_of_ne (not_lt.1 behind) (Ne.symm differs)
              · exact first field member

inductive Sorted : Json → Prop
  | scalar {value : Json} (flat : value.array? = none) (bare : value.fields? = none) : Sorted value
  | array {items : List Json} (inside : ∀ item ∈ items, Sorted item) : Sorted (.array items)
  | object {fields : List (String × Json)} (ordered : Ordered fields)
      (inside : ∀ field ∈ fields, Sorted field.2) : Sorted (.object fields)

theorem sorted_of_fields {fields : List (String × Json)}
    (inside : ∀ field ∈ fields, field.2.Sorted) : (ofFields fields).Sorted := by
  have grown (sorted : List (String × Json)) (ordered : Ordered sorted)
      (held : ∀ field ∈ sorted, field.2.Sorted) :
      Ordered (fields.foldl (fun sorted field => insertField field.1 field.2 sorted) sorted) ∧
        ∀ field ∈ fields.foldl (fun sorted field => insertField field.1 field.2 sorted) sorted,
          field.2.Sorted := by
    induction fields generalizing sorted with
    | nil => exact ⟨ordered, held⟩
    | cons field rest induction =>
        refine induction (fun other member => inside other (List.mem_cons_of_mem _ member)) _
          (ordered_insert _ _ ordered) ?_
        intro other member
        rcases name_of_mem_insert member with rfl | member
        · exact inside field List.mem_cons_self
        · exact held other member
  obtain ⟨ordered, held⟩ := grown [] .nil (List.forall_mem_nil _)
  exact .object ordered held

namespace Written

theorem sorted_of_number : (number : Number) → number.toJson.Sorted
  | .int _ => .scalar rfl rfl
  | .float _ => .scalar rfl rfl

mutual

theorem sorted_of_value : (depth : Nat) → (written : Written) →
    ∀ value ∈ valueWithin? depth written, value.Sorted
  | _, .null, _, read | _, .bool _, _, read => by
      rw [valueWithin?] at read
      cases read
      exact .scalar rfl rfl
  | _, .number _, _, read => by
      rw [valueWithin?] at read
      obtain ⟨number, _, rfl⟩ := Option.map_eq_some_iff.1 read
      exact sorted_of_number number
  | _, .string _, _, read => by
      rw [valueWithin?] at read
      obtain ⟨_, _, rfl⟩ := Option.map_eq_some_iff.1 read
      exact .scalar rfl rfl
  | 0, .array _, _, read | 0, .object _, _, read => by
      rw [valueWithin?] at read
      cases read
  | depth + 1, .array items, _, read => by
      rw [valueWithin?] at read
      obtain ⟨values, inside, rfl⟩ := Option.map_eq_some_iff.1 read
      exact .array (sorted_of_items depth items values inside)
  | depth + 1, .object fields, _, read => by
      rw [valueWithin?] at read
      obtain ⟨values, inside, rfl⟩ := Option.map_eq_some_iff.1 read
      exact sorted_of_fields (sorted_of_entries depth fields values inside)

theorem sorted_of_items : (depth : Nat) → (items : List Written) →
    ∀ values ∈ itemsWithin? depth items, ∀ value ∈ values, value.Sorted
  | _, [], _, read => by
      rw [itemsWithin?] at read
      cases read
      exact List.forall_mem_nil _
  | depth, item :: items, _, read => by
      rw [itemsWithin?] at read
      obtain ⟨first, own, read⟩ := Option.bind_eq_some_iff.1 read
      obtain ⟨others, inside, read⟩ := Option.bind_eq_some_iff.1 read
      cases read
      exact List.forall_mem_cons.2
        ⟨sorted_of_value depth item first own, sorted_of_items depth items others inside⟩

theorem sorted_of_entries : (depth : Nat) → (fields : List (Option String × Written)) →
    ∀ values ∈ fieldsWithin? depth fields, ∀ field ∈ values, field.2.Sorted
  | _, [], _, read => by
      rw [fieldsWithin?] at read
      cases read
      exact List.forall_mem_nil _
  | depth, (name, value) :: fields, _, read => by
      rw [fieldsWithin?] at read
      obtain ⟨_, _, read⟩ := Option.bind_eq_some_iff.1 read
      obtain ⟨first, own, read⟩ := Option.bind_eq_some_iff.1 read
      obtain ⟨others, inside, read⟩ := Option.bind_eq_some_iff.1 read
      cases read
      exact List.forall_mem_cons.2
        ⟨sorted_of_value depth value first own, sorted_of_entries depth fields others inside⟩

end

end Written

/-- Whatever is read from a text has its fields in order. -/
theorem sorted_of_parse {text : String} {value : Json} (parsed : parse? text = some value) :
    value.Sorted := by
  obtain ⟨written, _, read⟩ := Option.bind_eq_some_iff.1 parsed
  exact written.sorted_of_value 127 value read

/-- In an object that has its fields in order, a name leads to its only field. -/
theorem apart_of_ordered {before after : List (String × Json)} {name : String} {value : Json}
    (ordered : Ordered (before ++ (name, value) :: after)) :
    (∀ field ∈ before, field.1 ≠ name) ∧ ∀ field ∈ after, field.1 ≠ name := by
  obtain ⟨_, behind, across⟩ := List.pairwise_append.1 ordered
  refine ⟨fun field member => ?_, fun field member => ?_⟩
  · exact (across field member _ List.mem_cons_self).ne
  · exact ((List.pairwise_cons.1 behind).1 field member).ne'

theorem Sorted.field {value held : Json} {name : String} (sorted : value.Sorted)
    (found : value.field? name = some held) : held.Sorted := by
  cases value with
  | object fields =>
      cases sorted with
      | scalar flat bare => cases bare
      | object ordered inside =>
          obtain ⟨early, late, rfl, _⟩ := List.lookup_eq_some_iff.1 found
          exact inside (name, held) (by simp)
  | null | bool | int | float | string | array => cases found

theorem Sorted.ordered {fields : List (String × Json)} (sorted : (Json.object fields).Sorted) :
    Ordered fields := by
  cases sorted with
  | scalar flat bare => cases bare
  | object ordered inside => exact ordered

end RepoRules.Json
