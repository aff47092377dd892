import Mathlib.Data.Set.Card
import RepoRules.Proofs.Rules.Variables

/-!
Tables of variables over a history of edits. Each edit says of one name after another that it has a
value or that it has none any more, and two names that differ in case or in the blanks around them
are one. A name has what was said of it last; the names of a table stand in the order in which they
came in, and one that was taken away and came back stands where it came back.
-/

namespace RepoRules

namespace OrderedMap

section Entries

variable {α : Type} {name : String} {entries : List (String × α)}

theorem keys_insert_of_mem (present : name ∈ entries.map Prod.fst) (value : α) :
    (insertEntry name value entries).map Prod.fst = entries.map Prod.fst := by
  induction entries with
  | nil => cases present
  | cons entry rest induction =>
      obtain ⟨held, _⟩ := entry
      by_cases same : held = name
      · rw [insertEntry, if_pos same, same]
        rfl
      · have behind : name ∈ rest.map Prod.fst :=
          (List.mem_cons.1 present).resolve_left (Ne.symm same)
        rw [insertEntry, if_neg same, List.map_cons, induction behind]
        rfl

theorem filter_insert_entry {keep : String → Bool} (other : keep name = false) (value : α)
    (entries : List (String × α)) :
    (insertEntry name value entries).filter (fun entry => keep entry.1) =
      entries.filter fun entry => keep entry.1 := by
  induction entries with
  | nil => simp [insertEntry, other]
  | cons entry rest induction =>
      obtain ⟨held, _⟩ := entry
      by_cases same : held = name
      · subst same
        simp [insertEntry, other]
      · rw [insertEntry, if_neg same, List.filter_cons, List.filter_cons, induction]

theorem get?_erase (map : OrderedMap α) (name other : String) :
    (map.erase name).get? other = if other = name then none else map.get? other := by
  obtain ⟨entries⟩ := map
  simp only [erase, get?]
  induction entries with
  | nil => simp
  | cons entry rest induction =>
      obtain ⟨held, value⟩ := entry
      by_cases taken : held = name
      · subst taken
        rw [List.filter_cons_of_neg (by simp), induction]
        by_cases same : other = held
        · rw [if_pos same, if_pos same]
        · rw [if_neg same, if_neg same, lookup_cons_of_ne same]
      · rw [List.filter_cons_of_pos (by simpa using taken)]
        by_cases first : other = held
        · subst first
          rw [lookup_cons_self, if_neg taken, lookup_cons_self]
        · rw [lookup_cons_of_ne first, lookup_cons_of_ne first, induction]

end Entries

end OrderedMap

namespace VariableTable

def names (table : VariableTable) : List String :=
  table.entries.map Prod.fst

inductive Edit where
  | set (name value : String)
  | remove (name : String)
  | extend (entries : List (String × String))

structure Mark where
  name : String
  value : Option String

def Edit.apply : Edit → VariableTable → VariableTable
  | .set name value, table => table.set name value
  | .remove name, table => table.remove name
  | .extend entries, table => table.extend entries

def Edit.marks : Edit → List Mark
  | .set name value => [⟨name, some value⟩]
  | .remove name => [⟨name, none⟩]
  | .extend entries => entries.map fun entry => ⟨entry.1, some entry.2⟩

def edited (edits : List Edit) : VariableTable :=
  edits.foldl (fun table edit => edit.apply table) empty

def Mark.key (mark : Mark) : String :=
  normalize mark.name

def Mark.enter (mark : Mark) (table : VariableTable) : VariableTable :=
  match mark.value with
  | some value => table.set mark.name value
  | none => table.remove mark.name

/-- What was said of a name last. -/
def valueAfter (past : List Mark) (key : String) : Option String :=
  (past.filter fun mark => mark.key == key).getLast?.bind Mark.value

/-- At this place in the past the name came in: it was given a value there, it has not been taken
away any more, and whatever value it had been given before was taken away before. -/
structure CameIn (past : List Mark) (key : String) (place : Nat) : Prop where
  given : ∃ mark, past[place]? = some mark ∧ mark.key = key ∧ mark.value.isSome
  stays : ∀ later mark, place < later → past[later]? = some mark → mark.key = key →
    mark.value.isSome
  fresh : ∀ earlier mark, earlier < place → past[earlier]? = some mark → mark.key = key →
    mark.value.isSome → ∃ between removal, earlier < between ∧ between < place ∧
      past[between]? = some removal ∧ removal.key = key ∧ removal.value = none

/-- A table is the map that a past makes. -/
structure IsMapOf (past : List Mark) (table : VariableTable) : Prop where
  distinct : table.names.Nodup
  normal : ∀ key ∈ table.names, Text.trim key = key ∧ Text.lower key = key
  value : ∀ name, table.get? name = valueAfter past (normalize name)
  listed : ∀ entry ∈ table.entries, table.get? entry.1 = some entry.2
  contains : ∀ name, table.contains name = (table.get? name).isSome
  named : ∀ name, table.contains name = true ↔ normalize name ∈ table.names
  size : table.size = {key | normalize key = key ∧ (table.get? key).isSome}.ncard
  isEmpty : table.isEmpty = true ↔ ∀ name, table.get? name = none
  /-- The names stand in the order of the places at which they came in. -/
  order : ∃ place : String → Nat, (∀ key ∈ table.names, CameIn past key (place key)) ∧
    table.names.Pairwise fun key other => place key < place other

/-- Of the other names nothing changes, neither values nor order. -/
structure Spares (keys : List String) (before after : VariableTable) : Prop where
  value : ∀ name, normalize name ∉ keys → after.get? name = before.get? name
  order : after.entries.filter (fun entry => entry.1 ∉ keys) =
    before.entries.filter fun entry => entry.1 ∉ keys

section Marks

theorem edit_apply_eq (edit : Edit) (table : VariableTable) :
    edit.apply table = edit.marks.foldl (fun table mark => mark.enter table) table := by
  cases edit with
  | set | remove => rfl
  | extend entries =>
      rw [Edit.apply, extend, Edit.marks, List.foldl_map]
      rfl

/-- Edits leave what their marks make of the empty table. -/
theorem edited_eq (edits : List Edit) :
    edited edits = (edits.flatMap Edit.marks).foldl (fun table mark => mark.enter table) empty := by
  rw [edited, List.foldl_flatMap]
  congr 1
  funext table edit
  exact edit_apply_eq edit table

theorem made_enter {table : VariableTable} (made : Made table) (mark : Mark) :
    Made (mark.enter table) := by
  unfold Mark.enter
  split
  · exact made.set mark.name _
  · exact made.remove mark.name

end Marks

section Values

theorem value_after_concat (past : List Mark) (mark : Mark) (key : String) :
    valueAfter (past ++ [mark]) key =
      if mark.key = key then mark.value else valueAfter past key := by
  unfold valueAfter
  rw [List.filter_append]
  by_cases same : mark.key = key
  · rw [List.filter_cons_of_pos (by simpa using same), if_pos same, List.filter_nil,
      List.getLast?_concat, Option.bind_some]
  · rw [List.filter_cons_of_neg (by simpa using same), if_neg same, List.filter_nil,
      List.append_nil]

theorem get?_enter (mark : Mark) (table : VariableTable) (name : String) :
    (mark.enter table).get? name =
      if mark.key = normalize name then mark.value else table.get? name := by
  obtain ⟨marked, value⟩ := mark
  cases value with
  | some value =>
      simp only [Mark.enter, Mark.key, get?_set, @eq_comm _ (normalize marked)]
  | none =>
      simp only [Mark.enter, Mark.key, get?, remove, OrderedMap.get?_erase,
        @eq_comm _ (normalize marked)]

theorem taken_away_of_none {past : List Mark} {key : String} (gone : valueAfter past key = none)
    {earlier : Nat} {mark : Mark} (found : past[earlier]? = some mark) (own : mark.key = key)
    (given : mark.value.isSome = true) :
    ∃ between removal, earlier < between ∧ between < past.length ∧
      past[between]? = some removal ∧ removal.key = key ∧ removal.value = none := by
  induction past using List.reverseRecOn with
  | nil => simp at found
  | append_singleton past last induction =>
      rw [value_after_concat] at gone
      have within : earlier < (past ++ [last]).length := (List.getElem?_eq_some_iff.1 found).1
      rw [List.length_append, List.length_singleton] at within
      rcases Nat.lt_or_ge earlier past.length with before | behind
      · rw [List.getElem?_append_left before] at found
        by_cases same : last.key = key
        · rw [if_pos same] at gone
          refine ⟨past.length, last, before, by simp, ?_, same, gone⟩
          exact List.getElem?_concat_length
        · rw [if_neg same] at gone
          obtain ⟨between, removal, after, inside, stands, others⟩ := induction gone found
          refine ⟨between, removal, after, by simp; omega, ?_, others⟩
          rw [List.getElem?_append_left inside, stands]
      · -- the mark is the last one, which takes the name away
        obtain rfl : earlier = past.length := by omega
        rw [List.getElem?_concat_length] at found
        obtain rfl : last = mark := Option.some.inj found
        rw [if_pos own] at gone
        rw [gone] at given
        cases given

end Values

section Places

variable {past : List Mark} {mark : Mark} {key : String} {place : Nat}

theorem CameIn.lt_length (came : CameIn past key place) : place < past.length := by
  obtain ⟨mark, found, _⟩ := came.given
  exact (List.getElem?_eq_some_iff.1 found).1

/-- A name stays where it came in until it is taken away. -/
theorem CameIn.concat (came : CameIn past key place)
    (kept : mark.key = key → mark.value.isSome = true) : CameIn (past ++ [mark]) key place := by
  have inside := came.lt_length
  constructor
  · rw [List.getElem?_append_left inside]
    exact came.given
  · intro later other behind found own
    rcases Nat.lt_or_ge later past.length with before | last
    · rw [List.getElem?_append_left before] at found
      exact came.stays later other behind found own
    · rw [List.getElem?_append_right last] at found
      obtain rfl : mark = other := by
        rw [List.getElem?_singleton] at found
        split at found
        · exact Option.some.inj found
        · cases found
      exact kept own
  · intro earlier other before found own given
    rw [List.getElem?_append_left (Nat.lt_trans before inside)] at found
    obtain ⟨between, removal, after, within, stands, others⟩ :=
      came.fresh earlier other before found own given
    refine ⟨between, removal, after, within, ?_, others⟩
    rw [List.getElem?_append_left (Nat.lt_trans within inside), stands]

/-- A name that has no value comes in where it is given one. -/
theorem came_in_last (given : mark.value.isSome = true) (gone : valueAfter past mark.key = none) :
    CameIn (past ++ [mark]) mark.key past.length := by
  constructor
  · exact ⟨mark, List.getElem?_concat_length, rfl, given⟩
  · intro later other behind found
    have within := (List.getElem?_eq_some_iff.1 found).1
    rw [List.length_append, List.length_singleton] at within
    omega
  · intro earlier other before found own present
    rw [List.getElem?_append_left before] at found
    obtain ⟨between, removal, after, inside, stands, others⟩ :=
      taken_away_of_none gone found own present
    refine ⟨between, removal, after, inside, ?_, others⟩
    rw [List.getElem?_append_left inside, stands]

end Places

section Steps

variable {past : List Mark} {table : VariableTable}

theorem names_set (table : VariableTable) (name value : String) :
    (table.set name value).names =
      if normalize name ∈ table.names then table.names else table.names ++ [normalize name] := by
  by_cases present : normalize name ∈ table.names
  · rw [if_pos present]
    exact OrderedMap.keys_insert_of_mem present value
  · rw [if_neg present]
    change (OrderedMap.insertEntry (normalize name) value table.entries).map Prod.fst = _
    rw [OrderedMap.insert_entry_of_not_mem present, List.map_append]
    rfl

theorem names_remove (table : VariableTable) (name : String) :
    (table.remove name).names = table.names.filter (· != normalize name) := by
  change (table.entries.filter fun entry => entry.1 != normalize name).map Prod.fst = _
  rw [names, List.filter_map]
  simp only [Function.comp_def]

theorem contains_iff_mem_names (table : VariableTable) (name : String) :
    table.contains name = true ↔ normalize name ∈ table.names :=
  OrderedMap.contains_iff

theorem get?_eq_none_of_not_mem {name : String} (absent : normalize name ∉ table.names) :
    table.get? name = none :=
  OrderedMap.lookup_eq_none absent

structure Tracks (past : List Mark) (table : VariableTable) : Prop where
  value : ∀ name, table.get? name = valueAfter past (normalize name)
  order : ∃ place : String → Nat, (∀ key ∈ table.names, CameIn past key (place key)) ∧
    table.names.Pairwise fun key other => place key < place other

theorem tracks_empty : Tracks [] empty :=
  ⟨fun _ => rfl, fun _ => 0, List.forall_mem_nil _, .nil⟩

theorem Tracks.enter (tracks : Tracks past table) (mark : Mark) :
    Tracks (past ++ [mark]) (mark.enter table) := by
  refine ⟨fun name => ?_, ?_⟩
  · rw [get?_enter, value_after_concat, tracks.value]
  · obtain ⟨place, came, ordered⟩ := tracks.order
    obtain ⟨name, value⟩ := mark
    cases value with
    | none =>
        simp only [Mark.enter, names_remove]
        refine ⟨place, fun key member => ?_, ordered.filter _⟩
        obtain ⟨present, other⟩ := List.mem_filter.1 member
        refine (came key present).concat fun same => ?_
        rw [← same] at other
        simp [Mark.key] at other
    | some value =>
        simp only [Mark.enter, names_set]
        by_cases present : normalize name ∈ table.names
        · rw [if_pos present]
          exact ⟨place, fun key member => (came key member).concat fun _ => rfl, ordered⟩
        · -- the name is new, and comes in behind all others
          rw [if_neg present]
          have gone : valueAfter past (normalize name) = none := by
            rw [← normalize_normalize, ← tracks.value]
            apply get?_eq_none_of_not_mem
            rwa [normalize_normalize]
          have apart : ∀ key ∈ table.names, key ≠ normalize name := by
            rintro key member rfl
            exact present member
          refine ⟨Function.update place (normalize name) past.length, ?_, ?_⟩
          · intro key member
            rcases List.mem_append.1 member with member | member
            · rw [Function.update_of_ne (apart key member)]
              exact (came key member).concat fun _ => rfl
            · obtain rfl := List.mem_singleton.1 member
              rw [Function.update_self]
              exact @came_in_last past ⟨name, some value⟩ rfl gone
          · refine List.pairwise_append.2 ⟨?_, List.pairwise_singleton _ _, ?_⟩
            · refine ordered.imp_of_mem fun {key other} first second before => ?_
              rwa [Function.update_of_ne (apart key first),
                Function.update_of_ne (apart other second)]
            · intro key member other last
              obtain rfl := List.mem_singleton.1 last
              rw [Function.update_of_ne (apart key member), Function.update_self]
              exact (came key member).lt_length

end Steps

section Histories

theorem tracks_foldl (past marks : List Mark) {table : VariableTable} (tracks : Tracks past table) :
    Tracks (past ++ marks) (marks.foldl (fun table mark => mark.enter table) table) := by
  induction marks generalizing past table with
  | nil => rwa [List.append_nil]
  | cons mark rest induction =>
      rw [List.foldl_cons, List.append_cons]
      exact induction (past ++ [mark]) (tracks.enter mark)

theorem made_foldl (marks : List Mark) {table : VariableTable} (made : Made table) :
    Made (marks.foldl (fun table mark => mark.enter table) table) := by
  induction marks generalizing table with
  | nil => exact made
  | cons mark rest induction => exact induction (made_enter made mark)

theorem normal_of_normalize {key : String} (normal : normalize key = key) :
    Text.trim key = key ∧ Text.lower key = key := by
  have trimmed : Text.trim (normalize key) = normalize key := by
    rw [normalize, Text.trim, Text.trim_chars_of_trimmed (Text.trimmed_lower_trim key),
      String.ofList_toList]
  have lowered : Text.lower (normalize key) = normalize key := Text.lower_lower _
  rw [normal] at trimmed lowered
  exact ⟨trimmed, lowered⟩

theorem is_map_of_tracks {past : List Mark} {table : VariableTable} (made : Made table)
    (tracks : Tracks past table) : IsMapOf past table := by
  have valid := made.valid
  have named := table.contains_iff_mem_names
  have held : {key | normalize key = key ∧ (table.get? key).isSome} =
      {key | key ∈ table.names} := by
    ext key
    constructor
    · rintro ⟨normal, found⟩
      have member := (named key).1 found
      rwa [normal] at member
    · intro member
      have normal := valid.normal key member
      refine ⟨normal, (named key).2 ?_⟩
      rwa [normal]
  constructor
  · exact valid.distinct
  · exact fun key member => normal_of_normalize (valid.normal key member)
  · exact tracks.value
  · intro entry member
    rw [get?, valid.normal entry.1 (List.mem_map_of_mem member)]
    exact OrderedMap.get?_of_mem valid.distinct member
  · exact fun name => rfl
  · exact named
  · rw [held, ← List.coe_toFinset, Set.ncard_coe_finset]
    exact ((List.toFinset_card_of_nodup valid.distinct).trans (List.length_map _)).symm
  · constructor
    · intro empty name
      apply get?_eq_none_of_not_mem
      have nothing : table.entries = [] := List.isEmpty_iff.1 empty
      rw [names, nothing]
      exact List.not_mem_nil
    · intro missing
      refine List.isEmpty_iff.2 (List.eq_nil_iff_forall_not_mem.2 fun entry member => ?_)
      have listed : entry.1 ∈ table.names := List.mem_map_of_mem member
      rw [← valid.normal _ listed, ← named] at listed
      have found : (table.get? entry.1).isSome = true := listed
      rw [missing entry.1] at found
      cases found
  · exact tracks.order

end Histories

section Sparing

variable {keys : List String} {before middle after : VariableTable}

theorem Spares.trans (first : Spares keys before middle) (second : Spares keys middle after) :
    Spares keys before after :=
  ⟨fun name other => (second.value name other).trans (first.value name other),
    second.order.trans first.order⟩

theorem spares_enter {mark : Mark} (own : mark.key ∈ keys) (table : VariableTable) :
    Spares keys table (mark.enter table) := by
  constructor
  · intro name other
    rw [get?_enter, if_neg]
    intro same
    exact other (same ▸ own)
  · obtain ⟨name, value⟩ := mark
    cases value with
    | some value =>
        let keep : String → Bool := fun key => key ∉ keys
        have taken : keep (normalize name) = false := decide_eq_false fun apart => apart own
        exact OrderedMap.filter_insert_entry taken value table.entries
    | none =>
        simp only [Mark.enter, remove, OrderedMap.erase, entries, List.filter_filter]
        refine List.filter_congr fun entry _ => ?_
        by_cases held : entry.1 ∈ keys
        · simp [held]
        · have apart : entry.1 ≠ normalize name := by
            intro same
            exact held (same ▸ own)
          simp [held, apart]

theorem spares_foldl {marks : List Mark} (own : ∀ mark ∈ marks, mark.key ∈ keys)
    (table : VariableTable) :
    Spares keys table (marks.foldl (fun table mark => mark.enter table) table) := by
  induction marks generalizing table with
  | nil => exact ⟨fun _ _ => rfl, rfl⟩
  | cons mark rest induction =>
      obtain ⟨first, others⟩ := List.forall_mem_cons.1 own
      exact (spares_enter first table).trans (induction others (mark.enter table))

end Sparing

/-- After any edits a table is the map that they make, and each further edit spares the names that
it does not say anything of. -/
theorem table_is_map_of_edits (edits : List Edit) :
    IsMapOf (edits.flatMap Edit.marks) (edited edits) ∧
      ∀ edit : Edit, edited (edits ++ [edit]) = edit.apply (edited edits) ∧
        Spares (edit.marks.map Mark.key) (edited edits) (edit.apply (edited edits)) := by
  refine ⟨?_, fun edit => ⟨?_, ?_⟩⟩
  · rw [edited_eq]
    apply is_map_of_tracks
    · exact made_foldl _ .empty
    · have tracks := tracks_foldl [] (edits.flatMap Edit.marks) tracks_empty
      rwa [List.nil_append] at tracks
  · rw [edited, List.foldl_append]
    rfl
  · rw [edit_apply_eq]
    exact spares_foldl (fun mark member => List.mem_map_of_mem member) _

/-- A name that is set again keeps its place, and one that was taken away comes back at the end. -/
example :
    (edited [.set "B" "1", .set " a " "2", .remove "b", .extend [("A", "3"), ("B", "4")]]).entries =
      [("a", "3"), ("b", "4")] := by
  decide +kernel

end VariableTable

end RepoRules
