import RepoRules.Decode.Record
import RepoRules.Proofs.Json.Names
import RepoRules.Proofs.Rules.Results

/-!
Records that were read out of JSON. What only one field of a record sets comes from the value that
this field has, in an object under its name and in a list at its place, or is what the record
started with. As it is written, an object can be read in which every field stands once.
-/

namespace RepoRules.Decode

theorem natural_eq_ok {value : Json} {number : Nat} :
    natural value = .ok number ↔ value = .int number := by
  constructor
  · intro taken
    unfold natural at taken
    split at taken
    · next held =>
        split at taken
        · next fits =>
            cases taken
            rw [Int.toNat_of_nonneg fits]
        · cases taken
    · cases taken
  · rintro rfl
    rw [natural, if_pos (Int.natCast_nonneg number), Int.toNat_natCast]

theorem text_eq_ok {value : Json} {held : String} :
    text value = .ok held ↔ value = .string held := by
  constructor
  · intro taken
    unfold text at taken
    split at taken
    · cases taken
      rfl
    · cases taken
  · rintro rfl
    rfl

theorem flag_eq_ok {value : Json} {held : Bool} : flag value = .ok held ↔ value = .bool held := by
  constructor
  · intro taken
    unfold flag at taken
    split at taken
    · cases taken
      rfl
    · cases taken
  · rintro rfl
    rfl

variable {α β : Type}

def Spares (view : α → β) (field : RecordField α) : Prop :=
  ∀ before value after, field.read before value = .ok after → view after = view before

/-- Of all fields only the one at this place sets what the view shows, to what its value gives. -/
def Shows (fields : List (RecordField α)) (place : Nat) (name : String) (view : α → β)
    (takes : Json → β → Prop) : Prop :=
  ∃ field, fields[place]? = some field ∧ field.name = name ∧
    (∀ before value after, field.read before value = .ok after → takes value (view after)) ∧
    ∀ other ∈ fields.eraseIdx place, other.name ≠ name ∧ Spares view other

def held? (place : Nat) (name : String) : Json → Option Json
  | .object entries => entries.lookup name
  | .array items => items[place]?
  | _ => none

/-- A value that comes from what is held, if anything is, and else is the one it started with. -/
inductive Filled (takes : Json → β → Prop) (start : β) : Option Json → β → Prop
  | read {held : Json} {value : β} (taken : takes held value) :
      Filled takes start (some held) value
  | left : Filled takes start none start

section Objects

variable {name : String} {fields : List (RecordField α)} {start last : α}
  {entries : List (String × Json)}

theorem view_of_lookup (ordered : Json.Ordered entries)
    (folded : entries.foldlM (fun record entry => readField fields record entry.1 entry.2) start =
      .ok last)
    {value : Json} (found : entries.lookup name = some value) (view : α → β)
    (others : ∀ other, other ≠ name → ∀ value before after,
      readField fields before other value = .ok after → view after = view before) :
    ∃ before after, readField fields before name value = .ok after ∧ view last = view after := by
  -- decoding keeps the last value of a name, looking it up takes the first
  obtain ⟨early, late, rfl, _⟩ := List.lookup_eq_some_iff.1 found
  obtain ⟨_, apart⟩ := Json.apart_of_ordered ordered
  rw [List.foldlM_append] at folded
  obtain ⟨before, _, folded⟩ := bind_eq_ok folded
  rw [List.foldlM_cons] at folded
  obtain ⟨after, entered, folded⟩ := bind_eq_ok folded
  refine ⟨before, after, entered, ?_⟩
  refine holds_of_foldlM (fun record => view record = view after) ?_ rfl folded
  intro before entry member after same entered
  exact (others entry.1 (apart entry member) entry.2 before after entered).trans same

theorem view_of_missing
    (folded : entries.foldlM (fun record entry => readField fields record entry.1 entry.2) start =
      .ok last)
    (missing : entries.lookup name = none) (view : α → β)
    (others : ∀ other, other ≠ name → ∀ value before after,
      readField fields before other value = .ok after → view after = view before) :
    view last = view start := by
  have absent := List.lookup_eq_none_iff.1 missing
  refine holds_of_foldlM (fun record => view record = view start) ?_ rfl folded
  intro before entry member after same entered
  have differs : entry.1 ≠ name := by
    intro own
    simpa [own] using absent entry member
  exact (others entry.1 differs entry.2 before after entered).trans same

/-- A required field is there. Where no name occurs twice, what only this field sets comes from its
value. -/
theorem record_object_eq_ok {name : String} {fields : List (RecordField α)} {start result : α}
    {entries : List (String × Json)} (ordered : Json.Ordered entries)
    (read : record name fields start (.object entries) = .ok result) {field : RecordField α}
    (known : field ∈ fields) (required : field.presence = .required) (view : α → β)
    (others : ∀ other, other ≠ field.name → ∀ value before after,
      readField fields before other value = .ok after → view after = view before) :
    ∃ value before after, entries.lookup field.name = some value ∧
      readField fields before field.name value = .ok after ∧ view result = view after := by
  obtain ⟨made, folded, checked⟩ := bind_eq_ok read
  dsimp only at checked
  split at checked
  · cases checked
  · next complete =>
      cases checked
      have present := List.find?_eq_none.1 complete field known
      simp only [required, beq_self_eq_true, Bool.true_and, Option.isNone_iff_eq_none] at present
      obtain ⟨value, found⟩ := Option.ne_none_iff_exists'.1 present
      obtain ⟨before, after, entered, same⟩ := view_of_lookup ordered folded found view others
      exact ⟨value, before, after, found, entered, same⟩

theorem others_of_beside {view : α → β}
    (beside : ∀ other ∈ fields, other.name ≠ name → Spares view other) :
    ∀ other, other ≠ name → ∀ value before after,
      readField fields before other value = .ok after → view after = view before := by
  intro other differs value before after entered
  unfold readField at entered
  cases named : fields.find? fun field => field.name == other with
  | none =>
      rw [named] at entered
      cases entered
      rfl
  | some second =>
      rw [named] at entered
      have same : second.name = other := by simpa using List.find?_some named
      exact beside second (List.mem_of_find?_eq_some named) (same ▸ differs) before value after
        entered

end Objects

section Lists

variable {expected : String} {view : α → β}

theorem view_of_spared {position : Nat} {fields : List (RecordField α)} {items : List Json}
    {start last : α} (spared : ∀ field ∈ fields, Spares view field)
    (read : readInOrder expected position fields items start = .ok last) :
    view last = view start := by
  induction fields generalizing position items start with
  | nil =>
      cases read
      rfl
  | cons field fields induction =>
      have rest : ∀ other ∈ fields, Spares view other := fun other member =>
        spared other (List.mem_cons_of_mem _ member)
      cases items with
      | nil =>
          rw [readInOrder] at read
          split at read
          · exact induction rest read
          · cases read
      | cons value values =>
          obtain ⟨middle, first, read⟩ := bind_eq_ok read
          exact (induction rest read).trans (spared field List.mem_cons_self _ _ _ first)

theorem filled_of_order {fields : List (RecordField α)} {place : Nat} {name : String}
    {takes : Json → β → Prop} (shows : Shows fields place name view takes) {position : Nat}
    {items : List Json} {start last : α}
    (read : readInOrder expected position fields items start = .ok last) :
    Filled takes (view start) items[place]? (view last) := by
  obtain ⟨own, found, _, enters, beside⟩ := shows
  induction fields generalizing place position items start with
  | nil => cases found
  | cons field fields induction =>
      cases place with
      | zero =>
          cases found
          have spared : ∀ other ∈ fields, Spares view other := fun other member =>
            (beside other member).2
          cases items with
          | nil =>
              rw [readInOrder] at read
              split at read
              · rw [view_of_spared spared read]
                exact .left
              · cases read
          | cons value values =>
              obtain ⟨middle, first, read⟩ := bind_eq_ok read
              rw [view_of_spared spared read]
              exact .read (enters _ _ _ first)
      | succ place =>
          rw [List.eraseIdx_cons_succ, List.forall_mem_cons] at beside
          have behind : fields[place]? = some own := found
          cases items with
          | nil =>
              rw [readInOrder] at read
              split at read
              · have filled := induction read behind beside.2
                rw [List.getElem?_nil] at filled ⊢
                exact filled
              · cases read
          | cons value values =>
              obtain ⟨middle, first, read⟩ := bind_eq_ok read
              have filled := induction read behind beside.2
              rw [beside.1.2 _ _ _ first] at filled
              exact filled

end Lists

section Written

open Json (Written)

variable {name : String} {fields : List (RecordField α)} {field : RecordField α}
  {start last : α × List String} {entries : List (Option String × Written)}

theorem value_of_ok {read : Json → Except Fault β} {written : Written} {value : Json}
    (held : written.value? = some value) {result : β} (taken : read value = .ok result) :
    valueOf read written = .ok result := by
  rw [valueOf, held]
  exact congrArg (Except.mapError some) taken

def Named (entries : List (Option String × Written)) : Prop :=
  ∀ entry ∈ entries, entry.1.isSome = true

/-- A field that stands in an object once, with this value. -/
structure Stands (entries : List (Option String × Written)) (name : String) (value : Json) :
    Prop where
  once : (entries.map Prod.fst).count (some name) = 1
  value : ∀ written, (some name, written) ∈ entries → written.value? = some value

theorem Stands.exists_entry {value : Json} (stands : Stands entries name value) :
    ∃ written, (some name, written) ∈ entries := by
  have held : some name ∈ entries.map Prod.fst := by
    rw [← List.count_pos_iff, stands.once]
    exact Nat.one_pos
  obtain ⟨⟨_, written⟩, member, rfl⟩ := List.mem_map.1 held
  exact ⟨written, member⟩

theorem view_of_entry {written : Written}
    (folded : entries.foldlM (readEntry fields) start = .ok last)
    (known : fields.find? (fun other => other.name == field.name) = some field)
    (member : (some field.name, written) ∈ entries) {value : Json}
    (found : written.value? = some value) (view : α → β) {held : β}
    (enters : ∀ before after, field.read before value = .ok after → view after = held)
    (beside : ∀ other ∈ fields, other.name ≠ field.name → Spares view other) :
    field.name ∈ last.2 ∧ view last.1 = held := by
  obtain ⟨early, late, rfl⟩ := List.append_of_mem member
  rw [List.foldlM_append] at folded
  obtain ⟨before, _, folded⟩ := bind_eq_ok folded
  rw [List.foldlM_cons] at folded
  obtain ⟨after, entered, folded⟩ := bind_eq_ok folded
  have settled : field.name ∈ after.2 ∧ view after.1 = held := by
    simp only [readEntry, known] at entered
    split at entered
    · cases entered
    · obtain ⟨record, read, entered⟩ := bind_eq_ok entered
      cases entered
      rw [valueOf, found] at read
      exact ⟨List.mem_cons_self, enters _ _ (map_error_eq_ok read)⟩
  refine holds_of_foldlM
    (fun state : α × List String => field.name ∈ state.2 ∧ view state.1 = held) ?_ settled folded
  rintro ⟨record, names⟩ ⟨name, other⟩ _ next ⟨seen, same⟩ read
  cases name with
  | none => cases read
  | some name =>
      simp only [readEntry] at read
      cases own : fields.find? fun field => field.name == name with
      | none =>
          rw [own] at read
          cases read
          exact ⟨seen, same⟩
      | some second =>
          rw [own] at read
          dsimp only at read
          split at read
          · cases read
          · next fresh =>
              obtain ⟨changed, taken, entered⟩ := bind_eq_ok read
              cases entered
              have named : second.name = name := by simpa using List.find?_some own
              have differs : second.name ≠ field.name := by
                rintro again
                rw [← named, again] at fresh
                exact fresh (List.contains_iff_mem.2 seen)
              unfold valueOf at taken
              split at taken
              · next value _ =>
                  have spared := beside second (List.mem_of_find?_eq_some own) differs
                  exact ⟨List.mem_cons_of_mem _ seen,
                    (spared _ _ _ (map_error_eq_ok taken)).trans same⟩
              · cases taken

/-- Entries can be read if every name is a text, and no field comes twice or has a value that cannot
be read. -/
theorem exists_entries (named : Named entries)
    (once : ∀ field ∈ fields, field.name ∈ start.2 → some field.name ∉ entries.map Prod.fst)
    (apart : ∀ field ∈ fields, (entries.map Prod.fst).count (some field.name) ≤ 1)
    (reads : ∀ field ∈ fields, ∀ written, (some field.name, written) ∈ entries →
      ∀ before, ∃ after, valueOf (field.read before) written = .ok after) :
    ∃ last, entries.foldlM (readEntry fields) start = .ok last := by
  induction entries generalizing start with
  | nil => exact ⟨start, rfl⟩
  | cons entry rest induction =>
      obtain ⟨name, written⟩ := entry
      obtain ⟨text, others⟩ := List.forall_mem_cons.1 named
      obtain ⟨name, rfl⟩ := Option.isSome_iff_exists.1 text
      have fewer : ∀ field ∈ fields, (rest.map Prod.fst).count (some field.name) ≤ 1 :=
        fun field member => List.count_le_count_cons.trans (apart field member)
      have behind : ∀ field ∈ fields, ∀ written, (some field.name, written) ∈ rest →
          ∀ before, ∃ after, valueOf (field.read before) written = .ok after :=
        fun field member written held => reads field member written (List.mem_cons_of_mem _ held)
      rw [List.foldlM_cons]
      cases known : fields.find? fun field => field.name == name with
      | none =>
          have passed : readEntry fields start (some name, written) = .ok start := by
            simp only [readEntry, known]
          rw [passed]
          exact induction others (fun field member seen held =>
            once field member seen (List.mem_cons_of_mem _ held)) fewer behind
      | some field =>
          have member := List.mem_of_find?_eq_some known
          obtain rfl : field.name = name := by simpa using List.find?_some known
          have fresh : field.name ∉ start.2 := fun seen => once field member seen List.mem_cons_self
          obtain ⟨after, read⟩ := reads field member written List.mem_cons_self start.1
          have entered : readEntry fields start (some field.name, written) =
              .ok (after, field.name :: start.2) := by
            simp only [readEntry, known, List.contains_iff_mem, if_neg fresh, read]
            rfl
          rw [entered]
          refine induction others ?_ fewer behind
          intro other known seen held
          rcases List.mem_cons.1 seen with same | seen
          · have twice := apart other known
            rw [same, List.map_cons, List.count_cons_self] at twice
            have := List.count_pos_iff.2 (same ▸ held)
            omega
          · exact once other known seen (List.mem_cons_of_mem _ held)

/-- An object can be read in which every field stands once, with a value that can be read, and all
names are texts. -/
theorem exists_record_of (title : String) (start : α)
    (named : Named entries)
    (shown : ∀ field ∈ fields, ∃ value, Stands entries field.name value ∧
      ∀ before, ∃ after, field.read before value = .ok after) :
    ∃ result, recordOf title fields start (.object entries) = .ok result := by
  obtain ⟨⟨result, names⟩, folded⟩ : ∃ last,
      entries.foldlM (readEntry fields) (start, []) = .ok last := by
    refine exists_entries named (fun _ _ seen => absurd seen List.not_mem_nil) ?_ ?_
    · intro field member
      obtain ⟨_, stands, _⟩ := shown field member
      exact stands.once.le
    · intro field member written held before
      obtain ⟨value, stands, reads⟩ := shown field member
      obtain ⟨after, read⟩ := reads before
      exact ⟨after, value_of_ok (stands.value written held) read⟩
  have complete : fields.find? (fun field =>
      field.presence == .required && !names.contains field.name) = none := by
    refine List.find?_eq_none.2 fun field member => ?_
    obtain ⟨first, known⟩ : ∃ first,
        fields.find? (fun other => other.name == field.name) = some first :=
      Option.isSome_iff_exists.1 (List.find?_isSome.2 ⟨field, member, beq_self_eq_true _⟩)
    obtain ⟨value, stands, _⟩ := shown first (List.mem_of_find?_eq_some known)
    obtain ⟨written, held⟩ := stands.exists_entry
    have same : first.name = field.name := by simpa using List.find?_some known
    rw [← same] at known
    have seen := (view_of_entry folded known held (stands.value written held) (fun _ => ())
      (fun _ _ _ => rfl) fun _ _ _ _ _ _ _ => rfl).1
    rw [same] at seen
    simp [seen]
  refine ⟨result, ?_⟩
  simp only [recordOf, folded, bind, Except.bind, complete]
  rfl

theorem view_of_stands {title : String} {start result : α}
    (read : recordOf title fields start (.object entries) = .ok result)
    (known : fields.find? (fun other => other.name == field.name) = some field) {value : Json}
    (stands : Stands entries field.name value) (view : α → β) {held : β}
    (enters : ∀ before after, field.read before value = .ok after → view after = held)
    (beside : ∀ other ∈ fields, other.name ≠ field.name → Spares view other) :
    view result = held := by
  obtain ⟨⟨made, names⟩, folded, checked⟩ := bind_eq_ok read
  obtain ⟨written, member⟩ := stands.exists_entry
  have same := (view_of_entry folded known member (stands.value written member) view enters
    beside).2
  dsimp only at checked
  split at checked
  · cases checked
  · cases checked
    exact same

end Written

theorem mem_erase_of_ne {fields : List (RecordField α)} {place : Nat}
    {field other : RecordField α} (found : fields[place]? = some field) (member : other ∈ fields)
    (differs : other.name ≠ field.name) : other ∈ fields.eraseIdx place := by
  rw [List.mem_eraseIdx_iff_getElem?]
  obtain ⟨index, again⟩ := List.mem_iff_getElem?.1 member
  refine ⟨index, ?_, again⟩
  rintro rfl
  exact differs (congrArg RecordField.name (Option.some.inj (again.symm.trans found)))

theorem find_of_shows {fields : List (RecordField α)} {place : Nat} {field : RecordField α}
    (found : fields[place]? = some field)
    (beside : ∀ other ∈ fields.eraseIdx place, other.name ≠ field.name) :
    fields.find? (fun other => other.name == field.name) = some field := by
  induction fields generalizing place with
  | nil => cases found
  | cons first fields induction =>
      cases place with
      | zero =>
          cases found
          simp
      | succ place =>
          rw [List.eraseIdx_cons_succ, List.forall_mem_cons] at beside
          rw [List.find?_cons_of_neg (by simpa using beside.1)]
          exact induction found beside.2

theorem filled_of_record {title : String} {fields : List (RecordField α)} {place : Nat}
    {name : String} {view : α → β} {takes : Json → β → Prop}
    (shows : Shows fields place name view takes) {start result : α} {value : Json}
    (sorted : value.Sorted) (read : record title fields start value = .ok result) :
    Filled takes (view start) (held? place name value) (view result) := by
  cases value with
  | object entries =>
      obtain ⟨field, found, rfl, enters, beside⟩ := shows
      have others := others_of_beside fun other member differs =>
        (beside other (mem_erase_of_ne found member differs)).2
      obtain ⟨made, folded, checked⟩ := bind_eq_ok read
      dsimp only at checked
      split at checked
      · cases checked
      · cases checked
        rw [held?]
        cases filled : entries.lookup field.name with
        | none =>
            rw [view_of_missing folded filled view others]
            exact .left
        | some held =>
            obtain ⟨before, after, entered, same⟩ :=
              view_of_lookup sorted.ordered folded filled view others
            have first := find_of_shows found fun other member => (beside other member).1
            rw [readField, first] at entered
            rw [same]
            exact .read (enters _ _ _ entered)
  | array items =>
      obtain ⟨made, ordered, checked⟩ := bind_eq_ok read
      have same : made = result := by
        dsimp only at checked
        split at checked
        · cases checked
        · cases checked
          rfl
      exact same ▸ filled_of_order shows ordered
  | _ => cases read

end RepoRules.Decode
