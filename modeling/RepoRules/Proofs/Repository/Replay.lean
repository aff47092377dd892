import RepoRules.Repository.Offline
import RepoRules.Run.Effect

/-!
What writes make of a repository in memory. Every copy of an item takes the writes to its number one
after the other; lists of names are joined and cut down as sets, up to the case of ASCII letters.
-/

namespace RepoRules

namespace Text

theorem containsAsciiCase_iff {texts : List String} {text : String} :
    containsAsciiCase texts text = true ↔ ∃ member ∈ texts, sameAsciiCase member text = true := by
  simp only [containsAsciiCase, List.any_eq_true]

theorem containsAsciiCase_of_same {texts : List String} {text other : String}
    (same : sameAsciiCase text other = true) (contained : containsAsciiCase texts text = true) :
    containsAsciiCase texts other = true := by
  obtain ⟨member, present, alike⟩ := containsAsciiCase_iff.1 contained
  exact containsAsciiCase_iff.2 ⟨member, present, sameAsciiCase_trans alike same⟩

theorem containsAsciiCase_append {texts others : List String} {text : String} :
    containsAsciiCase (texts ++ others) text = true ↔
      containsAsciiCase texts text = true ∨ containsAsciiCase others text = true := by
  simp only [containsAsciiCase, List.any_append, Bool.or_eq_true]

end Text

namespace OfflineStore

open Text

theorem contains_merge (current values : List String) (text : String) :
    containsAsciiCase (merge current values) text = true ↔
      containsAsciiCase current text = true ∨ containsAsciiCase values text = true := by
  induction values generalizing current with
  | nil => simp [merge, containsAsciiCase]
  | cons value rest induction =>
      have head : containsAsciiCase (value :: rest) text = true ↔
          sameAsciiCase value text = true ∨ containsAsciiCase rest text = true := by
        simp [containsAsciiCase]
      rw [merge, List.foldl_cons, ← merge, induction, head]
      split
      · -- a value that is there already adds nothing
        rename_i there
        constructor
        · rintro (first | others)
          · exact .inl first
          · exact .inr (.inr others)
        · rintro (first | same | others)
          · exact .inl first
          · exact .inl (containsAsciiCase_of_same same there)
          · exact .inr others
      · rw [containsAsciiCase_append, or_assoc]
        simp [containsAsciiCase]

theorem contains_subtract (current values : List String) (text : String) :
    containsAsciiCase (subtract current values) text = true ↔
      containsAsciiCase current text = true ∧ ¬ containsAsciiCase values text = true := by
  constructor
  · intro contained
    obtain ⟨held, member, same⟩ := containsAsciiCase_iff.1 contained
    obtain ⟨present, kept⟩ := List.mem_filter.1 member
    refine ⟨containsAsciiCase_iff.2 ⟨held, present, same⟩, fun removed => ?_⟩
    rw [containsAsciiCase_of_same (sameAsciiCase_symm same) removed] at kept
    cases kept
  · rintro ⟨contained, kept⟩
    obtain ⟨held, present, same⟩ := containsAsciiCase_iff.1 contained
    refine containsAsciiCase_iff.2 ⟨held, List.mem_filter.2 ⟨present, ?_⟩, same⟩
    rw [Bool.not_eq_true']
    exact Bool.eq_false_iff.2 fun removed => kept (containsAsciiCase_of_same same removed)

theorem subtract_nil (current : List String) : subtract current [] = current := by
  simp [subtract, containsAsciiCase]

end OfflineStore

def Event.write? : Event → Option Mutation
  | .called (.write mutation) => some mutation
  | .called _ | .fetched _ | .evaluated _ => none

def Event.writes (events : List Event) : List Mutation :=
  events.filterMap Event.write?

theorem Event.mem_writes {events : List Event} {mutation : Mutation} :
    mutation ∈ Event.writes events ↔ .called (.write mutation) ∈ events := by
  rw [writes, List.mem_filterMap]
  constructor
  · rintro ⟨event, present, written⟩
    match event, written with
    | .called (.write other), same =>
        cases same
        exact present
  · exact fun present => ⟨_, present, rfl⟩

theorem Event.writes_append (events others : List Event) :
    Event.writes (events ++ others) = Event.writes events ++ Event.writes others :=
  List.filterMap_append

theorem Event.writes_append_silent {events : List Event} {event : Event}
    (silent : event.write? = none) : Event.writes (events ++ [event]) = Event.writes events := by
  rw [Event.writes_append]
  simp [Event.writes, silent]

theorem Event.writes_of_mutations (mutations : List Mutation) :
    Event.writes (mutations.map fun mutation => .called (.write mutation)) = mutations := by
  rw [writes, List.filterMap_map]
  exact List.filterMap_some

/-- An item after writes; those to other numbers than its own leave it alone. -/
def Item.after (number : Nat) (mutations : List Mutation) (item : Item) : Item :=
  mutations.foldl (fun item mutation =>
    if mutation.number? = some number then mutation.change item else item) item

namespace Item

variable {number : Nat} {mutations : List Mutation}

theorem after_append (others : List Mutation) (item : Item) :
    item.after number (mutations ++ others) = (item.after number mutations).after number others :=
  List.foldl_append

theorem after_cons (mutation : Mutation) (item : Item) :
    item.after number (mutation :: mutations) =
      (if mutation.number? = some number then mutation.change item else item).after number
        mutations := rfl

/-- What no write changes is the same after all of them. -/
theorem view_after {α : Type} (view : Item → α)
    (untouched : ∀ mutation ∈ mutations, ∀ item, view (mutation.change item) = view item)
    (item : Item) : view (item.after number mutations) = view item := by
  induction mutations generalizing item with
  | nil => rfl
  | cons mutation rest induction =>
      have first := untouched mutation List.mem_cons_self
      rw [after_cons, induction fun other member => untouched other (List.mem_cons_of_mem _ member)]
      split
      · exact first item
      · rfl

/-- A list of names that is only ever cut down holds what it held before and no write removed. -/
theorem contains_after_removals (view : Item → List String) (removal : List String → Mutation)
    (numbered : ∀ names, (removal names).number? = some number)
    (injective : Function.Injective removal)
    (removes : ∀ names item,
      view ((removal names).change item) = OfflineStore.subtract (view item) names)
    (others : ∀ mutation ∈ mutations, (∀ names, mutation ≠ removal names) →
      ∀ item, view (mutation.change item) = view item)
    (item : Item) (text : String) :
    Text.containsAsciiCase (view (item.after number mutations)) text = true ↔
      Text.containsAsciiCase (view item) text = true ∧
        ∀ names, removal names ∈ mutations → ¬ Text.containsAsciiCase names text = true := by
  induction mutations generalizing item with
  | nil => simp [after]
  | cons mutation rest induction =>
      have behind := induction fun other member => others other (List.mem_cons_of_mem _ member)
      rw [after_cons, behind]
      by_cases removing : ∃ names, mutation = removal names
      · obtain ⟨names, rfl⟩ := removing
        rw [if_pos (numbered names), removes, OfflineStore.contains_subtract, and_assoc]
        refine and_congr_right fun _ => ?_
        constructor
        · rintro ⟨kept, later⟩ other member
          rcases List.mem_cons.1 member with same | member
          · rwa [injective same]
          · exact later other member
        · intro all
          exact ⟨all names List.mem_cons_self,
            fun other member => all other (List.mem_cons_of_mem _ member)⟩
      · have different : ∀ names, mutation ≠ removal names := fun names same =>
          removing ⟨names, same⟩
        have same : view (if mutation.number? = some number then mutation.change item else item) =
            view item := by
          split
          · exact others mutation List.mem_cons_self different item
          · rfl
        rw [same]
        refine and_congr_right fun _ => forall_congr' fun names => ?_
        rw [List.mem_cons, or_iff_right fun same => different names same.symm]

theorem after_report (report : FlushReport) (item : Item) :
    item.after number (report.mutations number) =
      { item with
        labels := OfflineStore.subtract (OfflineStore.merge item.labels report.labelsAdded)
          report.labelsRemoved
        assignees := OfflineStore.merge item.assignees report.assigneesAdded
        requestedReviewers :=
          OfflineStore.merge item.requestedReviewers report.reviewersAdded } := by
  have batch (names : List String) (write : List String → Mutation)
      (numbered : (write names).number? = some number)
      (idle : ∀ item, (write []).change item = item) (item : Item) :
      item.after number (if names.isEmpty then [] else [write names]) =
        (write names).change item := by
    cases names with
    | nil => exact (idle item).symm
    | cons name rest =>
        simp only [List.isEmpty_cons, Bool.false_eq_true, if_false, after, List.foldl_cons,
          List.foldl_nil, numbered, if_true]
  rw [FlushReport.mutations, after_append, after_append, after_append,
    batch _ (.addLabels number) rfl fun _ => rfl,
    batch _ (.removeLabels number) rfl fun item => by
      rw [Mutation.change, OfflineStore.subtract_nil],
    batch _ (.addAssignees number) rfl fun _ => rfl,
    batch _ (.addReviewers number) rfl fun _ => rfl]
  rfl

end Item

namespace OfflineStore

def replay (store : OfflineStore) (mutations : List Mutation) : OfflineStore :=
  mutations.foldl record store

theorem replay_append (store : OfflineStore) (mutations others : List Mutation) :
    store.replay (mutations ++ others) = (store.replay mutations).replay others :=
  List.foldl_append

theorem files_record (store : OfflineStore) (mutation : Mutation) :
    (store.record mutation).files = store.files := by
  unfold record apply
  cases mutation.number? with
  | none => rfl
  | some number => rfl

theorem log_record (store : OfflineStore) (mutation : Mutation) :
    (store.record mutation).log = store.log ++ [mutation] := by
  unfold record apply
  cases mutation.number? with
  | none => rfl
  | some number => rfl

theorem files_replay (store : OfflineStore) (mutations : List Mutation) :
    (store.replay mutations).files = store.files := by
  induction mutations generalizing store with
  | nil => rfl
  | cons mutation rest induction => exact (induction _).trans (store.files_record mutation)

def copies (store : OfflineStore) (number : Nat) : List Item :=
  (store.pulls.lookup number).toList ++ (store.issues.lookup number).toList

theorem lookup_adjust {α : Type} (number other : Nat) (change : α → α) (table : List (Nat × α)) :
    (adjust other change table).lookup number =
      (table.lookup number).map fun held => if other = number then change held else held := by
  induction table with
  | nil => rfl
  | cons entry rest induction =>
      obtain ⟨key, held⟩ := entry
      have moved : (if key = other then (key, change held) else (key, held)) =
          (key, if other = key then change held else held) := by
        by_cases same : key = other
        · rw [if_pos same, if_pos same.symm]
        · rw [if_neg same, if_neg (Ne.symm same)]
      rw [adjust, List.map_cons, ← adjust, moved, List.lookup_cons, List.lookup_cons]
      cases found : number == key with
      | false => exact induction
      | true => rw [eq_of_beq found, Option.map_some]

theorem lookup_record (store : OfflineStore) (mutation : Mutation) (number : Nat) :
    (store.record mutation).issues.lookup number =
        (store.issues.lookup number).map (Item.after number [mutation]) ∧
      (store.record mutation).pulls.lookup number =
        (store.pulls.lookup number).map (Item.after number [mutation]) := by
  unfold record apply
  cases numbered : mutation.number? with
  | none =>
      have idle : Item.after number [mutation] = id := by
        funext item
        simp [Item.after, numbered]
      simp only [idle, Option.map_id, id_eq, and_self]
  | some other =>
      have change : Item.after number [mutation] =
          fun item => if other = number then mutation.change item else item := by
        funext item
        simp [Item.after, numbered]
      simp only [lookup_adjust, change, and_self]

/-- Every copy of an item takes the writes to its number. -/
theorem lookup_replay (store : OfflineStore) (mutations : List Mutation) (number : Nat) :
    (store.replay mutations).issues.lookup number =
        (store.issues.lookup number).map (Item.after number mutations) ∧
      (store.replay mutations).pulls.lookup number =
        (store.pulls.lookup number).map (Item.after number mutations) := by
  induction mutations generalizing store with
  | nil =>
      have idle : Item.after number [] = id := rfl
      rw [idle, Option.map_id]
      exact ⟨rfl, rfl⟩
  | cons mutation rest induction =>
      obtain ⟨issues, pulls⟩ := store.lookup_record mutation number
      obtain ⟨issuesBehind, pullsBehind⟩ := induction (store.record mutation)
      rw [replay, List.foldl_cons, ← replay, issuesBehind, pullsBehind, issues, pulls,
        Option.map_map, Option.map_map]
      exact ⟨rfl, rfl⟩

theorem copies_replay (store : OfflineStore) (mutations : List Mutation) (number : Nat) :
    (store.replay mutations).copies number =
      (store.copies number).map (Item.after number mutations) := by
  obtain ⟨issues, pulls⟩ := store.lookup_replay mutations number
  rw [copies, copies, issues, pulls, List.map_append, Option.toList_map, Option.toList_map]

end OfflineStore

end RepoRules
