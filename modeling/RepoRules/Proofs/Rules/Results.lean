import Mathlib.Data.List.Forall2

/-!
Computations that may refuse: what is known of one that gave a value, and for which reasons one may
refuse.
-/

namespace RepoRules

section Results

variable {ε α β : Type}

theorem bind_eq_ok {first : Except ε α} {next : α → Except ε β} {value : β}
    (taken : first >>= next = .ok value) : ∃ found, first = .ok found ∧ next found = .ok value := by
  cases first with
  | error error => cases taken
  | ok found => exact ⟨found, rfl, taken⟩

theorem map_error_eq_ok {refused : Type} {result : Except ε α} {change : ε → refused} {value : α}
    (taken : result.mapError change = .ok value) : result = .ok value := by
  cases result with
  | error error => cases taken
  | ok found =>
      cases taken
      rfl

theorem map_eq_ok {result : Except ε α} {change : α → β} {value : β}
    (taken : result.map change = .ok value) :
    ∃ found, result = .ok found ∧ change found = value := by
  cases result with
  | error error => cases taken
  | ok found =>
      cases taken
      exact ⟨found, rfl, rfl⟩

theorem to_option_eq_some {result : Except ε α} {value : α}
    (taken : result.toOption = some value) : result = .ok value := by
  cases result with
  | error error => cases taken
  | ok found =>
      cases taken
      rfl

/-- What holds at the start of a fold and is kept by its steps holds at the end. -/
theorem holds_of_foldlM {step : β → α → Except ε β} (holds : β → Prop)
    {items : List α} (keeps : ∀ before, ∀ item ∈ items, ∀ after, holds before →
      step before item = .ok after → holds after)
    {start last : β} (begins : holds start)
    (folded : items.foldlM step start = .ok last) : holds last := by
  induction items generalizing start with
  | nil =>
      cases folded
      exact begins
  | cons item rest induction =>
      rw [List.foldlM_cons] at folded
      obtain ⟨middle, first, others⟩ := bind_eq_ok folded
      refine induction (fun before other member => ?_)
        (keeps start item List.mem_cons_self middle begins first) others
      exact keeps before other (List.mem_cons_of_mem _ member)

theorem forall₂_of_mapM {read : α → Except ε β} {items : List α} {values : List β}
    (taken : items.mapM read = .ok values) :
    List.Forall₂ (fun item value => read item = .ok value) items values := by
  induction items generalizing values with
  | nil =>
      cases taken
      exact .nil
  | cons item rest induction =>
      rw [List.mapM_cons] at taken
      obtain ⟨value, first, taken⟩ := bind_eq_ok taken
      obtain ⟨others, behind, taken⟩ := bind_eq_ok taken
      cases taken
      exact .cons first (induction behind)

theorem mapM_eq_ok_iff {read : α → Except ε β} {items : List α} {values : List β} :
    items.mapM read = .ok values ↔
      List.Forall₂ (fun item value => read item = .ok value) items values := by
  refine ⟨forall₂_of_mapM, fun each => ?_⟩
  induction each with
  | nil => rfl
  | cons first _ induction =>
      rw [List.mapM_cons, first, induction]
      rfl

theorem exists_mapM_eq_ok_iff {read : α → Except ε β} {items : List α} :
    (∃ values, items.mapM read = .ok values) ↔
      ∀ item ∈ items, ∃ value, read item = .ok value := by
  simp only [mapM_eq_ok_iff]
  constructor
  · rintro ⟨values, each⟩
    induction each with
    | nil => exact List.forall_mem_nil _
    | cons first _ induction => exact List.forall_mem_cons.2 ⟨⟨_, first⟩, induction⟩
  · intro each
    induction items with
    | nil => exact ⟨[], .nil⟩
    | cons item rest induction =>
        obtain ⟨⟨value, first⟩, behind⟩ := List.forall_mem_cons.1 each
        obtain ⟨values, others⟩ := induction behind
        exact ⟨value :: values, .cons first others⟩

def RefusesFor (reason : ε → Prop) (result : Except ε α) : Prop :=
  ∀ error, result = .error error → reason error

namespace RefusesFor

variable {reason : ε → Prop}

theorem ok (value : α) : RefusesFor reason (.ok value) :=
  fun _ refused => by cases refused

theorem error {error : ε} (holds : reason error) :
    RefusesFor reason (.error error : Except ε α) :=
  fun _ refused => by cases refused; exact holds

theorem bind {first : Except ε α} {next : α → Except ε β}
    (refuses : RefusesFor reason first)
    (others : ∀ value, first = .ok value → RefusesFor reason (next value)) :
    RefusesFor reason (first >>= next) := by
  cases first with
  | ok value => exact others value rfl
  | error held => exact .error (refuses held rfl)

theorem map {result : Except ε α} (refuses : RefusesFor reason result) (change : α → β) :
    RefusesFor reason (result.map change) := by
  cases result with
  | ok value => exact .ok _
  | error held => exact .error (refuses held rfl)

theorem mapM {read : α → Except ε β} (refuses : ∀ item, RefusesFor reason (read item))
    (items : List α) : RefusesFor reason (items.mapM read) := by
  induction items with
  | nil => exact .ok _
  | cons item rest induction =>
      rw [List.mapM_cons]
      exact (refuses item).bind fun _ _ => induction.bind fun _ _ => .ok _

theorem imp {other : ε → Prop} {result : Except ε α}
    (refuses : RefusesFor reason result) (implies : ∀ error, reason error → other error) :
    RefusesFor other result :=
  fun error refused => implies error (refuses error refused)

end RefusesFor

end Results

end RepoRules
