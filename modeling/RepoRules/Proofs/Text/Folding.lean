import Mathlib.Data.List.Chain
import RepoRules.Proofs.Text.Ascii

/-!
Lower case against folding. A letter and its lower form fold to one character, so that a comparison
without regard to case finds a text that was put in lower case. A few letters are apart: U+0130,
whose lower form has two characters, and letters that lower-casing knows and folding does not know
yet.
-/

namespace RepoRules.Text

/-- What is no code point stands for the first character. -/
theorem to_nat_of_nat (code : Nat) :
    (Char.ofNat code).toNat = code ∨ (Char.ofNat code).toNat = 0 := by
  unfold Char.ofNat
  by_cases valid : code.isValidChar
  · rw [dif_pos valid]
    exact .inl rfl
  · rw [dif_neg valid]
    exact .inr rfl

namespace Shift

variable {shifts : List Shift} {shift : Shift} {code : Nat}

theorem moves_iff : shift.moves code = true ↔
    (shift.first ≤ code ∧ code ≤ shift.last) ∧ (code - shift.first) % shift.stride = 0 := by
  simp only [moves, Bool.and_eq_true, decide_eq_true_eq, beq_iff_eq]

theorem within_of_moves (moves : shift.moves code = true) :
    shift.first ≤ code ∧ code ≤ shift.last :=
  (moves_iff.1 moves).1

theorem target_within_of_moves (moves : shift.moves code = true) :
    shift.target shift.first ≤ shift.target code ∧
      shift.target code ≤ shift.target shift.last := by
  have within := within_of_moves moves
  exact ⟨Int.toNat_le_toNat (Int.add_le_add_right (Int.ofNat_le.2 within.1) _),
    Int.toNat_le_toNat (Int.add_le_add_right (Int.ofNat_le.2 within.2) _)⟩

theorem apply_of_fixed (fixed : ∀ shift ∈ shifts, ¬ shift.moves code = true) :
    apply shifts code = code := by
  unfold apply
  rw [List.find?_eq_none.2 fixed]

def Before (first second : Shift) : Prop :=
  first.last < second.first ∧ second.first ≤ second.last

instance decidableBefore (first second : Shift) : Decidable (Before first second) :=
  inferInstanceAs (Decidable (_ ∧ _))

instance transBefore : Trans Before Before Before :=
  ⟨fun early late => ⟨Nat.lt_trans (Nat.lt_of_lt_of_le early.1 early.2) late.1, late.2⟩⟩

theorem apply_of_moves (ordered : shifts.IsChain Before) (member : shift ∈ shifts)
    (moves : shift.moves code = true) : apply shifts code = shift.target code := by
  have pairwise := List.isChain_iff_pairwise.1 ordered
  clear ordered
  induction pairwise with
  | nil => cases member
  | @cons first rest before _ induction =>
      unfold apply
      rcases List.mem_cons.1 member with rfl | behind
      · rw [List.find?_cons_of_pos (p := fun shift : Shift => shift.moves code) moves]
      · have fixed : ¬ first.moves code = true := by
          intro moved
          have early := (within_of_moves moved).2
          have late := (within_of_moves moves).1
          have apart := (before shift behind).1
          omega
        rw [List.find?_cons_of_neg (p := fun shift : Shift => shift.moves code) fixed]
        exact induction behind

end Shift

section Folding

/-- Letters that have a lower form and do not fold to what it folds to. -/
def unfoldedSpans : List (Nat × Nat) :=
  [(0x130, 0x130), (0xa7ce, 0xa7ce), (0xa7d2, 0xa7d2), (0xa7d4, 0xa7d4), (0x16ea0, 0x16eb8)]

def IsUnfolded (character : Char) : Prop :=
  ∃ span ∈ unfoldedSpans, span.1 ≤ character.toNat ∧ character.toNat ≤ span.2

instance decidableIsUnfolded (character : Char) : Decidable (IsUnfolded character) :=
  inferInstanceAs (Decidable (∃ span ∈ unfoldedSpans, _ ∧ _))

set_option maxRecDepth 4000 in
theorem fold_shifts_ordered : foldShifts.IsChain Shift.Before := by
  decide

/-- Shifts to lower case that folding does not make: Cherokee letters fold the other way round, and
the letters of the rest are young. -/
def otherShifts : List Shift :=
  [⟨5024, 5103, 1, 38864⟩, ⟨5104, 5109, 1, 8⟩, ⟨42956, 42970, 2, 1⟩, ⟨93856, 93880, 1, 27⟩]

set_option maxRecDepth 4000 in
theorem lower_shifts_fold :
    (lowerShifts.filter fun shift => shift ∉ otherShifts).Sublist foldShifts := by
  decide

/-- No lower form folds, that of a Cherokee letter apart. -/
theorem lower_forms_unfolded :
    mask ((lowerShifts.filter fun shift => shift ∉ otherShifts).flatMap fun shift =>
      shift.moved.map shift.target) &&& mask (foldShifts.flatMap Shift.moved) = 0 := by
  decide +kernel

set_option maxRecDepth 4000 in
theorem cherokee_beside_folding : ∀ shift ∈ foldShifts, shift.last < 5024 ∨ 5109 < shift.first := by
  decide

theorem young_letters_fold : ∀ code ∈ [42956, 42960, 42966, 42968, 42970],
    foldCode (code + 1) = foldCode code := by
  decide

set_option maxRecDepth 4000 in
theorem unfolded_beside_folding : ∀ shift ∈ foldShifts, ∀ span ∈ unfoldedSpans,
    (shift.last < span.1 ∨ span.2 < shift.first) ∧
      (shift.target shift.last < span.1 ∨ span.2 < shift.target shift.first) := by
  decide

theorem unfolded_positive : ∀ span ∈ unfoldedSpans, 0 < span.1 := by
  decide

set_option maxRecDepth 4000 in
theorem unfolded_not_settled : ∀ span ∈ unfoldedSpans,
    ∀ code ∈ List.range' span.1 (span.2 - span.1 + 1), ¬ Settled (Char.ofNat code) := by
  decide

/-- A Cherokee letter is what its lower form folds to, and does not fold. -/
theorem fold_cherokee {back : Shift} {lowered code : Nat} (folds : back ∈ foldShifts)
    (moves : back.moves lowered = true) (leads : back.target lowered = code)
    (inside : 5024 ≤ code ∧ code ≤ 5109) : foldCode lowered = foldCode code := by
  have fixed : foldCode code = code := by
    refine Shift.apply_of_fixed fun shift member moved => ?_
    have within := Shift.within_of_moves moved
    have apart := cherokee_beside_folding shift member
    omega
  rw [fixed, foldCode, Shift.apply_of_moves fold_shifts_ordered folds moves, leads]

theorem fold_other_form {shift : Shift} (other : shift ∈ otherShifts) {code : Nat}
    (moves : shift.moves code = true)
    (known : ∀ span ∈ unfoldedSpans, ¬ (span.1 ≤ code ∧ code ≤ span.2)) :
    foldCode (shift.target code) = foldCode code := by
  simp only [otherShifts, List.mem_cons, List.not_mem_nil, or_false] at other
  simp only [unfoldedSpans, List.forall_mem_cons] at known
  rw [Shift.moves_iff] at moves
  rcases other with rfl | rfl | rfl | rfl <;> dsimp only at moves
  · have back : (⟨43888, 43967, 1, -38864⟩ : Shift) ∈ foldShifts := by decide
    refine fold_cherokee back (Shift.moves_iff.2 ?_) ?_ (by omega)
    · simp only [Shift.target, Int.ofNat_eq_natCast]
      omega
    · simp only [Shift.target, Int.ofNat_eq_natCast]
      omega
  · have back : (⟨5112, 5117, 1, -8⟩ : Shift) ∈ foldShifts := by decide
    refine fold_cherokee back (Shift.moves_iff.2 ?_) ?_ (by omega)
    · simp only [Shift.target, Int.ofNat_eq_natCast]
      omega
    · simp only [Shift.target, Int.ofNat_eq_natCast]
      omega
  · refine young_letters_fold code ?_
    simp only [List.mem_cons, List.not_mem_nil, or_false]
    omega
  · omega

/-- What a shift to lower case leads to folds as what it was. -/
theorem fold_lower_form {shift : Shift} (member : shift ∈ lowerShifts) {code : Nat}
    (moves : shift.moves code = true)
    (known : ∀ span ∈ unfoldedSpans, ¬ (span.1 ≤ code ∧ code ≤ span.2)) :
    foldCode (shift.target code) = foldCode code := by
  by_cases other : shift ∈ otherShifts
  · exact fold_other_form other moves known
  · have common : shift ∈ lowerShifts.filter fun shift => shift ∉ otherShifts :=
      List.mem_filter.2 ⟨member, decide_eq_true other⟩
    have folded : foldCode code = shift.target code :=
      Shift.apply_of_moves fold_shifts_ordered (lower_shifts_fold.subset common) moves
    have lower : shift.target code ∈ (lowerShifts.filter fun shift => shift ∉ otherShifts).flatMap
        fun shift => shift.moved.map shift.target :=
      List.mem_flatMap.2 ⟨shift, common, List.mem_map.2 ⟨code, Shift.mem_moved moves, rfl⟩⟩
    rw [folded]
    refine Shift.apply_of_fixed fun other present moved => ?_
    exact not_mem_of_masks lower_forms_unfolded lower
      (List.mem_flatMap.2 ⟨other, present, Shift.mem_moved moved⟩)

/-- The lower form of a character folds as the character does, unless it is one of a few letters. -/
theorem fold_lower_char {character : Char} (known : ¬ IsUnfolded character) :
    (lowerChar character).map foldChar = [foldChar character] := by
  have special : character.toNat ≠ 0x130 := by
    intro special
    exact known ⟨(0x130, 0x130), by decide, by rw [special]; decide⟩
  have outside : ∀ span ∈ unfoldedSpans,
      ¬ (span.1 ≤ character.toNat ∧ character.toNat ≤ span.2) :=
    fun span listed inside => known ⟨span, listed, inside⟩
  rw [lower_char_eq special, List.map_cons, List.map_nil, foldChar, foldChar]
  cases found : lowerShifts.find? fun shift => shift.moves character.toNat with
  | none => rw [Shift.apply, found, Char.ofNat_toNat]
  | some shift =>
      have member := List.mem_of_find?_eq_some found
      have moves := List.find?_some found
      have same := (lower_form_of_moves member moves).1
      rw [Shift.apply, found]
      simp only [same, fold_lower_form member moves outside]

theorem fold_lower_from {characters : List Char}
    (known : ∀ character ∈ characters, ¬ IsUnfolded character) (before : List Char) :
    (lowerFrom before characters).map foldChar = characters.map foldChar := by
  induction characters generalizing before with
  | nil => rfl
  | cons character rest induction =>
      -- both forms of the small sigma fold to one
      have here : (lowerAt before character rest).map foldChar = [foldChar character] := by
        unfold lowerAt
        split
        · rename_i sigma
          subst sigma
          split <;> decide
        · exact fold_lower_char (known character List.mem_cons_self)
      rw [lower_from_cons, List.map_append, here,
        induction fun other member => known other (List.mem_cons_of_mem _ member)]
      rfl

/-- Nothing in lower case folds as one of these letters does. -/
theorem known_of_settled {lowered character : Char} (settled : Settled lowered)
    (same : foldChar lowered = foldChar character) : ¬ IsUnfolded character := by
  rintro ⟨span, listed, inside⟩
  have fixed : foldChar character = character := by
    rw [foldChar, foldCode, Shift.apply_of_fixed, Char.ofNat_toNat]
    intro shift member moved
    have within := Shift.within_of_moves moved
    have apart := (unfolded_beside_folding shift member span listed).1
    omega
  rw [fixed] at same
  cases found : foldShifts.find? fun shift => shift.moves lowered.toNat with
  | none =>
      rw [foldChar, foldCode, Shift.apply, found, Char.ofNat_toNat] at same
      subst same
      refine unfolded_not_settled span listed lowered.toNat ?_ (by rwa [Char.ofNat_toNat])
      rw [List.mem_range'_1]
      omega
  | some shift =>
      rw [foldChar, foldCode, Shift.apply, found] at same
      have apart := (unfolded_beside_folding shift (List.mem_of_find?_eq_some found) span listed).2
      have moves := List.find?_some found
      have within := Shift.target_within_of_moves moves
      have reached := to_nat_of_nat (shift.target lowered.toNat)
      rw [same] at reached
      have positive : 0 < span.1 := unfolded_positive span listed
      omega

end Folding

section Classes

/-- The places that are set in one of the numbers at least, in two, in three and in four. -/
def layers (numbers : List Nat) : Nat × Nat × Nat × Nat :=
  numbers.foldr (fun number (one, two, three, four) =>
    (one ||| number, two ||| one &&& number, three ||| two &&& number, four ||| three &&& number))
    (0, 0, 0, 0)

theorem test_bit_layers (numbers : List Nat) (place : Nat) :
    (1 ≤ numbers.countP (·.testBit place) → (layers numbers).1.testBit place = true) ∧
      (2 ≤ numbers.countP (·.testBit place) → (layers numbers).2.1.testBit place = true) ∧
      (3 ≤ numbers.countP (·.testBit place) → (layers numbers).2.2.1.testBit place = true) ∧
      (4 ≤ numbers.countP (·.testBit place) → (layers numbers).2.2.2.testBit place = true) := by
  induction numbers with
  | nil => simp
  | cons number rest induction =>
      obtain ⟨one, two, three, four⟩ := induction
      simp only [layers, List.foldr_cons, Nat.testBit_or, Nat.testBit_and, Bool.or_eq_true,
        Bool.and_eq_true, List.countP_cons] at one two three four ⊢
      by_cases here : number.testBit place = true
      · simp only [here, if_true, and_true, or_true]
        refine ⟨fun _ => trivial, fun many => ?_, fun many => ?_, fun many => ?_⟩
        · exact .inr (one (by omega))
        · exact .inr (two (by omega))
        · exact .inr (three (by omega))
      · simp only [here, if_false, and_false, or_false, Nat.add_zero, Bool.false_eq_true]
        exact ⟨one, two, three, four⟩

def Shift.targets (shift : Shift) : Nat :=
  mask (shift.moved.map shift.target)

theorem Shift.test_bit_targets {shift : Shift} {code source : Nat}
    (found : shift.source? code = some source) : shift.targets.testBit code = true := by
  rw [source?, Option.ite_none_right_eq_some, Bool.and_eq_true, beq_iff_eq] at found
  obtain ⟨⟨moves, leads⟩, _⟩ := found
  exact (test_bit_mask _ _).2 (List.mem_map.2 ⟨_, mem_moved moves, leads⟩)

theorem Shift.length_sources_le (shifts : List Shift) (code : Nat) :
    (sources shifts code).length ≤ (shifts.map targets).countP (·.testBit code) := by
  rw [sources, List.length_filterMap_eq_countP, List.countP_map]
  refine List.countP_mono_left fun shift _ found => ?_
  obtain ⟨source, found⟩ := Option.isSome_iff_exists.1 found
  exact test_bit_targets found

theorem fold_targets_layers : (layers (foldShifts.map Shift.targets)).2.2.2 = 0 := by
  decide +kernel

/-- Five code points at most are the same up to case, as no four shifts lead to one. -/
theorem length_fold_class (code : Nat) : (foldClass code).length ≤ 5 := by
  have sources : (Shift.sources foldShifts (foldCode code)).length ≤ 3 := by
    by_contra many
    have counted := Shift.length_sources_le foldShifts (foldCode code)
    have met := (test_bit_layers (foldShifts.map Shift.targets) (foldCode code)).2.2.2 (by omega)
    rw [fold_targets_layers, Nat.zero_testBit] at met
    cases met
  have kept := List.length_filter_le (· != code)
    (foldCode code :: Shift.sources foldShifts (foldCode code))
  rw [List.length_cons] at kept
  simp only [foldClass, List.length_cons]
  omega

end Classes

end RepoRules.Text
