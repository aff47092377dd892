import Mathlib.Data.List.TakeWhile
import RepoRules.Text.Blank
import RepoRules.Text.Lower

/-!
Trimming and lower-casing. Done again, neither changes anything, and lower-casing leaves a trimmed
text trimmed.
-/

namespace RepoRules.Text

section Trimming

variable {characters : List Char}

def Trimmed (characters : List Char) : Prop :=
  (∀ first ∈ characters.head?, isBlank first = false) ∧
    ∀ last ∈ characters.getLast?, isBlank last = false

theorem blank_of_head_drop_while {first : Char}
    (found : first ∈ (characters.dropWhile isBlank).head?) : isBlank first = false := by
  have head := List.head?_dropWhile_not isBlank characters
  rw [Option.mem_def.1 found] at head
  simpa using head

theorem trimmed_trim_chars (characters : List Char) : Trimmed (trimChars characters) := by
  unfold trimChars trimCharsBy
  generalize ends : (characters.dropWhile isBlank).reverse = reversed
  constructor
  · intro first found
    -- what is left of the reversed text ends where all of it does
    obtain ⟨dropped, split⟩ := List.dropWhile_suffix isBlank (l := reversed)
    rw [List.head?_reverse] at found
    have last : first ∈ reversed.getLast? := by
      rw [← split, List.getLast?_append, Option.mem_def.1 found]
      rfl
    rw [← ends, List.getLast?_reverse] at last
    exact blank_of_head_drop_while last
  · intro last found
    rw [List.getLast?_reverse] at found
    exact blank_of_head_drop_while found

theorem drop_while_of_head (clear : ∀ first ∈ characters.head?, isBlank first = false) :
    characters.dropWhile isBlank = characters := by
  cases characters with
  | nil => rfl
  | cons first rest =>
      have kept := clear first rfl
      rw [List.dropWhile_cons_of_neg]
      rw [kept]
      exact Bool.false_ne_true

theorem trim_chars_of_trimmed (trimmed : Trimmed characters) :
    trimChars characters = characters := by
  unfold trimChars trimCharsBy
  rw [drop_while_of_head trimmed.1, drop_while_of_head, List.reverse_reverse]
  intro last found
  rw [List.head?_reverse] at found
  exact trimmed.2 last found

theorem trim_trim (text : String) : trim (trim text) = trim text := by
  unfold trim
  rw [String.toList_ofList, trim_chars_of_trimmed (trimmed_trim_chars _)]

theorem blank_of_drop_while_eq_nil (dropped : characters.dropWhile isBlank = []) :
    ∀ character ∈ characters, isBlank character = true := by
  have split := List.takeWhile_append_dropWhile (p := isBlank) (l := characters)
  have blank := List.all_takeWhile (p := isBlank) (l := characters)
  rw [dropped, List.append_nil] at split
  rw [split] at blank
  exact List.all_eq_true.1 blank

theorem trim_chars_ne_nil {character : Char} (found : character ∈ characters)
    (visible : isBlank character = false) : trimChars characters ≠ [] := by
  intro nothing
  have blank := blank_of_drop_while_eq_nil (List.reverse_eq_nil_iff.1 nothing)
  cases kept : characters.dropWhile isBlank with
  | nil =>
      rw [blank_of_drop_while_eq_nil kept character found] at visible
      cases visible
  | cons first rest =>
      have clear : isBlank first = false := by
        apply blank_of_head_drop_while
        rw [kept]
        rfl
      rw [blank first (by rw [kept]; simp)] at clear
      cases clear

theorem trim_eq_empty_iff (text : String) : trim text = "" ↔ isBlankText text = true := by
  have empty : trim text = "" ↔ trimChars text.toList = [] := by
    rw [trim, String.ofList_eq_empty_iff]
  rw [empty, isBlankText, List.all_eq_true]
  constructor
  · intro nothing character member
    by_contra visible
    exact trim_chars_ne_nil member (Bool.eq_false_iff.2 visible) nothing
  · intro blank
    have dropped : text.toList.dropWhile isBlank = [] := List.dropWhile_eq_nil_iff.2 blank
    rw [trimChars, trimCharsBy, dropped]
    rfl

end Trimming

section Shifts

def Shift.moved (shift : Shift) : List Nat :=
  (List.range ((shift.last - shift.first) / shift.stride + 1)).map fun step =>
    shift.first + step * shift.stride

theorem Shift.mem_moved {shift : Shift} {code : Nat} (moves : shift.moves code = true) :
    code ∈ shift.moved := by
  simp only [Shift.moves, Bool.and_eq_true, decide_eq_true_eq, beq_iff_eq] at moves
  obtain ⟨⟨first, last⟩, stepped⟩ := moves
  refine List.mem_map.2 ⟨(code - shift.first) / shift.stride, List.mem_range.2 ?_, ?_⟩
  · exact Nat.lt_succ_of_le (Nat.div_le_div_right (by omega))
  · rw [Nat.div_mul_cancel (Nat.dvd_of_mod_eq_zero stepped)]
    omega

/-- Maps that move the capital letters of ASCII first and else nothing of ASCII make small letters. -/
theorem Shift.apply_of_ascii {shifts : List Shift} (capitals : shifts.head? = some ⟨65, 90, 1, 32⟩)
    (beyond : ∀ shift ∈ shifts.tail, 128 ≤ shift.first) {code : Nat} (ascii : code < 128) :
    Char.ofNat (apply shifts code) = (Char.ofNat code).toLower := by
  obtain ⟨rest, rfl⟩ := List.head?_eq_some_iff.1 capitals
  have others : rest.find? (fun shift => shift.moves code) = none := by
    refine List.find?_eq_none.2 fun shift member moved => ?_
    have least : 128 ≤ shift.first := beyond shift member
    simp only [moves, Bool.and_eq_true, decide_eq_true_eq] at moved
    omega
  have table : ∀ code < 128,
      Char.ofNat (apply [⟨65, 90, 1, 32⟩] code) = (Char.ofNat code).toLower := by
    decide
  rw [← table code ascii, apply, apply, List.find?_cons, List.find?_cons, others, List.find?_nil]

def mask (places : List Nat) : Nat :=
  places.foldr (fun place bits => 1 <<< place ||| bits) 0

theorem test_bit_mask (places : List Nat) (place : Nat) :
    (mask places).testBit place = true ↔ place ∈ places := by
  induction places with
  | nil => simp [mask]
  | cons other rest induction =>
      change (1 <<< other ||| mask rest).testBit place = true ↔ _
      rw [Nat.testBit_or, Bool.or_eq_true, induction, List.mem_cons, Nat.one_shiftLeft,
        Nat.testBit_two_pow]
      simp [eq_comm]

theorem not_mem_of_masks {places others : List Nat} (apart : mask places &&& mask others = 0)
    {place : Nat} (member : place ∈ places) : place ∉ others := by
  intro shared
  have both : (mask places &&& mask others).testBit place = true := by
    rw [Nat.testBit_and, (test_bit_mask places place).2 member,
      (test_bit_mask others place).2 shared]
    rfl
  rw [apart, Nat.zero_testBit] at both
  cases both

/-- No capital letter is the lower form of another. -/
theorem lower_forms_apart :
    mask (lowerShifts.flatMap fun shift => shift.moved.map shift.target) &&&
      mask (lowerShifts.flatMap Shift.moved) = 0 := by
  decide +kernel

/-- Spans in which no lower form lies: the blank characters, the letter U+0130, which has a lower
form of two characters itself, and the code points that are no characters. -/
def gaps : List (Nat × Nat) :=
  [(9, 13), (0x20, 0x20), (0x85, 0x85), (0xa0, 0xa0), (0x130, 0x130), (0x1680, 0x1680),
    (0x2000, 0x200a), (0x2028, 0x2029), (0x202f, 0x202f), (0x205f, 0x205f), (0x3000, 0x3000),
    (0xd800, 0xdfff)]

set_option maxRecDepth 4000 in
theorem lower_forms_beside_gaps : ∀ shift ∈ lowerShifts, shift.target shift.last < 0x110000 ∧
    ∀ gap ∈ gaps, shift.target shift.last < gap.1 ∨ gap.2 < shift.target shift.first := by
  decide

theorem gap_of_blank {character : Char} (blank : isBlank character = true) :
    ∃ gap ∈ gaps, gap.1 ≤ character.toNat ∧ character.toNat ≤ gap.2 := by
  simp only [isBlank, Bool.or_eq_true, Bool.and_eq_true, decide_eq_true_eq, beq_iff_eq] at blank
  simp only [gaps, List.mem_cons, List.not_mem_nil, or_false, exists_eq_or_imp, exists_eq_left]
  omega

/-- A lower form is a character, is neither blank nor U+0130, and has no lower form of its own. -/
theorem lower_form_of_moves {shift : Shift} (member : shift ∈ lowerShifts) {code : Nat}
    (moves : shift.moves code = true) :
    (Char.ofNat (shift.target code)).toNat = shift.target code ∧
      isBlank (Char.ofNat (shift.target code)) = false ∧ shift.target code ≠ 0x130 ∧
      Shift.apply lowerShifts (shift.target code) = shift.target code := by
  obtain ⟨bounded, beside⟩ := lower_forms_beside_gaps shift member
  have range : shift.first ≤ code ∧ code ≤ shift.last := by
    simp only [Shift.moves, Bool.and_eq_true, decide_eq_true_eq] at moves
    exact moves.1
  have lowest : shift.target shift.first ≤ shift.target code :=
    Int.toNat_le_toNat (Int.add_le_add_right (Int.ofNat_le.2 range.1) _)
  have highest : shift.target code ≤ shift.target shift.last :=
    Int.toNat_le_toNat (Int.add_le_add_right (Int.ofNat_le.2 range.2) _)
  have outside : ∀ gap ∈ gaps, ¬ (gap.1 ≤ shift.target code ∧ shift.target code ≤ gap.2) := by
    intro gap listed inside
    have apart := beside gap listed
    omega
  have valid : (shift.target code).isValidChar := by
    have surrogates := outside (0xd800, 0xdfff) (by decide)
    unfold Nat.isValidChar
    simp only at surrogates
    omega
  have same : (Char.ofNat (shift.target code)).toNat = shift.target code := by
    unfold Char.ofNat
    rw [dif_pos valid]
    rfl
  refine ⟨same, ?_, ?_, ?_⟩
  · refine Bool.eq_false_iff.2 fun blank => ?_
    obtain ⟨gap, listed, inside⟩ := gap_of_blank blank
    rw [same] at inside
    exact outside gap listed inside
  · intro special
    refine outside (0x130, 0x130) (by decide) ?_
    rw [special]
    decide
  · have fixed : ∀ other ∈ lowerShifts, ¬ other.moves (shift.target code) = true := by
      intro other present moved
      have lower : shift.target code ∈
          lowerShifts.flatMap fun shift => shift.moved.map shift.target :=
        List.mem_flatMap.2 ⟨shift, member, List.mem_map.2 ⟨code, Shift.mem_moved moves, rfl⟩⟩
      have capital : shift.target code ∈ lowerShifts.flatMap Shift.moved :=
        List.mem_flatMap.2 ⟨other, present, Shift.mem_moved moved⟩
      exact not_mem_of_masks lower_forms_apart lower capital
    unfold Shift.apply
    rw [List.find?_eq_none.2 fixed]

end Shifts

section Lowering

def Settled (character : Char) : Prop :=
  character ≠ 'Σ' ∧ lowerChar character = [character]

instance decidableSettled (character : Char) : Decidable (Settled character) :=
  inferInstanceAs (Decidable (_ ∧ _))

set_option maxRecDepth 4000 in
theorem lower_ascii {code : Nat} (ascii : code < 128) :
    Char.ofNat (Shift.apply lowerShifts code) = (Char.ofNat code).toLower :=
  Shift.apply_of_ascii rfl (by decide) ascii

theorem lower_of_blank {character : Char} (blank : isBlank character = true) :
    character.toLower = character := by
  unfold Char.toLower
  refine dif_neg fun capital => ?_
  have least : 65 ≤ character.toNat := capital.1
  have most : character.toNat ≤ 90 := capital.2
  simp only [isBlank, Bool.or_eq_true, Bool.and_eq_true, decide_eq_true_eq, beq_iff_eq] at blank
  omega

/-- In lower case every character but two is shifted. -/
theorem lower_char_eq {character : Char} (special : character.toNat ≠ 0x130) :
    lowerChar character = [Char.ofNat (Shift.apply lowerShifts character.toNat)] := by
  unfold lowerChar
  rw [if_neg special]
  split
  · rename_i ascii
    rw [lower_ascii ascii, Char.ofNat_toNat]
  · rfl

/-- A lower form is settled, and blank only if the character is. -/
theorem settled_of_mem_lower_char {character lowered : Char} (capital : character ≠ 'Σ')
    (member : lowered ∈ lowerChar character) :
    Settled lowered ∧ (isBlank character = false → isBlank lowered = false) := by
  by_cases special : character.toNat = 0x130
  · unfold lowerChar at member
    rw [if_pos special] at member
    have forms : Settled lowered ∧ isBlank lowered = false := by
      simp only [List.mem_cons, List.not_mem_nil, or_false] at member
      rcases member with rfl | rfl <;> decide
    exact ⟨forms.1, fun _ => forms.2⟩
  · rw [lower_char_eq special, List.mem_singleton] at member
    subst member
    unfold Shift.apply
    cases found : lowerShifts.find? fun shift => shift.moves character.toNat with
    | none =>
        -- no shift moves the character
        simp only [Char.ofNat_toNat]
        refine ⟨⟨capital, ?_⟩, id⟩
        rw [lower_char_eq special, Shift.apply, found, Char.ofNat_toNat]
    | some shift =>
        have moves := List.find?_some found
        obtain ⟨same, clear, beside, fixed⟩ :=
          lower_form_of_moves (List.mem_of_find?_eq_some found) moves
        refine ⟨⟨?_, ?_⟩, fun _ => clear⟩
        · intro sigma
          rw [← same, sigma] at fixed
          revert fixed
          decide
        · rw [lower_char_eq (by rwa [same]), same, fixed]

def lowerAt (before : List Char) (character : Char) (rest : List Char) : List Char :=
  if character = 'Σ' then
    if meetsCased before && !meetsCased rest then ['ς'] else ['σ']
  else lowerChar character

theorem lower_from_cons (before : List Char) (character : Char) (rest : List Char) :
    lowerFrom before (character :: rest) =
      lowerAt before character rest ++ lowerFrom (character :: before) rest := rfl

theorem settled_of_mem_lower_at {before rest : List Char} {character lowered : Char}
    (member : lowered ∈ lowerAt before character rest) :
    Settled lowered ∧ (isBlank character = false → isBlank lowered = false) := by
  unfold lowerAt at member
  split at member
  · have forms : Settled lowered ∧ isBlank lowered = false := by
      split at member <;> obtain rfl := List.mem_singleton.1 member <;> decide
    exact ⟨forms.1, fun _ => forms.2⟩
  · rename_i capital
    exact settled_of_mem_lower_char capital member

theorem lower_at_ne_nil (before : List Char) (character : Char) (rest : List Char) :
    lowerAt before character rest ≠ [] := by
  unfold lowerAt lowerChar
  split
  · split <;> exact List.cons_ne_nil _ _
  · split
    · exact List.cons_ne_nil _ _
    · split <;> exact List.cons_ne_nil _ _

theorem settled_of_mem_lower_from {before characters : List Char} {lowered : Char}
    (member : lowered ∈ lowerFrom before characters) : Settled lowered := by
  induction characters generalizing before with
  | nil => cases member
  | cons character rest induction =>
      rw [lower_from_cons] at member
      rcases List.mem_append.1 member with here | later
      · exact (settled_of_mem_lower_at here).1
      · exact induction later

theorem lower_from_of_settled {before characters : List Char}
    (settled : ∀ character ∈ characters, Settled character) :
    lowerFrom before characters = characters := by
  induction characters generalizing before with
  | nil => rfl
  | cons character rest induction =>
      obtain ⟨capital, same⟩ := settled character List.mem_cons_self
      rw [lower_from_cons, lowerAt, if_neg capital, same,
        induction fun other member => settled other (List.mem_cons_of_mem _ member)]
      rfl

theorem lower_lower (text : String) : lower (lower text) = lower text := by
  unfold lower
  rw [String.toList_ofList, lower_from_of_settled fun _ => settled_of_mem_lower_from]

theorem last_lower_from {before characters : List Char}
    (clear : ∀ last ∈ characters.getLast?, isBlank last = false) :
    ∀ last ∈ (lowerFrom before characters).getLast?, isBlank last = false := by
  induction characters generalizing before with
  | nil => exact nofun
  | cons character rest induction =>
      intro last found
      rw [lower_from_cons, List.getLast?_append] at found
      cases rest with
      | nil =>
          have member := List.mem_of_getLast? (Option.mem_def.1 found)
          exact (settled_of_mem_lower_at member).2 (clear character rfl)
      | cons next others =>
          refine @induction (character :: before) ?_ last ?_
          · intro last found
            exact clear last (by rwa [List.getLast?_cons_cons])
          · cases behind : (lowerFrom (character :: before) (next :: others)).getLast? with
            | some other =>
                rw [behind] at found
                exact found
            | none =>
                rw [List.getLast?_eq_none_iff, lower_from_cons] at behind
                exact absurd (List.append_eq_nil_iff.1 behind).1 (lower_at_ne_nil _ _ _)

theorem trimmed_lower_from {before characters : List Char} (trimmed : Trimmed characters) :
    Trimmed (lowerFrom before characters) := by
  refine ⟨?_, last_lower_from trimmed.2⟩
  intro first found
  cases characters with
  | nil => cases found
  | cons character rest =>
      rw [lower_from_cons, List.head?_append] at found
      cases here : (lowerAt before character rest).head? with
      | none => exact absurd (List.head?_eq_none_iff.1 here) (lower_at_ne_nil _ _ _)
      | some other =>
          rw [here] at found
          cases found
          exact (settled_of_mem_lower_at (List.mem_of_head? here)).2 (trimmed.1 character rfl)

theorem trimmed_lower_trim (text : String) : Trimmed (lower (trim text)).toList := by
  rw [lower, String.toList_ofList]
  apply trimmed_lower_from
  unfold trim
  rw [String.toList_ofList]
  exact trimmed_trim_chars _

theorem lower_trim_lower_trim (text : String) :
    lower (trim (lower (trim text))) = lower (trim text) := by
  have same : trim (lower (trim text)) = lower (trim text) := by
    rw [trim, trim_chars_of_trimmed (trimmed_lower_trim text), String.ofList_toList]
  rw [same, lower_lower]

end Lowering

end RepoRules.Text
