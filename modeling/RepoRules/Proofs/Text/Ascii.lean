import RepoRules.Proofs.Text.Case
import RepoRules.Text.Ascii
import RepoRules.Text.Fold

/-!
ASCII characters. On them lower-casing of whole texts, folding and the core library's small letters
are one map; it changes no other character, and no length in bytes.
-/

namespace RepoRules.Text

def IsAscii (characters : List Char) : Prop :=
  ∀ character ∈ characters, character.toNat < 128

instance decidableIsAscii (characters : List Char) : Decidable (IsAscii characters) :=
  List.decidableBAll (fun character : Char => character.toNat < 128) characters

section Characters

variable {character : Char}

theorem utf8_size_to_lower (character : Char) :
    character.toLower.utf8Size = character.utf8Size := by
  by_cases ascii : character.toNat < 128
  · revert character
    exact @of_ascii _ (by decide)
  · rw [to_lower_of_other ascii]

set_option maxRecDepth 4000 in
theorem fold_char_of_ascii (ascii : character.toNat < 128) :
    foldChar character = character.toLower := by
  rw [foldChar, foldCode, Shift.apply_of_ascii rfl (by decide) ascii, Char.ofNat_toNat]

theorem blank_to_lower (character : Char) : isBlank character.toLower = isBlank character := by
  by_cases ascii : character.toNat < 128
  · revert character
    exact @of_ascii _ (by decide)
  · rw [to_lower_of_other ascii]

end Characters

theorem trimmed_of_map_to_lower {characters : List Char}
    (trimmed : Trimmed (characters.map Char.toLower)) : Trimmed characters := by
  refine ⟨fun first found => ?_, fun last found => ?_⟩
  · rw [← blank_to_lower]
    refine trimmed.1 first.toLower ?_
    rw [List.head?_map, Option.mem_def.1 found]
    rfl
  · rw [← blank_to_lower]
    refine trimmed.2 last.toLower ?_
    rw [List.getLast?_map, Option.mem_def.1 found]
    rfl

theorem utf8_byte_size_of_same_case {left right : String}
    (same : sameAsciiCase left right = true) : left.utf8ByteSize = right.utf8ByteSize := by
  have kept (characters : List Char) :
      (String.ofList (characters.map Char.toLower)).utf8ByteSize =
        (String.ofList characters).utf8ByteSize := by
    induction characters with
    | nil => rfl
    | cons character rest induction =>
        rw [List.map_cons, String.ofList_cons, String.ofList_cons, String.utf8ByteSize_append,
          String.utf8ByteSize_append, String.utf8ByteSize_singleton,
          String.utf8ByteSize_singleton, induction, utf8_size_to_lower]
  rw [sameAsciiCase_iff] at same
  have lowered := kept left.toList
  rwa [same, kept, String.ofList_toList, String.ofList_toList, eq_comm] at lowered

theorem fold_of_ascii {characters : List Char} (ascii : IsAscii characters) :
    characters.map foldChar = characters.map Char.toLower :=
  List.map_congr_left fun character member => fold_char_of_ascii (ascii character member)

theorem lower_from_of_ascii {characters : List Char} (ascii : IsAscii characters)
    (before : List Char) : lowerFrom before characters = characters.map Char.toLower := by
  induction characters generalizing before with
  | nil => rfl
  | cons character rest induction =>
      have small := ascii character List.mem_cons_self
      have plain : character ≠ 'Σ' := by
        rintro rfl
        exact absurd small (by decide)
      have special : character.toNat ≠ 0x130 := by omega
      rw [lower_from_cons, lowerAt, if_neg plain, lowerChar, if_neg special, if_pos small,
        induction fun other member => ascii other (List.mem_cons_of_mem _ member)]
      rfl

end RepoRules.Text
