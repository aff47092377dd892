import RepoRules.Digest.Hex
import RepoRules.Text.Ascii

/-!
Which digits stand for which bytes. Apart from the case of its letters, no text but the one that
encoding writes is decoded to some bytes.
-/

namespace RepoRules

namespace Hex

theorem hex_value_to_lower : ∀ {character : Char}, character.toNat < 128 →
    Text.hexValue? character.toLower = Text.hexValue? character :=
  @Text.of_ascii _ (by decide)

theorem digit_of_hex_value : ∀ {character : Char}, character.toNat < 128 →
    ∀ value ∈ Text.hexValue? character, character.toLower = digit value :=
  @Text.of_ascii _ (by decide)

theorem digit_ascii : ∀ value < 16, (digit value).toNat < 128 := by decide

theorem hex_value_lt {character : Char} {value : Nat}
    (found : Text.hexValue? character = some value) : value < 16 := by
  unfold Text.hexValue? Text.digitValue? at found
  exact of_decide_eq_true (Option.mem_filter_iff.1 found).2

theorem hex_value_eq_some_iff {character : Char} {value : Nat} :
    Text.hexValue? character = some value ↔ value < 16 ∧ character.toLower = digit value := by
  by_cases ascii : character.toNat < 128
  · constructor
    · intro found
      exact ⟨hex_value_lt found, digit_of_hex_value ascii value found⟩
    · rintro ⟨small, same⟩
      rw [← hex_value_to_lower ascii, same, hexValue?_digit value small]
  · -- no other character is a digit, and none of them changes in lower case
    have none : Text.hexValue? character = none := by
      unfold Text.hexValue? Text.digitValue? Text.anyDigitValue?
      rw [if_neg (by omega), if_neg (by omega), if_neg (by omega), Option.filter_none]
    constructor
    · intro found
      rw [none] at found
      cases found
    · rintro ⟨small, same⟩
      have bound := digit_ascii value small
      rw [← same, Text.to_lower_of_other ascii] at bound
      exact absurd bound ascii

theorem decode_byte_eq_some_iff {high low : Char} {byte : UInt8} :
    decodeByte? high low = some byte ↔
      [high.toLower, low.toLower] = encodeByte byte := by
  have small := byte.toNat_lt
  simp only [encodeByte, List.cons.injEq, and_true]
  constructor
  · intro decoded
    simp only [decodeByte?, Option.bind_eq_bind, Option.bind_eq_some_iff, Option.pure_def,
      Option.some.injEq] at decoded
    obtain ⟨first, highest, second, lowest, rfl⟩ := decoded
    obtain ⟨bound, higher⟩ := hex_value_eq_some_iff.1 highest
    obtain ⟨limit, lower⟩ := hex_value_eq_some_iff.1 lowest
    have value : (UInt8.ofNat (16 * first + second)).toNat = 16 * first + second := by
      rw [UInt8.toNat_ofNat']
      exact Nat.mod_eq_of_lt (by omega)
    rw [value, higher, lower]
    constructor
    · congr 1
      omega
    · congr 1
      omega
  · rintro ⟨higher, lower⟩
    have highest := hex_value_eq_some_iff.2 ⟨(by omega : byte.toNat / 16 < 16), higher⟩
    have lowest := hex_value_eq_some_iff.2 ⟨(by omega : byte.toNat % 16 < 16), lower⟩
    simp only [decodeByte?, highest, lowest, Option.bind_eq_bind, Option.bind_some, Option.pure_def]
    rw [Nat.div_add_mod, UInt8.ofNat_toNat]

theorem decode_chars_eq_some_iff {characters : List Char} {bytes : Bytes} :
    decodeChars? characters = some bytes ↔ characters.map Char.toLower = encodeChars bytes := by
  fun_induction decodeChars? characters generalizing bytes with
  | case1 =>
      cases bytes with
      | nil => simp [encodeChars]
      | cons byte rest => simp [encodeChars, encodeByte]
  | case2 character =>
      cases bytes with
      | nil => simp [encodeChars]
      | cons byte rest => simp [encodeChars, encodeByte]
  | case3 high low rest induction =>
      cases bytes with
      | nil => simp [encodeChars, Option.bind_eq_some_iff]
      | cons byte others =>
          have parts : (do
                let byte ← decodeByte? high low
                return byte :: (← decodeChars? rest) : Option Bytes) = some (byte :: others) ↔
              decodeByte? high low = some byte ∧ decodeChars? rest = some others := by
            simp [Option.bind_eq_some_iff]
          rw [parts, decode_byte_eq_some_iff, induction]
          simp [encodeChars, encodeByte, and_assoc]

theorem decode_eq_some_iff {text : String} {bytes : Bytes} :
    decode? text = some bytes ↔ Text.asciiLower text = encode bytes := by
  rw [decode?, Text.asciiLower, encode, String.ofList_inj, decode_chars_eq_some_iff]

theorem decode_eq_none_iff {text : String} :
    decode? text = none ↔ ∀ bytes, Text.asciiLower text ≠ encode bytes := by
  simp only [Option.eq_none_iff_forall_ne_some, ne_eq, decode_eq_some_iff]

theorem digit_of_mem_encode {bytes : Bytes} {character : Char}
    (found : character ∈ (encode bytes).toList) : ∃ value < 16, digit value = character := by
  rw [encode, String.toList_ofList, encodeChars, List.mem_flatMap] at found
  obtain ⟨byte, _, found⟩ := found
  have small := byte.toNat_lt
  simp only [encodeByte, List.mem_cons, List.not_mem_nil, or_false] at found
  rcases found with rfl | rfl
  · exact ⟨_, by omega, rfl⟩
  · exact ⟨_, by omega, rfl⟩

end Hex

end RepoRules
