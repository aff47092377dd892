import RepoRules.Net.Percent
import RepoRules.Proofs.Digest.Hex

/-!
Percent-encoding is read back. Whatever else is encoded, if percent signs are, the bytes that a
written text stands for are those of the text; and what is written holds no character that is to be
encoded, apart from the percent sign.
-/

namespace RepoRules

namespace Bytes

theorem to_list_loop (bytes : ByteArray) (index : Nat) (done : Bytes) :
    ByteArray.toList.loop bytes index done = done.reverse ++ bytes.data.toList.drop index := by
  fun_induction ByteArray.toList.loop bytes index done with
  | case1 index done inside induction =>
      have bound : index < bytes.data.toList.length := by simpa using inside
      have byte : bytes.get! index = bytes.data.toList[index] := by
        simp [ByteArray.get!, inside]
      rw [induction, List.drop_eq_getElem_cons bound, List.reverse_cons, List.append_assoc, byte]
      rfl
  | case2 index done outside =>
      rw [List.drop_eq_nil_of_le (by simpa using Nat.le_of_not_lt outside), List.append_nil]

theorem of_text_eq (text : String) : ofText text = text.toByteArray.data.toList := by
  change ByteArray.toList.loop text.toByteArray 0 [] = _
  rw [to_list_loop]
  rfl

theorem of_text_append (front back : String) :
    ofText (front ++ back) = ofText front ++ ofText back := by
  rw [of_text_eq, of_text_eq, of_text_eq, String.toByteArray_append, ByteArray.data_append,
    Array.toList_append]

theorem of_text_inj {text other : String} : ofText text = ofText other ↔ text = other := by
  rw [of_text_eq, of_text_eq, Array.toList_inj]
  constructor
  · intro same
    exact String.toByteArray_inj.1 (ByteArray.ext same)
  · rintro rfl
    rfl

end Bytes

namespace Percent

theorem upper_digit : ∀ value < 16, (upperDigit value).toLower = Hex.digit value ∧
    (upperDigit value).isAlphanum = true := by
  decide

theorem decode_encode_byte (byte : UInt8) (rest : List Char) :
    decodeBytes (encodeByte byte ++ rest) = byte :: decodeBytes rest := by
  have small := byte.toNat_lt
  have decoded : Hex.decodeByte? (upperDigit (byte.toNat / 16)) (upperDigit (byte.toNat % 16)) =
      some byte := by
    rw [Hex.decode_byte_eq_some_iff, (upper_digit _ (by omega)).1, (upper_digit _ (by omega)).1,
      Hex.encodeByte]
  rw [encodeByte, List.cons_append, List.cons_append, List.singleton_append, decodeBytes, decoded]

theorem decode_encode_bytes (bytes : Bytes) (rest : List Char) :
    decodeBytes (bytes.flatMap encodeByte ++ rest) = bytes ++ decodeBytes rest := by
  induction bytes with
  | nil => rfl
  | cons byte others induction =>
      rw [List.flatMap_cons, List.append_assoc, decode_encode_byte, induction, List.cons_append]

theorem decode_cons {character : Char} (plain : character ≠ '%') (rest : List Char) :
    decodeBytes (character :: rest) =
      Bytes.ofText (String.singleton character) ++ decodeBytes rest := by
  rw [decodeBytes]
  exact fun _ _ _ percent => absurd percent plain

variable {mustEncode : Char → Bool} (percent : mustEncode '%' = true)

include percent

theorem decode_encode_char (character : Char) (rest : List Char) :
    decodeBytes (encodeChar mustEncode character ++ rest) =
      Bytes.ofText (String.singleton character) ++ decodeBytes rest := by
  unfold encodeChar
  split
  · exact decode_encode_bytes _ rest
  · next kept =>
      refine decode_cons ?_ rest
      rintro rfl
      exact kept (by rw [percent, Bool.or_true])

/-- What is written stands for the bytes of the text. -/
theorem decode_encode (characters : List Char) :
    decodeBytes (encode mustEncode characters).toList = Bytes.ofText (String.ofList characters) := by
  rw [encode, String.toList_ofList]
  induction characters with
  | nil =>
      rw [List.flatMap_nil, decodeBytes, Bytes.of_text_eq]
      rfl
  | cons character rest induction =>
      rw [List.flatMap_cons, decode_encode_char percent, induction, String.ofList_cons,
        Bytes.of_text_append]

omit percent

/-- A character that is written is a percent sign or a digit of an encoded byte, or one that need
not be encoded. -/
theorem written_of_mem_encode {characters : List Char} {written : Char}
    (member : written ∈ (encode mustEncode characters).toList) :
    written = '%' ∨ written.isAlphanum = true ∨ mustEncode written = false := by
  rw [encode, String.toList_ofList, List.mem_flatMap] at member
  obtain ⟨character, _, member⟩ := member
  unfold encodeChar at member
  split at member
  · obtain ⟨byte, _, member⟩ := List.mem_flatMap.1 member
    have small := byte.toNat_lt
    simp only [encodeByte, List.mem_cons, List.not_mem_nil, or_false] at member
    rcases member with rfl | rfl | rfl
    · exact .inl rfl
    · exact .inr (.inl (upper_digit _ (by omega)).2)
    · exact .inr (.inl (upper_digit _ (by omega)).2)
  · next kept =>
      obtain rfl := List.mem_singleton.1 member
      rw [Bool.or_eq_true, not_or] at kept
      exact .inr (.inr (Bool.eq_false_iff.2 kept.2))

end Percent

end RepoRules
