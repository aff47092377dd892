import RepoRules.Text.Digit

/-!
Bytes as text: as pairs of hexadecimal digits, and as UTF-8. Decoding takes digits of both cases
and gives back what encoding wrote.
-/

namespace RepoRules

abbrev Bytes := List UInt8

namespace Bytes

def ofText (text : String) : Bytes :=
  text.toUTF8.toList

def text? (bytes : Bytes) : Option String :=
  String.fromUTF8? ⟨bytes.toArray⟩

end Bytes

namespace Hex

def digit (value : Nat) : Char :=
  if value < 10 then Char.ofNat (48 + value) else Char.ofNat (87 + value)

def encodeByte (byte : UInt8) : List Char :=
  [digit (byte.toNat / 16), digit (byte.toNat % 16)]

def encodeChars (bytes : Bytes) : List Char :=
  bytes.flatMap encodeByte

def encode (bytes : Bytes) : String :=
  String.ofList (encodeChars bytes)

def decodeByte? (high low : Char) : Option UInt8 := do
  return UInt8.ofNat (16 * (← Text.hexValue? high) + (← Text.hexValue? low))

def decodeChars? : List Char → Option Bytes
  | [] => some []
  | [_] => none
  | high :: low :: rest => do
      let byte ← decodeByte? high low
      return byte :: (← decodeChars? rest)

/-- The bytes that the digits stand for; an odd digit or another character stands for none. -/
def decode? (text : String) : Option Bytes :=
  decodeChars? text.toList

theorem hexValue?_digit : ∀ value, value < 16 → Text.hexValue? (digit value) = some value := by
  decide

theorem decodeByte?_encodeByte (byte : UInt8) :
    decodeByte? (digit (byte.toNat / 16)) (digit (byte.toNat % 16)) = some byte := by
  have small := byte.toNat_lt
  simp only [decodeByte?, hexValue?_digit (byte.toNat / 16) (by omega),
    hexValue?_digit (byte.toNat % 16) (by omega), Option.bind_eq_bind, Option.bind_some,
    Option.pure_def, Option.some.injEq]
  rw [Nat.div_add_mod]
  exact UInt8.ofNat_toNat

theorem decodeChars?_encodeChars (bytes : Bytes) :
    decodeChars? (encodeChars bytes) = some bytes := by
  induction bytes with
  | nil => rfl
  | cons byte bytes ih =>
      simp only [encodeChars] at ih
      simp [encodeChars, encodeByte, decodeChars?, decodeByte?_encodeByte, ih]

theorem decode?_encode (bytes : Bytes) : decode? (encode bytes) = some bytes := by
  simp [decode?, encode, decodeChars?_encodeChars]

end Hex

end RepoRules
