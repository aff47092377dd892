import RepoRules.Digest.Hex

/-!
Base64: four characters for three bytes. The last group is filled up with equals signs, and the bits
that it does not need must be zero.
-/

namespace RepoRules.Base64

def value? (character : Char) : Option Nat :=
  let code := character.toNat
  if 65 ≤ code ∧ code ≤ 90 then some (code - 65)
  else if 97 ≤ code ∧ code ≤ 122 then some (code - 71)
  else if 48 ≤ code ∧ code ≤ 57 then some (code + 4)
  else if character = '+' then some 62
  else if character = '/' then some 63
  else none

def decode? : List Char → Option Bytes
  | [] => some []
  | [a, b, '=', '='] => do
      let value := 64 * (← value? a) + (← value? b)
      if value % 16 = 0 then some [UInt8.ofNat (value / 16)] else none
  | [a, b, c, '='] => do
      let value := 4096 * (← value? a) + 64 * (← value? b) + (← value? c)
      if value % 4 = 0 then some [UInt8.ofNat (value / 1024), UInt8.ofNat (value / 4)] else none
  | a :: b :: c :: d :: rest => do
      let value := 262144 * (← value? a) + 4096 * (← value? b) + 64 * (← value? c) + (← value? d)
      let bytes := [UInt8.ofNat (value / 65536), UInt8.ofNat (value / 256), UInt8.ofNat value]
      return bytes ++ (← decode? rest)
  | _ => none

end RepoRules.Base64
