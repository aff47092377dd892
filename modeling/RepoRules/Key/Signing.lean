import RepoRules.Digest.Hex

/-!
Keys that sign: a modulus with its two prime factors, an exponent to check a signature with, and
exponents to make it with, one for each factor. The numbers of a key are read from items of data
and have to fit together before the key is used.
-/

namespace RepoRules

inductive SigningFault where
  | invalidEncoding
  | unsupportedVersion
  | tooSmall
  | tooLarge
  | invalidComponent
  | inconsistent
  | oddFactorLength
  | unexpected
  /-- The key is well formed, but what it signs does not check. -/
  | failed
deriving Repr, DecidableEq

namespace SigningFault

def message : SigningFault → String
  | .invalidEncoding => "RSA key invalid: InvalidEncoding"
  | .unsupportedVersion => "RSA key invalid: VersionNotSupported"
  | .tooSmall => "RSA key invalid: TooSmall"
  | .tooLarge => "RSA key invalid: TooLarge"
  | .invalidComponent => "RSA key invalid: InvalidComponent"
  | .inconsistent => "RSA key invalid: InconsistentComponents"
  | .oddFactorLength => "RSA key invalid: PrivateModulusLenNotMultipleOf512Bits"
  | .unexpected => "RSA key invalid: UnexpectedError"
  | .failed => "RsaFailedSigning"

end SigningFault

/-- The numbers of a key, each as its bytes. -/
structure SigningKey where
  modulus : Bytes
  publicExponent : Bytes
  privateExponent : Bytes
  firstFactor : Bytes
  secondFactor : Bytes
  firstExponent : Bytes
  secondExponent : Bytes
  /-- The inverse of the second factor, counted modulo the first. -/
  coefficient : Bytes
deriving Repr, DecidableEq

namespace SigningKey

def length? : Bytes → Option (Nat × Bytes)
  | 0x81 :: byte :: rest => if byte.toNat < 128 then none else some (byte.toNat, rest)
  | 0x82 :: high :: low :: rest =>
      let length := 256 * high.toNat + low.toNat
      if length < 256 then none else some (length, rest)
  | byte :: rest => if byte.toNat < 128 then some (byte.toNat, rest) else none
  | [] => none

def content? (tag : UInt8) : Bytes → Option (Bytes × Bytes)
  | [] => none
  | first :: rest => do
      let (length, rest) ← length? rest
      if first ≠ tag || rest.length < length then none
      return (rest.take length, rest.drop length)

/-- The bytes of a number that is not negative, in its shortest form. -/
def natural? (bytes : Bytes) : Option (Bytes × Bytes) := do
  let (content, rest) ← content? 2 bytes
  match content with
  | [] => none
  | [0] => return ([0], rest)
  | 0 :: second :: more => if second.toNat < 128 then none else return (second :: more, rest)
  | first :: more => if first.toNat < 128 then return (first :: more, rest) else none

def naturals? : (count : Nat) → Bytes → Option (List Bytes × Bytes)
  | 0, bytes => some ([], bytes)
  | count + 1, bytes => do
      let (number, rest) ← natural? bytes
      let (numbers, rest) ← naturals? count rest
      return (number :: numbers, rest)

def value (bytes : Bytes) : Nat :=
  bytes.foldl (fun value byte => 256 * value + byte.toNat) 0

def bitLength (number : Nat) : Nat :=
  if number = 0 then 0 else number.log2 + 1

def wordLength (bytes : Bytes) : Nat :=
  (bytes.length + 7) / 8

/-- A number that can be counted modulo: odd, of four to 128 words, and above 2. -/
def modulusOf (bytes : Bytes) : Except SigningFault Nat :=
  if bytes.head?.getD 0 = 0 then .error .invalidEncoding
  else if 128 < wordLength bytes then .error .tooLarge
  else if wordLength bytes < 4 then .error .unexpected
  else if value bytes % 2 = 0 then .error .invalidComponent
  else .ok (value bytes)

def checkModulus (bytes : Bytes) : Except SigningFault Nat := do
  let modulus ← modulusOf bytes
  let bits := bitLength modulus
  if (bits + 7) / 8 * 8 < 2048 then throw .tooSmall
  if 4096 < bits then throw .tooLarge
  return modulus

def checkPublicExponent (bytes : Bytes) : Except SigningFault Nat := do
  let exponent := value bytes
  if 5 < bytes.length then throw .tooLarge
  if bytes.head?.getD 0 = 0 then throw .invalidEncoding
  if exponent < 65537 then throw .tooSmall
  if 0x1ffffffff < exponent then throw .tooLarge
  if exponent % 2 = 0 then throw .invalidComponent
  return exponent

/-- Both factors are half as long as the modulus. -/
def checkFactor (modulus : Nat) (bytes : Bytes) : Except SigningFault Nat := do
  let factor ← modulusOf bytes
  if bitLength factor ≠ (bitLength modulus + 1) / 2 then throw .inconsistent
  if bitLength factor % 512 ≠ 0 then throw .oddFactorLength
  return factor

def checkPrivateExponent (modulus : Nat) (bytes : Bytes) : Except SigningFault Unit := do
  let exponent ← (modulusOf bytes).mapError fun _ => .invalidComponent
  if bitLength exponent ≤ (bitLength modulus + 1) / 2 || modulus ≤ exponent then
    throw .inconsistent

def checkExponent (factor : Nat) (bytes : Bytes) : Except SigningFault Unit :=
  if value bytes % 2 = 0 || factor ≤ value bytes then .error .inconsistent else .ok ()

/-- A power, counted modulo a number, by the bits of the exponent. -/
def powerModulo (modulus base : Nat) : (bits exponent : Nat) → Nat
  | 0, _ => 1 % modulus
  | bits + 1, exponent =>
      let half := powerModulo modulus base bits (exponent / 2)
      let square := half * half % modulus
      if exponent % 2 = 0 then square else square * base % modulus

def power (modulus base exponent : Nat) : Nat :=
  powerModulo modulus base (bitLength exponent) exponent

/-- Signs a number, factor by factor. -/
def sign (key : SigningKey) (number : Nat) : Nat :=
  let first := value key.firstFactor
  let second := value key.secondFactor
  let left := power first number (value key.firstExponent)
  let right := power second number (value key.secondExponent)
  let difference := (left + first - right % first) * value key.coefficient % first
  right + difference * second

def sample : Nat := 3

/-- Checks the numbers of a key one by one, then against each other, and last by signing. -/
def check (key : SigningKey) : Except SigningFault Unit := do
  let modulus ← checkModulus key.modulus
  let exponent ← checkPublicExponent key.publicExponent
  let first ← checkFactor modulus key.firstFactor
  let second ← checkFactor modulus key.secondFactor
  if first * second ≠ modulus then throw .inconsistent
  checkPrivateExponent modulus key.privateExponent
  if first ≤ value key.coefficient then throw .invalidComponent
  if value key.coefficient * second % first ≠ 1 then throw .inconsistent
  checkExponent first key.firstExponent
  checkExponent second key.secondExponent
  if power modulus (key.sign sample) exponent ≠ sample then throw .failed

/-- Reads the numbers of a key and checks them. Nothing may follow them in their sequence, nor the
sequence in the data; what is wrong with the numbers is said first. -/
def checkData (data : Bytes) : Except SigningFault Unit := do
  let encoded {α : Type} (read : Option α) : Except SigningFault α :=
    match read with
    | some result => .ok result
    | none => .error .invalidEncoding
  let (body, behind) ← encoded (content? 0x30 data)
  let (version, rest) ← encoded (natural? body)
  if version.length ≠ 1 then throw .invalidEncoding
  if version ≠ [0] then throw .unsupportedVersion
  match ← encoded (naturals? 8 rest) with
  | ([modulus, publicExponent, privateExponent, firstFactor, secondFactor, firstExponent,
      secondExponent, coefficient], rest) =>
      (SigningKey.mk modulus publicExponent privateExponent firstFactor secondFactor firstExponent
        secondExponent coefficient).check
      if !rest.isEmpty || !behind.isEmpty then throw .invalidEncoding
  | _ => throw .invalidEncoding

end SigningKey

end RepoRules
