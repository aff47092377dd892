import RepoRules.Digest.Hex

/-!
SHA-256. A message is padded to blocks of 64 bytes; each block is extended to 64 words, which are
worked one after another into a chain of eight words. The digest is the chain after the last block.
-/

namespace RepoRules.Sha256

structure Chain where
  a : UInt32
  b : UInt32
  c : UInt32
  d : UInt32
  e : UInt32
  f : UInt32
  g : UInt32
  h : UInt32
deriving Repr, DecidableEq

/-- The first 32 fractional bits of the square roots of the first eight primes. -/
def initial : Chain :=
  ⟨0x6a09e667, 0xbb67ae85, 0x3c6ef372, 0xa54ff53a, 0x510e527f, 0x9b05688c, 0x1f83d9ab, 0x5be0cd19⟩

/-- The first 32 fractional bits of the cube roots of the first 64 primes. -/
def roundConstants : List UInt32 :=
  [0x428a2f98, 0x71374491, 0xb5c0fbcf, 0xe9b5dba5, 0x3956c25b, 0x59f111f1, 0x923f82a4, 0xab1c5ed5,
    0xd807aa98, 0x12835b01, 0x243185be, 0x550c7dc3, 0x72be5d74, 0x80deb1fe, 0x9bdc06a7, 0xc19bf174,
    0xe49b69c1, 0xefbe4786, 0x0fc19dc6, 0x240ca1cc, 0x2de92c6f, 0x4a7484aa, 0x5cb0a9dc, 0x76f988da,
    0x983e5152, 0xa831c66d, 0xb00327c8, 0xbf597fc7, 0xc6e00bf3, 0xd5a79147, 0x06ca6351, 0x14292967,
    0x27b70a85, 0x2e1b2138, 0x4d2c6dfc, 0x53380d13, 0x650a7354, 0x766a0abb, 0x81c2c92e, 0x92722c85,
    0xa2bfe8a1, 0xa81a664b, 0xc24b8b70, 0xc76c51a3, 0xd192e819, 0xd6990624, 0xf40e3585, 0x106aa070,
    0x19a4c116, 0x1e376c08, 0x2748774c, 0x34b0bcb5, 0x391c0cb3, 0x4ed8aa4a, 0x5b9cca4f, 0x682e6ff3,
    0x748f82ee, 0x78a5636f, 0x84c87814, 0x8cc70208, 0x90befffa, 0xa4506ceb, 0xbef9a3f7, 0xc67178f2]

def rotate (word : UInt32) (count : UInt32) : UInt32 :=
  (word >>> count) ||| (word <<< (32 - count))

def wordOf (bytes : Bytes) : UInt32 :=
  bytes.foldl (fun word byte => (word <<< 8) ||| byte.toUInt32) 0

def bytesOf (word : UInt32) : Bytes :=
  [(word >>> 24).toUInt8, (word >>> 16).toUInt8, (word >>> 8).toUInt8, word.toUInt8]

def blockWords (block : Bytes) : List UInt32 :=
  (List.range 16).map fun index => wordOf ((block.drop (4 * index)).take 4)

/-- The word that follows some words, the newest of which comes first. -/
def nextWord (newest : List UInt32) : UInt32 :=
  let two := newest.getD 1 0
  let fifteen := newest.getD 14 0
  let high := rotate two 17 ^^^ rotate two 19 ^^^ (two >>> 10)
  let low := rotate fifteen 7 ^^^ rotate fifteen 18 ^^^ (fifteen >>> 3)
  high + newest.getD 6 0 + low + newest.getD 15 0

def extend : (count : Nat) → (newest : List UInt32) → List UInt32
  | 0, newest => newest
  | count + 1, newest => extend count (nextWord newest :: newest)

def schedule (block : Bytes) : List UInt32 :=
  (extend 48 (blockWords block).reverse).reverse

def round (chain : Chain) (step : UInt32 × UInt32) : Chain :=
  let choice := (chain.e &&& chain.f) ^^^ (~~~chain.e &&& chain.g)
  let majority := (chain.a &&& chain.b) ^^^ (chain.a &&& chain.c) ^^^ (chain.b &&& chain.c)
  let upper := rotate chain.e 6 ^^^ rotate chain.e 11 ^^^ rotate chain.e 25
  let lower := rotate chain.a 2 ^^^ rotate chain.a 13 ^^^ rotate chain.a 22
  let first := chain.h + upper + choice + step.1 + step.2
  ⟨first + lower + majority, chain.a, chain.b, chain.c, chain.d + first, chain.e, chain.f, chain.g⟩

def compress (chain : Chain) (block : Bytes) : Chain :=
  let worked := (roundConstants.zip (schedule block)).foldl round chain
  ⟨chain.a + worked.a, chain.b + worked.b, chain.c + worked.c, chain.d + worked.d,
    chain.e + worked.e, chain.f + worked.f, chain.g + worked.g, chain.h + worked.h⟩

def lengthBytes (count : Nat) : Bytes :=
  (List.range 8).map fun index => UInt8.ofNat ((8 * count) / Nat.pow 256 (7 - index))

/-- The message, a one bit, zeros up to a whole number of blocks, and the length. -/
def pad (message : Bytes) : Bytes :=
  message ++ 0x80 :: List.replicate ((119 - message.length % 64) % 64) 0 ++
    lengthBytes message.length

def compressAll : (count : Nat) → Chain → Bytes → Chain
  | 0, chain, _ => chain
  | count + 1, chain, bytes => compressAll count (compress chain (bytes.take 64)) (bytes.drop 64)

def Chain.bytes (chain : Chain) : Bytes :=
  [chain.a, chain.b, chain.c, chain.d, chain.e, chain.f, chain.g, chain.h].flatMap bytesOf

def hash (message : Bytes) : Bytes :=
  let padded := pad message
  (compressAll (padded.length / 64) initial padded).bytes

/-- A key of more than a block is replaced by its digest; a shorter one is filled up with zeros. -/
def blockKey (key : Bytes) : Bytes :=
  let short := if 64 < key.length then hash key else key
  short ++ List.replicate (64 - short.length) 0

/-- The digest of a message under a key: the key goes into an inner digest and into one around it. -/
def hmac (key message : Bytes) : Bytes :=
  let block := blockKey key
  let inner := hash (block.map (· ^^^ 0x36) ++ message)
  hash (block.map (· ^^^ 0x5c) ++ inner)

end RepoRules.Sha256
