import RepoRules.Digest.Hex

/-!
Percent-encoding: a byte that may not stand for itself is written as a percent sign and two
hexadecimal digits. Which characters are encoded depends on where they stand; characters outside
ASCII are encoded everywhere.
-/

namespace RepoRules.Percent

def upperDigit (value : Nat) : Char :=
  if value < 10 then Char.ofNat (48 + value) else Char.ofNat (55 + value)

def encodeByte (byte : UInt8) : List Char :=
  ['%', upperDigit (byte.toNat / 16), upperDigit (byte.toNat % 16)]

def encodeChar (mustEncode : Char → Bool) (character : Char) : List Char :=
  if 0x7e < character.toNat || mustEncode character then
    (Bytes.ofText (String.singleton character)).flatMap encodeByte
  else [character]

def encode (mustEncode : Char → Bool) (text : List Char) : String :=
  String.ofList (text.flatMap (encodeChar mustEncode))

def isControl (character : Char) : Bool :=
  character.toNat < 0x20

def inPath (character : Char) : Bool :=
  isControl character || " \"#<>?`\x7b\x7d".toList.contains character

/-- What is encoded in a segment that is added to a path, so that it stays one segment. -/
def inSegment (character : Char) : Bool :=
  inPath character || "/%\\".toList.contains character

def inQuery (character : Char) : Bool :=
  isControl character || " \"#<>".toList.contains character

def inFragment (character : Char) : Bool :=
  isControl character || " \"<>`".toList.contains character

def inUser (character : Char) : Bool :=
  inPath character || "/:;=@[\\]^|".toList.contains character

/-- The bytes of a text, with the encoded ones decoded; a percent sign that encodes nothing stands
for itself. -/
def decodeBytes : List Char → Bytes
  | [] => []
  | '%' :: high :: low :: rest =>
      match Hex.decodeByte? high low with
      | some byte => byte :: decodeBytes rest
      | none => 0x25 :: decodeBytes (high :: low :: rest)
  | character :: rest => Bytes.ofText (String.singleton character) ++ decodeBytes rest

end RepoRules.Percent
