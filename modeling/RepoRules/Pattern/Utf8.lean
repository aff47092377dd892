import RepoRules.Pattern.CharSet

/-!
Ranges of characters as sequences of ranges of bytes, in the encoding of one to four bytes. A
character is in the range if its bytes are in the ranges of one of the sequences, one by one.
-/

namespace RepoRules.Pattern

structure ByteRange where
  first : Nat
  last : Nat
deriving Repr, DecidableEq

namespace Utf8

def encode (code : Nat) : List Nat :=
  if code < 0x80 then [code]
  else if code < 0x800 then [0xc0 + code / 64, 0x80 + code % 64]
  else if code < 0x10000 then [0xe0 + code / 4096, 0x80 + code / 64 % 64, 0x80 + code % 64]
  else [0xf0 + code / 262144, 0x80 + code / 4096 % 64, 0x80 + code / 64 % 64, 0x80 + code % 64]

/-- The last characters that are encoded in one, two and three bytes. -/
def lengthLimits : List Nat := [0x7f, 0x7ff, 0xffff]

/-- Where a range has to be cut if blocks of `block` characters share the bytes before the last
ones: behind the first block that is not whole, or in front of the last one. -/
def blockCut? (first last block : Nat) : Option Nat :=
  if first / block = last / block then none
  else if first % block ≠ 0 then some (first / block * block + (block - 1))
  else if last % block ≠ block - 1 then some (last / block * block - 1)
  else none

def cut? (first last : Nat) : Option Nat :=
  match lengthLimits.find? fun limit => first ≤ limit && limit < last with
  | some limit => some limit
  | none =>
      if last < 0x80 then none
      else [64, 4096, 262144].findSome? fun block => blockCut? first last block

def sequences (first last : Nat) : List (List ByteRange) :=
  match cut? first last with
  | none => [List.zipWith ByteRange.mk (encode first) (encode last)]
  | some middle =>
      if _inside : first ≤ middle ∧ middle < last then
        sequences first middle ++ sequences (middle + 1) last
      else []
termination_by last - first

end Utf8

def CharSet.byteSequences (set : CharSet) : List (List ByteRange) :=
  set.ranges.flatMap fun (first, last) => Utf8.sequences first last

end RepoRules.Pattern
