import RepoRules.Text.Blank
import RepoRules.Text.Category
import RepoRules.Text.Fold

/-!
Sets of characters as a pattern names them. A set is kept as the list of its ranges in increasing
order, with a gap between any two, so that equal sets are written alike. Surrogates are no
characters and belong to no set.
-/

namespace RepoRules.Pattern

structure CharSet where
  spans : Text.Spans
deriving Repr, DecidableEq

namespace CharSet

def contains (set : CharSet) (code : Nat) : Bool :=
  set.spans.contains code

def ranges (set : CharSet) : List (Nat × Nat) :=
  set.spans.bounds.toList

def withoutSurrogates (range : Nat × Nat) : List (Nat × Nat) :=
  let (first, last) := range
  (if first ≤ 0xd7ff then [(first, min last 0xd7ff)] else []) ++
    (if 0xe000 ≤ last then [(max first 0xe000, last)] else [])

def join (first last : Nat) : List (Nat × Nat) → List (Nat × Nat)
  | [] => [(first, last)]
  | (nextFirst, nextLast) :: rest =>
      if nextFirst ≤ last + 1 then join first (max last nextLast) rest
      else (first, last) :: join nextFirst nextLast rest

/-- The set of the characters in any of the ranges, which may come in any order and overlap. -/
def ofRanges (ranges : List (Nat × Nat)) : CharSet :=
  let sorted := (ranges.flatMap withoutSurrogates).mergeSort fun left right => left.1 ≤ right.1
  match sorted with
  | [] => ⟨⟨#[]⟩⟩
  | (first, last) :: rest => ⟨⟨(join first last rest).toArray⟩⟩

def ofSpans (spans : Text.Spans) : CharSet :=
  ofRanges spans.bounds.toList

def nothing : CharSet := ⟨⟨#[]⟩⟩

def span (first last : Nat) : CharSet :=
  ofRanges [(first, last)]

def single (character : Char) : CharSet :=
  ⟨⟨#[(character.toNat, character.toNat)]⟩⟩

def only? (set : CharSet) : Option Char :=
  match set.ranges with
  | [(first, last)] => if first = last then some (Char.ofNat first) else none
  | _ => none

def highest : Nat := 0x10ffff

/-- What the ranges leave out from `start` on. -/
def gaps (start : Nat) : List (Nat × Nat) → List (Nat × Nat)
  | [] => if start ≤ highest then [(start, highest)] else []
  | (first, last) :: rest =>
      (if start < first then [(start, first - 1)] else []) ++ gaps (last + 1) rest

def any : CharSet := span 0 highest

def complement (set : CharSet) : CharSet :=
  ofRanges (gaps 0 set.ranges)

def union (left right : CharSet) : CharSet :=
  ofRanges (left.ranges ++ right.ranges)

def unions (sets : List CharSet) : CharSet :=
  ofRanges (sets.flatMap ranges)

def common (left right : CharSet) : CharSet :=
  complement (union left.complement right.complement)

def without (left right : CharSet) : CharSet :=
  complement (union left.complement right)

def either (left right : CharSet) : CharSet :=
  union (left.without right) (right.without left)

def complementIf (negated : Bool) (set : CharSet) : CharSet :=
  if negated then set.complement else set

def codes (set : CharSet) : List Nat :=
  set.ranges.flatMap fun (first, last) => List.range' first (last + 1 - first)

def ofCodes (codes : List Nat) : CharSet :=
  ofRanges (codes.map fun code => (code, code))

/-- The characters that differ from another one in case only. -/
def caseful : CharSet :=
  let moved (shift : Text.Shift) :=
    (List.range' shift.first ((shift.last - shift.first) / shift.stride + 1) shift.stride).flatMap
      fun code => [code, shift.target code]
  ofCodes (Text.foldShifts.flatMap moved)

def folded (set : CharSet) : CharSet :=
  union set (ofCodes ((set.common caseful).codes.flatMap Text.foldClass))

def asciiLetters : CharSet := ofRanges [(0x41, 0x5a), (0x61, 0x7a)]

def asciiFolded (set : CharSet) : CharSet :=
  union set (ofCodes ((set.common asciiLetters).codes.map fun code => code ^^^ 0x20))

def isAscii (set : CharSet) : Bool :=
  set.ranges.all fun range => range.2 < 128

def asciiDigit : CharSet := span 0x30 0x39

def asciiBlank : CharSet := ofRanges [(0x9, 0xd), (0x20, 0x20)]

def asciiWord : CharSet := ofRanges [(0x30, 0x39), (0x41, 0x5a), (0x5f, 0x5f), (0x61, 0x7a)]

/-- The classes that a bracket may name between colons. -/
def ofAsciiName? : String → Option CharSet
  | "alnum" => some (ofRanges [(0x30, 0x39), (0x41, 0x5a), (0x61, 0x7a)])
  | "alpha" => some asciiLetters
  | "ascii" => some (span 0 0x7f)
  | "blank" => some (ofRanges [(0x9, 0x9), (0x20, 0x20)])
  | "cntrl" => some (ofRanges [(0, 0x1f), (0x7f, 0x7f)])
  | "digit" => some asciiDigit
  | "graph" => some (span 0x21 0x7e)
  | "lower" => some (span 0x61 0x7a)
  | "print" => some (span 0x20 0x7e)
  | "punct" => some (ofRanges [(0x21, 0x2f), (0x3a, 0x40), (0x5b, 0x60), (0x7b, 0x7e)])
  | "space" => some asciiBlank
  | "upper" => some (span 0x41 0x5a)
  | "word" => some asciiWord
  | "xdigit" => some (ofRanges [(0x30, 0x39), (0x41, 0x46), (0x61, 0x66)])
  | _ => none

end CharSet

end RepoRules.Pattern
