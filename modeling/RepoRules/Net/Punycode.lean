import RepoRules.Text.Pieces

/-!
Punycode, which writes any text in ASCII: the ASCII characters first, then the places and code
points of the others as differences in a number system with 36 digits.
-/

namespace RepoRules.Punycode

/-- The weight at which the digit at a place ends a number. -/
def threshold (place bias : Nat) : Nat :=
  if place ≤ bias then 1 else min (place - bias) 26

def adaptLoop : (fuel : Nat) → (delta offset : Nat) → Nat
  | 0, delta, offset => offset + 36 * delta / (delta + 38)
  | fuel + 1, delta, offset =>
      if 455 < delta then adaptLoop fuel (delta / 35) (offset + 36)
      else offset + 36 * delta / (delta + 38)

/-- The bias after a difference has been written. -/
def adapt (delta count : Nat) (first : Bool) : Nat :=
  let delta := if first then delta / 700 else delta / 2
  adaptLoop 64 (delta + delta / count) 0

def digit (value : Nat) : Char :=
  if value < 26 then Char.ofNat (97 + value) else Char.ofNat (22 + value)

def digitValue? (character : Char) : Option Nat :=
  let code := character.toNat
  if 48 ≤ code ∧ code ≤ 57 then some (code - 22)
  else if 97 ≤ code ∧ code ≤ 122 then some (code - 97)
  else if 65 ≤ code ∧ code ≤ 90 then some (code - 65)
  else none

def numberDigits : (fuel : Nat) → (value place bias : Nat) → List Char
  | 0, _, _, _ => []
  | fuel + 1, value, place, bias =>
      let weight := threshold place bias
      if value < weight then [digit value]
      else
        digit (weight + (value - weight) % (36 - weight)) ::
          numberDigits fuel ((value - weight) / (36 - weight)) (place + 36) bias

/-- What remains to be written: the difference so far, the bias, and how many characters are
written. -/
structure Encoding where
  delta : Nat
  bias : Nat
  done : Nat
  output : List Char

/-- Writes the characters with one code point. -/
def encodePoint (point basic : Nat) (label : List Nat) (state : Encoding) : Encoding :=
  label.foldl (fun state code =>
    if code < point then { state with delta := state.delta + 1 }
    else if code = point then
      { delta := 0
        bias := adapt state.delta (state.done + 1) (state.done == basic)
        done := state.done + 1
        output := state.output ++ numberDigits 64 state.delta 36 state.bias }
    else state) state

def encodePoints (basic : Nat) (label : List Nat) : (previous : Nat) → List Nat → Encoding → Encoding
  | _, [], state => state
  | previous, point :: points, state =>
      let state := { state with delta := state.delta + (point - previous) * (state.done + 1) }
      let state := encodePoint point basic label state
      encodePoints basic label (point + 1) points { state with delta := state.delta + 1 }

def encode (label : List Char) : List Char :=
  let basic := label.filter fun character => character.toNat < 128
  let codes := label.map Char.toNat
  let points := ((codes.filter (128 ≤ ·)).mergeSort (· ≤ ·)).eraseDups
  let start := if basic.isEmpty then [] else basic ++ ['-']
  (encodePoints basic.length codes 128 points ⟨0, 72, basic.length, start⟩).output

/-- Reads one difference; gives its value and what follows. Neither it nor a weight may take more
than 32 bits. -/
def readNumber? : (digits : List Char) → (place weight value bias : Nat) → Option (Nat × List Char)
  | [], _, _, _, _ => none
  | character :: rest, place, weight, value, bias => do
      let amount ← digitValue? character
      let value := value + amount * weight
      let limit := threshold place bias
      if 0x100000000 ≤ value ∨ 0x100000000 ≤ weight then none
      else if amount < limit then return (value, rest)
      else readNumber? rest (place + 36) (weight * (36 - limit)) value bias

def insertAt (place : Nat) (character : Char) (characters : List Char) : List Char :=
  characters.take place ++ character :: characters.drop place

def decodeLoop? : (fuel : Nat) → (digits : List Char) → (point position bias : Nat) →
    (output : List Char) → Option (List Char)
  | _, [], _, _, _, output => some output
  | 0, _, _, _, _, _ => none
  | fuel + 1, digits, point, position, bias, output => do
      let (delta, rest) ← readNumber? digits 36 1 0 bias
      let total := position + delta
      let count := output.length + 1
      let code := point + total / count
      let place := total % count
      if h : code.isValidChar then
        decodeLoop? fuel rest code (place + 1) (adapt delta count (position == 0 && point == 128))
          (insertAt place (Char.ofNatAux code h) output)
      else none

/-- The label that some digits stand for. -/
def decode? (text : List Char) : Option (List Char) :=
  let parts := Text.splitChars '-' text
  let basic := (List.intersperse ['-'] parts.dropLast).flatten
  let digits := if parts.length < 2 then text else parts.getLast?.getD []
  if basic.all (·.toNat < 128) then decodeLoop? text.length digits 128 0 72 basic else none

end RepoRules.Punycode
