import RepoRules.Digest.Hex
import RepoRules.Text.Digit
import RepoRules.Time.Instant

/-!
The data of keys and certificates: items nested in each other, each with a tag, a length and its
content. Items that matter here are sequences, identifiers and strings of bytes; of the others only
those that are badly formed matter, since no key can be read out of data that hold one.
-/

namespace RepoRules

inductive KeyItem where
  | sequence (items : List KeyItem)
  /-- The arcs of a path in the tree of registered names. -/
  | identifier (arcs : List Nat)
  | data (content : Bytes)
  | other

namespace KeyItem

def groups? : (number : Nat) → Bytes → Option (Nat × Bytes)
  | _, [] => none
  | number, byte :: rest =>
      let number := 128 * number + byte.toNat % 128
      if byte.toNat < 128 then some (number, rest) else groups? number rest

/-- The number of a tag, whether it is one of those that all data share, and whether the content is
made of items. -/
structure Tag where
  number : Nat
  shared : Bool
  nested : Bool

def tag? : Bytes → Option (Tag × Bytes)
  | [] => none
  | first :: rest => do
      let code := first.toNat
      let (number, rest) ← if code % 32 = 31 then groups? 0 rest else some (code % 32, rest)
      return (⟨number, code < 64, code / 32 % 2 == 1⟩, rest)

/-- A length below 128, or how many bytes, at most eight, the length takes, and these. -/
def length? : Bytes → Option (Nat × Bytes)
  | [] => none
  | first :: rest =>
      if first.toNat < 128 then some (first.toNat, rest)
      else
        let count := first.toNat - 128
        if 8 < count || rest.length < count then none
        else some ((rest.take count).foldl (fun value byte => 256 * value + byte.toNat) 0,
          rest.drop count)

def arcs? : (fuel : Nat) → Bytes → Option (List Nat)
  | _, [] => some []
  | 0, _ => none
  | fuel + 1, bytes => do
      let (arc, rest) ← groups? 0 bytes
      return arc :: (← arcs? fuel rest)

/-- The first byte holds two arcs. -/
def identifier? : Bytes → Option KeyItem
  | [] => none
  | first :: rest => do
      let high := min (first.toNat / 40) 2
      return .identifier (high :: (first.toNat - 40 * high) :: (← arcs? rest.length rest))

/-- Bits start with the number of those that are left over in the last byte. -/
def bits? : Bytes → Option KeyItem
  | [] => some (.data [])
  | unused :: content => if 8 * content.length < unused.toNat then none else some (.data content)

/-- Whether a date and a time are written in digits, from the year down to the second. -/
def isMoment (text : List Char) : Bool :=
  if text.length = 14 ∧ text.all Char.isDigit then
    let number (first count : Nat) := Text.digitsValue ((text.drop first).take count)
    let month := number 4 2
    let day := number 6 2
    1 ≤ month && month ≤ 12 && 1 ≤ day && day ≤ Instant.monthLength (number 0 4) month &&
      number 8 2 < 24 && number 10 2 < 60 && number 12 2 < 60
  else false

/-- Two digits of a year from 1950 to 2049, and the rest of the moment. -/
def isShortMoment (text : List Char) : Bool :=
  let century := if Text.digitsValue (text.take 2) < 50 then "20" else "19"
  text.length == 13 && text.getLast? == some 'Z' && isMoment (century.toList ++ text.dropLast)

/-- Fills up the digits behind the full stop, which is put behind the seconds if it is missing. -/
def withFraction (text : List Char) : List Char :=
  let text := if text.contains '.' then text else text.take 14 ++ '.' :: text.drop 14
  text.dropLast ++ List.replicate (25 - text.length) '0' ++ text.drop (text.length - 1)

/-- A moment with a fraction of the second; the year may have a sign. -/
def isLongMoment (text : List Char) : Bool :=
  let text := withFraction text
  let text := if text.head?.any "+-".toList.contains then text.drop 1 else text
  let fraction := (text.drop 15).dropLast
  isMoment (text.take 14) && text[14]? == some '.' && text.getLast? == some 'Z' &&
    !fraction.isEmpty && fraction.all Char.isDigit

def isPrintable (character : Char) : Bool :=
  character.isAlphanum || " '()+,-./:=?".toList.contains character

def characters (content : Bytes) : List Char :=
  content.map fun byte => Char.ofNat byte.toNat

def simple? (number : Nat) (content : Bytes) : Option KeyItem :=
  let accepted (valid : Bool) := if valid then some KeyItem.other else none
  match number with
  | 1 => accepted (content.length == 1)
  | 3 => bits? content
  | 4 => some (.data content)
  | 6 => identifier? content
  | 12 | 20 | 28 | 30 => accepted (Bytes.text? content).isSome
  | 19 => accepted ((characters content).all isPrintable)
  | 23 => accepted (isShortMoment (characters content))
  | 24 => accepted (15 ≤ content.length && content.all (·.toNat < 128) &&
      isLongMoment (characters content))
  | _ => some .other

/-- Reads items up to the end. There must be at least one. -/
def read? : (fuel : Nat) → Bytes → Option (List KeyItem)
  | 0, _ => none
  | fuel + 1, bytes => do
      let (tag, rest) ← tag? bytes
      let (length, rest) ← length? rest
      if rest.length < length then none
      let content := rest.take length
      let item ←
        if !tag.shared then some .other
        else if tag.number = 16 then (read? fuel content).map .sequence
        else if tag.number = 17 then (read? fuel content).map fun _ => .other
        else simple? tag.number content
      match rest.drop length with
      | [] => return [item]
      | others => return item :: (← read? fuel others)

mutual

/-- The first answer that an item gives, looking into sequences. -/
def find? {α : Type} (answer : KeyItem → Option α) : KeyItem → Option α
  | .sequence items => findIn? answer items
  | item => answer item

def findIn? {α : Type} (answer : KeyItem → Option α) : List KeyItem → Option α
  | [] => none
  | item :: rest => (find? answer item).or (findIn? answer rest)

end

end KeyItem

end RepoRules
