import RepoRules.Net.Domain
import RepoRules.Net.Percent
import RepoRules.Text.Digit

/-!
Hosts: names, and addresses of both kinds. The address that a host name writes may leave out parts
and use other bases; in square brackets stands the longer kind.
-/

namespace RepoRules

inductive UrlFault where
  | relative
  | emptyHost
  | badPort
  | badShortAddress
  | badLongAddress
  | badDomain
  | badCharacter
deriving Repr, DecidableEq

def UrlFault.message : UrlFault → String
  | .relative => "relative URL without a base"
  | .emptyHost => "empty host"
  | .badPort => "invalid port number"
  | .badShortAddress => "invalid IPv4 address"
  | .badLongAddress => "invalid IPv6 address"
  | .badDomain => "invalid international domain name"
  | .badCharacter => "invalid domain character"

/-- A name, an address of four bytes, or one of eight pieces of two bytes. -/
inductive Host where
  | domain (name : String)
  | short (address : Nat)
  | long (pieces : List Nat)
deriving Repr, DecidableEq

namespace Host

def addressPart? : List Char → Option Nat
  | [] => none
  | ['0'] => some 0
  | '0' :: 'x' :: digits | '0' :: 'X' :: digits => Text.numberOf? 16 digits
  | '0' :: digits => Text.numberOf? 8 digits
  | digits => Text.numberOf? 10 digits

/-- The last part of a name that is not empty only because of a final full stop. -/
def lastPart (parts : List (List Char)) : List Char :=
  match parts.reverse with
  | [] :: part :: _ => part
  | part :: _ => part
  | [] => []

/-- A name whose last part is a number must be an address. -/
def endsInNumber (parts : List (List Char)) : Bool :=
  let last := lastPart parts
  (!last.isEmpty && last.all Char.isDigit) || (addressPart? last).isSome

/-- The address that the parts write; the last one fills what the others leave. -/
def shortAddress? (parts : List (List Char)) : Option Nat := do
  let parts := if parts.getLast? = some [] then parts.dropLast else parts
  if 4 < parts.length then none
  else
    let numbers ← parts.mapM addressPart?
    let last := numbers.getLast?.getD 0
    let others := numbers.dropLast
    if others.any (255 < ·) || Nat.pow 256 (4 - others.length) ≤ last then none
    else
      let high := others.foldl (fun value number => 256 * value + number) 0
      some (high * Nat.pow 256 (4 - others.length) + last)

def byteOf? (digits : List Char) : Option Nat :=
  if digits.isEmpty || 3 < digits.length || (digits.head? = some '0' && 1 < digits.length) then none
  else (Text.numberOf? 10 digits).filter (· < 256)

def dottedBytes? (text : List Char) : Option (List Nat) :=
  let parts := Text.splitChars '.' text
  if parts.length = 4 then parts.mapM byteOf? else none

def pieceOf? (digits : List Char) : Option Nat :=
  if digits.isEmpty || 4 < digits.length then none else Text.numberOf? 16 digits

/-- Pieces between colons, the last two of which may be four bytes in decimal. -/
def pieces? (text : List Char) : Option (List Nat) :=
  if text.isEmpty then some []
  else
    let parts := Text.splitChars ':' text
    let last := parts.getLast?.getD []
    if last.contains '.' then do
      let pieces ← parts.dropLast.mapM pieceOf?
      match ← dottedBytes? last with
      | [a, b, c, d] => return pieces ++ [256 * a + b, 256 * c + d]
      | _ => none
    else parts.mapM pieceOf?

/-- Splits at the first two colons in a row. -/
def splitGap : List Char → Option (List Char × List Char)
  | [] => none
  | ':' :: ':' :: rest => some ([], rest)
  | character :: rest => (splitGap rest).map fun parts => (character :: parts.1, parts.2)

/-- An address of eight pieces; two colons in a row stand for the zeros that are left out. -/
def longAddress? (text : List Char) : Option (List Nat) :=
  match splitGap text with
  | none => do
      let pieces ← pieces? text
      if pieces.length = 8 then some pieces else none
  | some (front, back) => do
      if front.contains '.' then none
      let front ← pieces? front
      let back ← pieces? back
      let count := front.length + back.length
      if count < 8 then some (front ++ List.replicate (8 - count) 0 ++ back) else none

/-- Splits off the text between square brackets that a host starts and ends with. -/
def bracketed? (text : List Char) : Option (Option (List Char)) :=
  match text with
  | '[' :: rest => some (if rest.getLast? = some ']' then some rest.dropLast else none)
  | _ => none

def ofBrackets (inner : Option (List Char)) : Except UrlFault Host :=
  match inner.bind longAddress? with
  | some pieces => .ok (.long pieces)
  | none => .error .badLongAddress

/-- A host of the schemes that are used on the web. -/
def parse (text : List Char) : Except UrlFault Host :=
  match bracketed? text with
  | some inner => ofBrackets inner
  | none =>
      match Domain.ofBytes? (Percent.decodeBytes text) with
      | none => .error .badDomain
      | some "" => .error .emptyHost
      | some name =>
          let parts := Text.splitChars '.' name.toList
          if endsInNumber parts then
            match shortAddress? parts with
            | some address => .ok (.short address)
            | none => .error .badShortAddress
          else .ok (.domain name)

def isForbidden (character : Char) : Bool :=
  "\x00\t\n\r #/:<>?@[\\]^|".toList.contains character

/-- A host of any other scheme; its name is left as it is. -/
def parseOther (text : List Char) : Except UrlFault Host :=
  match bracketed? text with
  | some inner => ofBrackets inner
  | none =>
      if text.any isForbidden then .error .badCharacter
      else .ok (.domain (Percent.encode Percent.isControl text))

def shortText (address : Nat) : String :=
  let byte (index : Nat) : Nat := address / Nat.pow 256 (3 - index) % 256
  ".".intercalate ((List.range 4).map fun index => toString (byte index))

def pieceText (piece : Nat) : String :=
  String.ofList (Nat.toDigits 16 piece)

/-- The lengths of the runs of zeros that start at each place. -/
def zeroRuns : List Nat → List Nat
  | [] => []
  | piece :: rest =>
      let runs := zeroRuns rest
      (if piece = 0 then runs.headD 0 + 1 else 0) :: runs

/-- The first longest run of two or more zeros is left out. -/
def longText (pieces : List Nat) : String :=
  let runs := zeroRuns pieces
  let longest := runs.foldl max 0
  let texts (part : List Nat) := ":".intercalate (part.map pieceText)
  if longest < 2 then texts pieces
  else
    let place := runs.findIdx (· == longest)
    texts (pieces.take place) ++ "::" ++ texts (pieces.drop (place + longest))

def text : Host → String
  | .domain name => name
  | .short address => shortText address
  | .long pieces => "[" ++ longText pieces ++ "]"

end Host

end RepoRules
