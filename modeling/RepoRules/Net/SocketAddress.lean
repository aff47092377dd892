import RepoRules.Net.Host
import RepoRules.Text.Digit

/-!
Addresses to listen on: an address of either kind and a port. Nothing may be left out, and names do
not count.
-/

namespace RepoRules

structure SocketAddress where
  host : Host
  zone : Option Nat
  port : Nat
deriving Repr, DecidableEq

namespace SocketAddress

def numberBelow? (bound : Nat) (digits : List Char) : Option Nat :=
  if digits.isEmpty then none else (Text.numberOf? 10 digits).filter (· < bound)

def splitPort? (text : List Char) : Option (List Char × Nat) := do
  let parts := Text.splitChars ':' text
  if parts.length < 2 then none
  let port ← numberBelow? 0x10000 (parts.getLast?.getD [])
  return ((parts.dropLast.intersperse [':']).flatten, port)

/-- An address in brackets, which may name a zone behind a percent sign. -/
def bracketed? (text : List Char) : Option (Host × Option Nat) := do
  match text with
  | '[' :: rest =>
      if rest.getLast? ≠ some ']' then none
      let inner := rest.dropLast
      match Text.splitOnceChars '%' inner with
      | none => return (.long (← Host.longAddress? inner), none)
      | some (address, zone) =>
          return (.long (← Host.longAddress? address), some (← numberBelow? 0x100000000 zone))
  | _ => none

def parse? (text : String) : Option SocketAddress := do
  let (front, port) ← splitPort? text.toList
  match Host.dottedBytes? front with
  | some bytes => return ⟨.short (bytes.foldl (256 * · + ·) 0), none, port⟩
  | none =>
      let (host, zone) ← bracketed? front
      return ⟨host, zone, port⟩

def text (address : SocketAddress) : String :=
  address.host.text ++ ":" ++ toString address.port

/-- Whether the address belongs to the machine itself, so that it can be listened on. -/
def isOwn (address : SocketAddress) : Bool :=
  match address.host with
  | .short number => number == 0 || number / 0x1000000 == 127
  | .long pieces => pieces.take 7 == List.replicate 7 0 && pieces.getLastD 2 ≤ 1
  | .domain _ => false

end SocketAddress

end RepoRules
