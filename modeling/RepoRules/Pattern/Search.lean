import RepoRules.Pattern.Parser
import RepoRules.Pattern.Program
import RepoRules.Pattern.Size

/-!
Searches a text for a pattern. Threads of the program run side by side through the text, in order
of preference; a thread that accepts cuts off those behind it. So the match found is the leftmost,
and among those that start there the one that the pattern's order of alternatives prefers.
-/

namespace RepoRules

/-- A pattern that has been read: its program, where it starts, and the number of its groups, the
whole match counted as one. -/
structure Pattern where
  code : Pattern.Code
  start : Nat
  groupCount : Nat

namespace Pattern

def ofNode (node : Node) : Pattern :=
  let (code, accept) := Code.add #[] .accept
  let (code, start) := Code.emit (.group 0 node) code accept
  ⟨code, start, node.lastGroup + 1⟩

def parseWith (flags : Flags) (source : String) : Except Fault Pattern :=
  match Node.parse? flags source with
  | none => .error .malformed
  | some node => if node.fits then .ok (ofNode node) else .error (.tooLarge Automaton.sizeLimit)

def parse (source : String) : Except Fault Pattern :=
  parseWith Flags.default source

def parseIgnoringCase (source : String) : Except Fault Pattern :=
  parseWith { Flags.default with ignoreCase := true } source

/-- A pattern written in this library; one that cannot be read matches every text as the empty
pattern does. -/
def written (source : String) : Pattern :=
  ofNode ((Node.parse? Flags.default source).getD .empty)

/-- The characters on both sides of a place. -/
structure Around where
  before : Option Char
  after : Option Char

def isWordAt (ascii : Bool) : Option Char → Bool
  | none => false
  | some character =>
      (if ascii then CharSet.asciiWord else CharSet.word).contains character.toNat

def WordEdge.holds (edge : WordEdge) (before after : Bool) : Bool :=
  match edge with
  | .boundary => before != after
  | .inside => before == after
  | .start => !before && after
  | .finish => before && !after
  | .startHalf => !before
  | .finishHalf => !after

def Look.holds (look : Look) (around : Around) : Bool :=
  match look with
  | .startOfText => around.before.isNone
  | .endOfText => around.after.isNone
  | .startOfLine false => around.before.isNone || around.before == some '\n'
  | .endOfLine false => around.after.isNone || around.after == some '\n'
  | .startOfLine true =>
      around.before.isNone || around.before == some '\n' ||
        (around.before == some '\r' && around.after != some '\n')
  | .endOfLine true =>
      around.after.isNone || around.after == some '\r' ||
        (around.after == some '\n' && around.before != some '\r')
  | .word edge ascii => edge.holds (isWordAt ascii around.before) (isWordAt ascii around.after)

abbrev Slots := Array (Option Nat)

structure Thread where
  address : Nat
  slots : Slots

/-- The threads at a place, the preferred ones first, and the instructions already reached. -/
structure Threads where
  reversed : List Thread
  reached : Array Bool

namespace Threads

def none (code : Code) : Threads :=
  ⟨[], Array.replicate code.size false⟩

def inOrder (threads : Threads) : List Thread :=
  threads.reversed.reverse

end Threads

/-- Follows the instructions that take no character. An instruction that was reached before at
this place is not followed again: the thread that reached it first is preferred. -/
def follow (code : Code) (position : Nat) (around : Around) :
    (fuel address : Nat) → Slots → Threads → Threads
  | 0, _, _, threads => threads
  | fuel + 1, address, slots, threads =>
      if threads.reached.getD address true then threads
      else
        let threads := { threads with reached := threads.reached.setIfInBounds address true }
        match code[address]? with
        | none => threads
        | some (.one _ _) | some .accept =>
            { threads with reversed := ⟨address, slots⟩ :: threads.reversed }
        | some (.look look next) =>
            if look.holds around then follow code position around fuel next slots threads
            else threads
        | some (.save slot next) =>
            let slots := slots.setIfInBounds slot (some position)
            follow code position around fuel next slots threads
        | some (.fork first second) =>
            follow code position around fuel second slots
              (follow code position around fuel first slots threads)

/-- Takes a character on every thread, up to the first thread that accepts. Gives the threads
behind the character and the slots of the accepting thread. -/
def step (code : Code) (character : Option Char) (position : Nat) (around : Around) :
    List Thread → Threads → Threads × Option Slots
  | [], reached => (reached, none)
  | thread :: others, reached =>
      match code[thread.address]?, character with
      | some .accept, _ => (reached, some thread.slots)
      | some (.one set next), some character =>
          if set.contains character.toNat then
            step code (some character) position around others
              (follow code position around (code.size + 1) next thread.slots reached)
          else step code (some character) position around others reached
      | _, _ => step code character position around others reached

/-- Runs through the rest of a text. A new thread starts at every place until a match is found. -/
def runThreads (pattern : Pattern) :
    (rest : List Char) → (before : Option Char) → (position : Nat) → Threads → Option Slots →
      Option Slots
  | rest, before, position, threads, found =>
      let code := pattern.code
      let threads :=
        if found.isSome then threads
        else follow code position ⟨before, rest.head?⟩ (code.size + 1) pattern.start
          (Array.replicate (2 * pattern.groupCount) none) threads
      match rest with
      | [] =>
          (step code none position ⟨before, none⟩ threads.inOrder (.none code)).2.or found
      | character :: behind =>
          let (threads, accepted) := step code (some character) (position + 1)
            ⟨some character, behind.head?⟩ threads.inOrder (.none code)
          let found := accepted.or found
          if threads.reversed.isEmpty && found.isSome then found
          else runThreads pattern behind (some character) (position + 1) threads found

structure Match where
  first : Nat
  stop : Nat
  groups : List (Option (Nat × Nat))
deriving Repr, DecidableEq

def groupBounds : List (Option Nat) → List (Option (Nat × Nat))
  | some first :: some stop :: rest => some (first, stop) :: groupBounds rest
  | _ :: _ :: rest => none :: groupBounds rest
  | _ => []

def matchFrom? (pattern : Pattern) (rest : List Char) (before : Option Char) (position : Nat) :
    Option Match := do
  let slots ← runThreads pattern rest before position (.none pattern.code) none
  let groups := groupBounds slots.toList
  let (first, stop) ← (← groups.head?)
  return ⟨first, stop, groups⟩

structure Place where
  rest : List Char
  before : Option Char
  position : Nat

def Place.start (text : List Char) : Place := ⟨text, none, 0⟩

def Place.advance (place : Place) : Nat → Place
  | 0 => place
  | count + 1 =>
      match place.rest with
      | [] => place
      | character :: rest => Place.advance ⟨rest, some character, place.position + 1⟩ count

def matchesFrom (pattern : Pattern) : (fuel : Nat) → Place → (last : Option Nat) → List Match
  | 0, _, _ => []
  | fuel + 1, place, last =>
      match matchFrom? pattern place.rest place.before place.position with
      | none => []
      | some found =>
          if found.first = found.stop ∧ last = some found.stop then
            if place.rest.isEmpty then []
            else matchesFrom pattern fuel (place.advance 1) last
          else found :: matchesFrom pattern fuel (place.advance (found.stop - place.position))
            (some found.stop)

def slice (text : List Char) (first stop : Nat) : List Char :=
  (text.drop first).take (stop - first)

def Match.texts (found : Match) (text : List Char) : List (Option String) :=
  found.groups.map fun bounds =>
    bounds.map fun (first, stop) => String.ofList (slice text first stop)

def matchesOf (pattern : Pattern) (text : List Char) : List Match :=
  matchesFrom pattern (2 * text.length + 2) (Place.start text) none

def find? (pattern : Pattern) (text : String) : Option Match :=
  matchFrom? pattern text.toList none 0

def occursIn (pattern : Pattern) (text : String) : Bool :=
  (pattern.find? text).isSome

def firstText? (pattern : Pattern) (text : String) : Option String :=
  (pattern.find? text).map fun found =>
    String.ofList (slice text.toList found.first found.stop)

def captures? (pattern : Pattern) (text : String) : Option (List (Option String)) :=
  (pattern.find? text).map fun found => found.texts text.toList

def allCaptures (pattern : Pattern) (text : String) : List (List (Option String)) :=
  let characters := text.toList
  (pattern.matchesOf characters).map fun found => found.texts characters

def replaceMatches (replacement : List (Option String) → String) (text : List Char) :
    List Match → (position : Nat) → List Char
  | [], position => text.drop position
  | found :: others, position =>
      slice text position found.first ++ (replacement (found.texts text)).toList ++
        replaceMatches replacement text others found.stop

def replaceAll (pattern : Pattern) (replacement : List (Option String) → String) (text : String) :
    String :=
  let characters := text.toList
  String.ofList (replaceMatches replacement characters (pattern.matchesOf characters) 0)

end Pattern

end RepoRules
