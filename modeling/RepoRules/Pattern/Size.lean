import Std.Data.HashMap
import RepoRules.Pattern.Syntax
import RepoRules.Pattern.Utf8

/-!
How much memory the automata of a pattern take. A pattern stands for two automata over bytes: one
reads a text forward and records where groups start and end, the other reads it backward. A pattern
is accepted if both fit into the limit. The automata themselves are not kept: only their states
and transitions are counted, in the order in which they would be laid out, since states that are
alike are shared only while a table of limited size still holds them.
-/

namespace RepoRules.Pattern

namespace Automaton

def sizeLimit : Nat := 10 * 0x100000

def stateBytes : Nat := 32

/-- A transition for a range of bytes, in a state that has any number of them. -/
def transitionBytes : Nat := 8

def wayBytes : Nat := 4

structure Tally where
  states : Nat
  extra : Nat
deriving Repr, DecidableEq

def Tally.bytes (tally : Tally) : Nat :=
  stateBytes * tally.states + tally.extra

inductive Direction where
  | forward
  | backward
deriving Repr, DecidableEq

abbrev Counting := StateT Tally Option

def addStates (states extra : Nat) : Counting Unit := do
  let tally ← get
  let tally : Tally := ⟨tally.states + states, tally.extra + extra⟩
  if tally.bytes ≤ sizeLimit then set tally else failure

def addState (extra : Nat) : Counting Nat := do
  let number := (← get).states
  addStates 1 extra
  return number

def addWays (ways : Nat) : Counting Unit :=
  addStates 0 (wayBytes * ways)

/-- How a part of an automaton ends: leading on from a fork takes one more way. -/
inductive Ending where
  | plain
  | fork
deriving Repr, DecidableEq

def Ending.ways : Ending → Nat
  | .plain => 0
  | .fork => 1

structure Step where
  range : ByteRange
  next : Nat
deriving Repr, DecidableEq

/-- The place of numbers in a table of `size` places: the hash of Fowler, Noll and Vo. -/
def place (size : Nat) (numbers : List Nat) : Nat :=
  let hash := numbers.foldl (fun hash number => (hash ^^^ number.toUInt64) * 1099511628211)
    (14695981039346656037 : UInt64)
  hash.toNat % size

/-- States that can be shared, each in the place that its key has; a later one takes the place of an
earlier one. -/
abbrev Table (κ : Type) := Std.HashMap Nat (κ × Nat)

/-- The state for a key: the one in the table, or a new one. -/
def sharedState {κ : Type} [DecidableEq κ] (place extra : Nat) (key : κ) (table : Table κ) :
    Counting (Table κ × Nat) := do
  match table[place]? with
  | some (found, state) => if found = key then return (table, state)
  | none => pure ()
  let state ← addState extra
  return (table.insert place (key, state), state)

structure OpenState where
  steps : List Step
  last : Option ByteRange

def OpenState.close (state : OpenState) (next : Nat) : List Step :=
  match state.last with
  | some range => state.steps ++ [⟨range, next⟩]
  | none => state.steps

abbrev StepTable := Table (List Step)

def finishState (steps : List Step) (table : StepTable) : Counting (StepTable × Nat) :=
  let numbers := steps.flatMap fun step => [step.range.first, step.range.last, step.next]
  sharedState (place 10000 numbers) (transitionBytes * steps.length) steps table

/-- Finishes the open states behind the first `keep + 1`. The states come with the last one in
front; what remains has its last transition closed. -/
def finishBehind (keep : Nat) : List OpenState → (next : Nat) → StepTable →
    Counting (StepTable × List OpenState)
  | [], _, table => pure (table, [])
  | state :: rest, next, table => do
      if keep < rest.length then
        let (table, next) ← finishState (state.close next) table
        finishBehind keep rest next table
      else return (table, ⟨state.close next, none⟩ :: rest)

/-- How many ranges of a sequence are the last transitions of the open states, first to last. -/
def sharedLength : List ByteRange → List OpenState → Nat
  | range :: ranges, state :: states =>
      if state.last = some range then sharedLength ranges states + 1 else 0
  | _, _ => 0

def openRest : List ByteRange → List OpenState → List OpenState
  | range :: ranges, state :: states =>
      (ranges.foldl (fun states range => ⟨[], some range⟩ :: states)
        ({ state with last := some range } :: states))
  | _, states => states

def forwardSequences (target : Nat) : List (List ByteRange) → List OpenState → StepTable →
    Counting (StepTable × List OpenState)
  | [], states, table => pure (table, states)
  | sequence :: others, states, table => do
      let shared := sharedLength sequence states.reverse
      let (table, states) ← finishBehind shared states target table
      forwardSequences target others (openRest (sequence.drop shared) states) table

/-- A set as states that share their ends: sequences come in increasing order, and a state is
finished when no later sequence can add to it. -/
def countForwardSet (sequences : List (List ByteRange)) : Counting Unit := do
  let target ← addState 0
  let (table, states) ← forwardSequences target sequences [⟨[], none⟩] ∅
  let (table, states) ← finishBehind 0 states target table
  match states with
  | root :: _ => let _ ← finishState root.steps table
  | [] => pure ()

abbrev RangeTable := Table (Nat × ByteRange)

/-- One sequence, its first range nearest to the end. -/
def backwardSequence : List ByteRange → (next : Nat) → RangeTable → Counting RangeTable
  | [], _, table => pure table
  | range :: ranges, next, table => do
      let (table, state) ← sharedState (place 1000 [next, range.first, range.last]) 0 (next, range)
        table
      backwardSequence ranges state table

def backwardSequences (target : Nat) : List (List ByteRange) → RangeTable → Counting Unit
  | [], _ => pure ()
  | sequence :: others, table => do
      let table ← backwardSequence sequence target table
      addWays 1
      backwardSequences target others table

/-- A set as a fork with one way for each sequence. -/
def countBackwardSet (sequences : List (List ByteRange)) : Counting Unit := do
  let _ ← addState 0
  let target ← addState 0
  backwardSequences target sequences ∅

def countSet (direction : Direction) (set : CharSet) : Counting Unit :=
  match set.only? with
  | some letter => addStates (Utf8.encode letter.toNat).length 0
  | none =>
      if set.isAscii then addStates 2 (transitionBytes * set.ranges.length)
      else
        let sequences := set.byteSequences
        match direction with
        | .forward => countForwardSet sequences
        | .backward => countBackwardSet sequences

/-- Splits words at the empty ones, which end a group each. An empty word counts only once as long
as all words before it are empty. The groups closed so far come last first. -/
def wordGroups : List (List Nat) → (closed : List (List (List Nat))) → (group : List (List Nat)) →
    List (List (List Nat))
  | [], closed, group => (group :: closed).reverse
  | [] :: words, closed, group =>
      if group.isEmpty && !closed.isEmpty && closed.all List.isEmpty then
        wordGroups words closed group
      else wordGroups words (group.reverse :: closed) []
  | (letter :: rest) :: words, closed, group =>
      wordGroups words closed ((letter :: rest) :: group)

def branches (group : List (List Nat)) : List (List (List Nat)) :=
  (group.filterMap List.head?).eraseDups.map fun letter =>
    (group.filter fun word => word.head? = some letter).map List.tail

/-- Words as a tree that branches by their bytes. A node is a fork with one way for each group of
words and one between any two groups, where the text may end. -/
def countTree : (height : Nat) → List (List Nat) → Counting Unit
  | 0, _ => pure ()
  | height + 1, words =>
      if words.all List.isEmpty then pure ()
      else do
        let groups := wordGroups words [] []
        let letters := groups.filter fun group => !group.isEmpty
        addWays (letters.length + (groups.length - 1))
        addStates 1 0
        for group in letters do
          let below := branches group
          addStates 1 (if below.length = 1 then 0 else transitionBytes * below.length)
          for words in below do
            countTree height words

def countWords (words : List (List Nat)) : Counting Unit := do
  addStates 1 0
  countTree ((words.map List.length).foldl max 0 + 1) words

structure Way where
  word : Option (List Nat)
  count : Counting Ending

def countOtherWays : List Way → Counting Unit
  | [] => pure ()
  | way :: others => do
      let ending ← way.count
      addWays (1 + ending.ways)
      countOtherWays others

/-- A fork stands behind its first two ways. -/
def countWays (ways : List Way) : Counting Ending := do
  match ways with
  | [] => return .plain
  | [way] => way.count
  | first :: second :: others =>
      match ways.mapM Way.word with
      | some words => countWords words
      | none =>
          let firstEnding ← first.count
          let secondEnding ← second.count
          addStates 2 0
          addWays (2 + firstEnding.ways + secondEnding.ways)
          countOtherWays others
      return .plain

/-- Counts a part again and again, each one leading on to the next. -/
def countCopies (part : Counting Ending) : (copies : Nat) → Ending → Counting Ending
  | 0, before => pure before
  | copies + 1, before => do
      let ending ← part
      addWays before.ways
      countCopies part copies ending

def countExactly (part : Counting Ending) : (copies : Nat) → Counting Ending
  | 0 => do
      addStates 1 0
      return .plain
  | copies + 1 => do countCopies part copies (← part)

def countOptional (part : Counting Ending) : (copies : Nat) → Ending → Counting Unit
  | 0, before => addWays before.ways
  | copies + 1, before => do
      addStates 1 0
      let ending ← part
      addWays (before.ways + 2)
      countOptional part copies ending

/-- Counts a repetition. What surely takes a character needs one fork to be repeated from none on;
other parts need a second fork, so that a part that took nothing leads out. -/
def countRepeated (part : Counting Ending) (takes : Bool) :
    (least : Nat) → (most : Option Nat) → Counting Ending
  | 0, some 1 => do
      addStates 2 0
      let ending ← part
      addWays (2 + ending.ways)
      return .plain
  | least, some most => do
      let before ← countExactly part least
      if most = least then return before
      addStates 1 0
      countOptional part (most - least) before
      return .plain
  | 0, none => do
      if takes then
        addStates 1 0
        let ending ← part
        addWays (1 + ending.ways)
        return .fork
      else
        let ending ← part
        addStates 3 0
        addWays (4 + ending.ways)
        return .plain
  | least + 1, none => do
      let ending ← countExactly part (least + 1)
      addStates 1 0
      addWays (1 + ending.ways)
      return .fork

end Automaton

namespace Node

/-- Whether the node surely takes a character; nothing, if it can never match. -/
def surelyTakes? : Node → Option Bool
  | .empty => some false
  | .one set => if set.ranges.isEmpty then none else some true
  | .look _ => some false
  | .group _ body => body.surelyTakes?
  | .both first second => return (← first.surelyTakes?) || (← second.surelyTakes?)
  | .choice first second => return (← first.surelyTakes?) && (← second.surelyTakes?)
  | .repeated least _ _ body => return 0 < least && (← body.surelyTakes?)

/-- Whether every match starts at the start of the text, as far as the looks in front show it. -/
def isStartBound : Node → Bool
  | .look .startOfText => true
  | .group _ body => body.isStartBound
  | .both first second => first.isStartBound || first.takesNothing && second.isStartBound
  | .choice first second => first.isStartBound && second.isStartBound
  | .repeated least _ _ body => 0 < least && body.isStartBound
  | _ => false

/-- Whether every match ends at the end of the text, as far as the looks at the end show it. -/
def isEndBound : Node → Bool
  | .look .endOfText => true
  | .group _ body => body.isEndBound
  | .both first second => second.isEndBound || second.takesNothing && first.isEndBound
  | .choice first second => first.isEndBound && second.isEndBound
  | .repeated least _ _ body => 0 < least && body.isEndBound
  | _ => false

open Automaton

def word? (direction : Direction) (node : Node) : Option (List Nat) := do
  let letters ← node.parts.mapM fun part =>
    match part with
    | .one set => set.only?
    | _ => none
  if letters.isEmpty then none
  else
    let bytes := letters.flatMap fun letter => Utf8.encode letter.toNat
    return match direction with
      | .forward => bytes
      | .backward => bytes.reverse

/-- How the ways of a node are counted; a node that is no choice is its only way. -/
def countedWays (direction : Direction) : Node → List Way
  | .empty => [⟨none, do addStates 1 0; return .plain⟩]
  | .one set =>
      [⟨(Node.one set).word? direction, do countSet direction set; return .plain⟩]
  | .look _ => [⟨none, do addStates 1 0; return .plain⟩]
  | .group _ body =>
      let part := countWays (body.countedWays direction)
      match direction with
      | .forward =>
          [⟨none, do
            addStates 1 0
            let ending ← part
            addStates 1 (wayBytes * ending.ways)
            return .plain⟩]
      | .backward => [⟨none, part⟩]
  | .both first second =>
      let firstPart := countWays (first.countedWays direction)
      let secondPart := countWays (second.countedWays direction)
      let (before, after) := match direction with
        | .forward => (firstPart, secondPart)
        | .backward => (secondPart, firstPart)
      [⟨(Node.both first second).word? direction, do countCopies after 1 (← before)⟩]
  | .choice first second => first.countedWays direction ++ second.countedWays direction
  | .repeated least most _ body =>
      let part := countWays (body.countedWays direction)
      let takes := body.surelyTakes? == some true
      [⟨none, countRepeated part takes least most⟩]

/-- Counts the automaton for a pattern. It starts at any place of the text, unless all matches are
bound to the end it starts from. -/
def countAll (direction : Direction) (node : Node) : Counting Unit := do
  let bound := match direction with
    | .forward => node.isStartBound
    | .backward => node.isEndBound
  if bound then addStates 1 0 else addStates 3 (transitionBytes + 2 * wayBytes)
  let ending ← countWays ((Node.group 0 node).countedWays direction)
  addStates 1 (wayBytes * ending.ways)

/-- A bound for the bytes of an automaton that is quick to find. -/
def bytesBound : Node → Nat
  | .empty => 32
  | .one set => 128 + 160 * set.byteSequences.length
  | .look _ => 32
  | .group _ body => 68 + body.bytesBound
  | .both first second => 4 + first.bytesBound + second.bytesBound
  | .choice first second => 80 + first.bytesBound + second.bytesBound
  | .repeated least most _ body => 128 + (max 1 (most.getD least)) * (40 + body.bytesBound)

def fits (node : Node) : Bool :=
  node.bytesBound + 256 ≤ sizeLimit ||
    [Direction.forward, .backward].all fun direction =>
      (node.countAll direction ⟨0, 0⟩).isSome

end Node

end RepoRules.Pattern
