import RepoRules.Pattern.Syntax

/-!
Patterns as programs for a machine with many threads. An instruction takes a character, or leads
on to other instructions without taking one; of the two ways on from a fork the first is preferred.
-/

namespace RepoRules.Pattern

inductive Instruction where
  | one (set : CharSet) (next : Nat)
  | look (look : Look) (next : Nat)
  | save (slot next : Nat)
  | fork (first second : Nat)
  | accept
deriving Repr, DecidableEq

abbrev Code := Array Instruction

namespace Code

def add (code : Code) (instruction : Instruction) : Code × Nat :=
  let address := code.size
  (code.push instruction, address)

def forkTo (greedy : Bool) (body next : Nat) : Instruction :=
  if greedy then .fork body next else .fork next body

/-- Adds `count` parts, each leading to the one added before it. -/
def repeatTo (emit : Code → Nat → Code × Nat) : (count : Nat) → Code → Nat → Code × Nat
  | 0, code, next => (code, next)
  | count + 1, code, next =>
      let (code, entry) := emit code next
      repeatTo emit count code entry

/-- Adds `count` parts, each of which may be left out together with all behind it. -/
def optionalTo (emit : Code → Nat → Code × Nat) (greedy : Bool) (leave : Nat) :
    (count : Nat) → Code → Nat → Code × Nat
  | 0, code, next => (code, next)
  | count + 1, code, next =>
      let (code, entry) := emit code next
      let (code, entry) := code.add (forkTo greedy entry leave)
      optionalTo emit greedy leave count code entry

/-- Adds a loop that runs its part at least once. The fork behind the part is added first, so that
the part can lead to it. -/
def loopTo (emit : Code → Nat → Code × Nat) (greedy : Bool) (code : Code) (next : Nat) :
    Code × Nat × Nat :=
  let fork := code.size
  let (code, entry) := emit (code.push .accept) fork
  (code.setIfInBounds fork (forkTo greedy entry next), entry, fork)

def emit : Node → Code → Nat → Code × Nat
  | .empty, code, next => (code, next)
  | .one set, code, next => code.add (.one set next)
  | .look look, code, next => code.add (.look look next)
  | .group number body, code, next =>
      let (code, close) := code.add (.save (2 * number + 1) next)
      let (code, entry) := emit body code close
      code.add (.save (2 * number) entry)
  | .both first second, code, next =>
      let (code, middle) := emit second code next
      emit first code middle
  | .choice first second, code, next =>
      let (code, other) := emit second code next
      let (code, entry) := emit first code next
      code.add (.fork entry other)
  | .repeated least (some most) greedy body, code, next =>
      let (code, entry) := optionalTo (emit body) greedy next (most - least) code next
      repeatTo (emit body) least code entry
  | .repeated 0 none greedy body, code, next =>
      let (code, entry, fork) := loopTo (emit body) greedy code next
      if body.isNullable then code.add (forkTo greedy entry next) else (code, fork)
  | .repeated (least + 1) none greedy body, code, next =>
      let (code, entry, _) := loopTo (emit body) greedy code next
      repeatTo (emit body) least code entry

end Code

end RepoRules.Pattern
