/-!
Maps between code points that move whole runs by the same distance. Case maps are mostly of this
shape: a run of neighbours, or of every second code point, moves by one distance.
-/

namespace RepoRules.Text

/-- Every `stride`-th code point from `first` to `last` moves by `distance`. -/
structure Shift where
  first : Nat
  last : Nat
  stride : Nat
  distance : Int
deriving Repr, DecidableEq

namespace Shift

def moves (shift : Shift) (code : Nat) : Bool :=
  shift.first ≤ code && code ≤ shift.last && (code - shift.first) % shift.stride == 0

def target (shift : Shift) (code : Nat) : Nat :=
  (Int.ofNat code + shift.distance).toNat

def source? (shift : Shift) (code : Nat) : Option Nat :=
  let source := (Int.ofNat code - shift.distance).toNat
  if shift.moves source && shift.target source == code then some source else none

/-- Applies the first shift of the list that moves `code`; other code points stay. -/
def apply (shifts : List Shift) (code : Nat) : Nat :=
  match shifts.find? fun shift => shift.moves code with
  | some shift => shift.target code
  | none => code

def sources (shifts : List Shift) (code : Nat) : List Nat :=
  shifts.filterMap fun shift => shift.source? code

end Shift

end RepoRules.Text
