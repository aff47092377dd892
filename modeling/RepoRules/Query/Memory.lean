import RepoRules.Query.Value

/-!
What an evaluation reads and changes: the variables in sight, the value that a function is called
on, and how much has been done so far. An evaluation passes this along and gives up at the first
failure, so that no query runs for long.
-/

namespace RepoRules.Query

abbrev Scope := List (String × Value)

/-- How much a query may do before it is given up. -/
def operationLimit : Nat := 50000

def textLimit : Nat := 1048576

structure Memory where
  scope : Scope
  /-- The value that a function without parameters is called on. -/
  receiver : Option Value
  /-- How many operations there were. -/
  operations : Nat

abbrev Evaluation := StateT Memory (Except Failure)

def countAt (position : Position) : Evaluation Unit := fun memory =>
  if operationLimit ≤ memory.operations then .error ⟨.tooManyOperations, some position⟩
  else .ok ((), { memory with operations := memory.operations + 1 })

def located (position : Position) : Except Failure α → Except Failure α
  | .error ⟨cause, none⟩ => .error ⟨cause, some position⟩
  | other => other

def Evaluation.at (position : Position) (evaluation : Evaluation α) : Evaluation α := fun memory =>
  located position (evaluation memory)

def Scope.update (name : String) (value : Value) : Scope → Scope
  | [] => []
  | (other, held) :: rest =>
      if other == name then (other, value) :: rest else (other, held) :: update name value rest

/-- How to call a function value at a place: with a receiver, if there is one, and arguments. -/
abbrev Apply := Position → Value → Option Value → List Value → Evaluation Value

end RepoRules.Query
