import RepoRules.Run.Effect

/-!
Reruns. A label such as `rerun-action-opened` on an item that is being labeled asks for the action
`opened` to be run again. The label is to be removed, and everything is read anew first.
-/

namespace RepoRules

namespace Rerun

def labelPrefix : String := "rerun-action-"

/-- What follows the prefix of a label that asks for a rerun, the case of its ASCII letters aside. -/
def suffix? (label : String) : Option String :=
  let pre := labelPrefix.length
  let characters := label.toList
  let head := String.ofList (characters.take pre)
  if pre < characters.length && Text.sameAsciiCase head labelPrefix then
    some (String.ofList (characters.drop pre))
  else none

def actionOf (suffix : String) : String :=
  Text.lower (Text.trim suffix)

def find? (labels : List String) : Option (String × String) :=
  labels.findSome? fun label => (suffix? label).map fun suffix => (label, actionOf suffix)

end Rerun

namespace Run

variable {σ : Type}

def applyRerun (services : Services σ) : Run σ (Option String) := do
  let current ← context
  if current.rawAction ≠ "labeled" then return none
  match Rerun.find? ((current.target.map Item.labels).getD []) with
  | none => return none
  | some (label, action) =>
      if action.isEmpty then return none
      modifyContext fun context =>
        { context with operations := context.operations.removeLabel label }
      refresh services
      modifyContext fun context => context.setAction action
      return some action

end Run

end RepoRules
