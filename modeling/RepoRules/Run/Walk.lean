import RepoRules.Rules.Tree
import RepoRules.Run.Judgement
import RepoRules.Run.Operation

/-!
Walks through a tree. A gate that does not open ends its own sequence and no other. What the walk
has pooled is sent when the walk has come to its end; after a failed call nothing is sent.
-/

namespace RepoRules

/-- Whether the sequence of a node goes on behind it. -/
inductive Flow where
  | proceed
  | halt
deriving Repr, DecidableEq

/-- Whether changed files satisfy a step that asks for some, all or none of them to match. -/
def FileMatch.accepts (mode : FileMatch) (isMatch : String → Bool) (files : List String) : Bool :=
  match mode with
  | .any => files.any isMatch
  | .all => !files.isEmpty && files.all isMatch
  | .none => !files.any isMatch

namespace Run

variable {σ : Type}

/-- A gate opens if its condition holds. A condition without an answer is a failure and keeps it
closed. -/
def passGate : Option Condition → Run σ Flow
  | none => return .halt
  | some condition => do
      match ← judge condition with
      | .ok true => return .proceed
      | .ok false => return .halt
      | .error error =>
          addFailure ("check failed to evaluate: " ++ error.message)
          return .halt

def filesAccepted (services : Services σ) (mode : FileMatch) (pattern : Pattern) : Run σ Bool := do
  if !(← context).isPullRequest then return false
  return mode.accepts pattern.occursIn (← changedFiles services)

mutual

def walkNode (services : Services σ) : Tree.Node → Run σ Flow
  | .gate condition => passGate condition
  | .operation operation => do
      operate services operation
      return .proceed
  | .files mode _ pattern body => do
      if ← filesAccepted services mode pattern then walkNodes services body
      return .proceed
  | .sequence children => do
      walkNodes services children
      return .proceed

def walkNodes (services : Services σ) : List Tree.Node → Run σ Unit
  | [] => return
  | node :: rest => do
      match ← walkNode services node with
      | .proceed => walkNodes services rest
      | .halt => return

end

def walk (services : Services σ) (tree : ActionTree) : Run σ Unit :=
  walkNodes services tree.children

def execute (services : Services σ) (tree : ActionTree) : Run σ FlushReport := do
  walk services tree
  flush services

end Run

end RepoRules
