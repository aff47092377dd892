import RepoRules.Repository.Call
import RepoRules.Text.Blank

/-!
Changes of labels, assignees and reviewers that wait for the end of a run. They go out once, in
four batches, and a label that is both added and removed is removed.
-/

namespace RepoRules

/-- Texts in the order in which they were first added, each once. -/
abbrev NameSet := List String

/-- Adds a text without the blanks around it, unless nothing is left of it. -/
def NameSet.add (set : NameSet) (text : String) : NameSet :=
  let text := Text.trim text
  if text.isEmpty || set.contains text then set else set ++ [text]

structure Pool where
  labelsToAdd : NameSet
  labelsToRemove : NameSet
  assignees : NameSet
  reviewers : NameSet
  flushed : Bool
deriving Repr, DecidableEq

structure FlushReport where
  labelsAdded : List String
  labelsRemoved : List String
  assigneesAdded : List String
  reviewersAdded : List String
deriving Repr, DecidableEq

namespace FlushReport

def nothing : FlushReport := ⟨[], [], [], []⟩

def isEmpty (report : FlushReport) : Bool :=
  report.labelsAdded.isEmpty && report.labelsRemoved.isEmpty && report.assigneesAdded.isEmpty &&
    report.reviewersAdded.isEmpty

def toJson (report : FlushReport) : Json :=
  Json.ofFields
    [("labels_added", .strings report.labelsAdded), ("labels_removed", .strings report.labelsRemoved),
      ("assignees_added", .strings report.assigneesAdded),
      ("reviewers_added", .strings report.reviewersAdded)]

end FlushReport

namespace Pool

def empty : Pool := ⟨[], [], [], [], false⟩

def addLabel (pool : Pool) (label : String) : Pool :=
  { pool with labelsToAdd := pool.labelsToAdd.add label }

def removeLabel (pool : Pool) (label : String) : Pool :=
  { pool with labelsToRemove := pool.labelsToRemove.add label }

def addAssignee (pool : Pool) (login : String) : Pool :=
  { pool with assignees := pool.assignees.add login }

def addReviewer (pool : Pool) (login : String) : Pool :=
  { pool with reviewers := pool.reviewers.add login }

def isEmpty (pool : Pool) : Bool :=
  pool.labelsToAdd.isEmpty && pool.labelsToRemove.isEmpty && pool.assignees.isEmpty &&
    pool.reviewers.isEmpty

/-- Labels that are to be removed are not added. -/
def resolveConflicts (pool : Pool) : Pool :=
  { pool with
    labelsToAdd := pool.labelsToAdd.filter fun label => !pool.labelsToRemove.contains label }

def toJson (pool : Pool) : Json :=
  Json.ofFields
    [("labels_add", .strings pool.labelsToAdd), ("labels_remove", .strings pool.labelsToRemove),
      ("assignees", .strings pool.assignees), ("reviewers", .strings pool.reviewers)]

/-- What a flush onto an item sends. Reviewers are for pull requests only. -/
def reportFor (pool : Pool) (target : Item) : FlushReport :=
  ⟨pool.labelsToAdd, pool.labelsToRemove, pool.assignees,
    if target.isPullRequest then pool.reviewers else []⟩

end Pool

def FlushReport.mutations (report : FlushReport) (number : Nat) : List Mutation :=
  (if report.labelsAdded.isEmpty then [] else [.addLabels number report.labelsAdded]) ++
  (if report.labelsRemoved.isEmpty then [] else [.removeLabels number report.labelsRemoved]) ++
  (if report.assigneesAdded.isEmpty then [] else [.addAssignees number report.assigneesAdded]) ++
  (if report.reviewersAdded.isEmpty then [] else [.addReviewers number report.reviewersAdded])

namespace Pool

variable {m : Type → Type} [Monad m]

/-- Sends the batches onto the item at hand. Only the first flush does anything; without an item
the batches stay where they are. `keep` holds on to the pool before anything is sent. -/
def flush (send : Mutation → m Unit) (keep : Pool → m Unit) (target : Option Item) (pool : Pool) :
    m FlushReport := do
  if pool.flushed then
    return .nothing
  let resolved := { pool.resolveConflicts with flushed := true }
  match target with
  | none =>
      keep resolved
      return .nothing
  | some item =>
      keep { empty with flushed := true }
      let report := resolved.reportFor item
      (report.mutations item.number).forM send
      return report

end Pool

end RepoRules
