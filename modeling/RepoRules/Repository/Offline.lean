import RepoRules.Repository.Call

/-!
A repository in memory. Writes are noted and change what is stored, so that later reads see them.
Lists of labels and logins are changed without regard to the case of ASCII letters.
-/

namespace RepoRules

/-- What a repository holds, and the writes that have been made. An item may be stored twice, as an
issue and as a pull request. -/
structure OfflineStore where
  rules : Option String
  issues : List (Nat × Item)
  pulls : List (Nat × Item)
  comments : List (Nat × Comment)
  files : List (Nat × List String)
  log : List Mutation

namespace OfflineStore

def empty : OfflineStore :=
  ⟨none, [], [], [], [], []⟩

def merge (current values : List String) : List String :=
  values.foldl (fun merged value =>
    if Text.containsAsciiCase merged value then merged else merged ++ [value]) current

def subtract (current values : List String) : List String :=
  current.filter fun held => !Text.containsAsciiCase values held

end OfflineStore

namespace Mutation

def number? : Mutation → Option Nat
  | .addLabels number _ | .removeLabels number _ | .addAssignees number _
  | .removeAssignees number _ | .addReviewers number _ | .removeReviewers number _
  | .postComment number _ | .setMilestone number _ => some number
  | .addToProject _ _ | .removeFromProject _ _ => none

def change (mutation : Mutation) (item : Item) : Item :=
  match mutation with
  | .addLabels _ labels => { item with labels := OfflineStore.merge item.labels labels }
  | .removeLabels _ labels => { item with labels := OfflineStore.subtract item.labels labels }
  | .addAssignees _ logins => { item with assignees := OfflineStore.merge item.assignees logins }
  | .removeAssignees _ logins =>
      { item with assignees := OfflineStore.subtract item.assignees logins }
  | .addReviewers _ logins =>
      { item with requestedReviewers := OfflineStore.merge item.requestedReviewers logins }
  | .removeReviewers _ logins =>
      { item with requestedReviewers := OfflineStore.subtract item.requestedReviewers logins }
  | .setMilestone _ title => { item with milestone := title }
  | .postComment _ _ | .addToProject _ _ | .removeFromProject _ _ => item

end Mutation

namespace OfflineStore

/-- Stores a value under a number, in place of an earlier one. -/
def put (number : Nat) (value : α) (table : List (Nat × α)) : List (Nat × α) :=
  (number, value) :: table.filter fun entry => entry.1 != number

def adjust (number : Nat) (change : α → α) (table : List (Nat × α)) : List (Nat × α) :=
  table.map fun entry => if entry.1 = number then (entry.1, change entry.2) else entry

def apply (store : OfflineStore) (mutation : Mutation) : OfflineStore :=
  match mutation.number? with
  | some number =>
      { store with
        issues := adjust number mutation.change store.issues
        pulls := adjust number mutation.change store.pulls }
  | none => store

def record (store : OfflineStore) (mutation : Mutation) : OfflineStore :=
  let changed := store.apply mutation
  { changed with log := changed.log ++ [mutation] }

def item? (store : OfflineStore) (number : Nat) : Option Item :=
  (store.pulls.lookup number).or (store.issues.lookup number)

def notFound (what : String) (number : Nat) : Failure :=
  (Failure.of .remote (what ++ " " ++ toString number ++ " not found")).withCode "GH-404"

def found (what : String) (number : Nat) : Option α → Except Failure α
  | some value => .ok value
  | none => .error (notFound what number)

def answer (call : Call) (store : OfflineStore) : Except Failure call.Reply × OfflineStore :=
  match call with
  | .rulesFile _ => (.ok store.rules, store)
  | .issue number =>
      (found "issue" number ((store.issues.lookup number).or (store.pulls.lookup number)), store)
  | .pullRequest number => (found "pull request" number (store.pulls.lookup number), store)
  | .comment id => (found "comment" id (store.comments.lookup id), store)
  | .changedFiles number => (.ok ((store.files.lookup number).getD []), store)
  | .write mutation => (.ok (), store.record mutation)

def client (repository : RepositoryRef) : Client OfflineStore :=
  ⟨repository, answer⟩

def seedFailure (fault : Decode.Fault) : Failure :=
  Failure.of .validation ("invalid payload object: " ++ fault.message)

/-- The value of a field that is there and not null. -/
def present? (payload : Json) (name : String) : Option Json :=
  (payload.field? name).filter fun value => !value.isNull

def seedIssue (store : OfflineStore) (item : Item) : OfflineStore :=
  { store with issues := put item.number item store.issues }

def seedPull (store : OfflineStore) (item : Item) : OfflineStore :=
  { store with pulls := put item.number { item with isPullRequest := true } store.pulls }

def seedComment (store : OfflineStore) (comment : Comment) : OfflineStore :=
  { store with comments := put comment.id comment store.comments }

def seed (payload : Json) (name : String) (read : Json → Except Decode.Fault α)
    (enter : OfflineStore → α → OfflineStore) (store : OfflineStore) :
    Except Failure OfflineStore :=
  match present? payload name with
  | none => .ok store
  | some value => ((read value).mapError seedFailure).map (enter store)

/-- A store that holds the issue, the pull request and the comment of a payload. -/
def ofPayload (payload : Json) : Except Failure OfflineStore := do
  let store ← seed payload "issue" Item.ofJson seedIssue empty
  let store ← seed payload "pull_request" Item.ofJson seedPull store
  seed payload "comment" Comment.ofJson seedComment store

end OfflineStore

end RepoRules
