import RepoRules.Failure
import RepoRules.Repository.Item
import RepoRules.Repository.Ref

/-!
What can be asked of a repository, and of what type the answers are. A client answers calls and
keeps a state of its own; calls may fail in any way.
-/

namespace RepoRules

inductive Mutation where
  | addLabels (number : Nat) (labels : List String)
  | removeLabels (number : Nat) (labels : List String)
  | addAssignees (number : Nat) (logins : List String)
  | removeAssignees (number : Nat) (logins : List String)
  | addReviewers (number : Nat) (logins : List String)
  | removeReviewers (number : Nat) (logins : List String)
  | postComment (number : Nat) (body : String)
  | setMilestone (number : Nat) (title : Option String)
  | addToProject (content project : String)
  | removeFromProject (content project : String)
deriving Repr, DecidableEq

namespace Mutation

def name : Mutation → String
  | .addLabels .. => "add_labels"
  | .removeLabels .. => "remove_labels"
  | .addAssignees .. => "add_assignees"
  | .removeAssignees .. => "remove_assignees"
  | .addReviewers .. => "add_reviewers"
  | .removeReviewers .. => "remove_reviewers"
  | .postComment .. => "post_comment"
  | .setMilestone .. => "set_milestone"
  | .addToProject .. => "add_to_project"
  | .removeFromProject .. => "remove_from_project"

def details : Mutation → List (String × Json)
  | .addLabels number labels | .removeLabels number labels =>
      [("number", .int number), ("labels", .strings labels)]
  | .addAssignees number logins | .removeAssignees number logins
  | .addReviewers number logins | .removeReviewers number logins =>
      [("number", .int number), ("logins", .strings logins)]
  | .postComment number body => [("number", .int number), ("body", .string body)]
  | .setMilestone number title => [("number", .int number), ("title", .ofOption .string title)]
  | .addToProject content project | .removeFromProject content project =>
      [("content_id", .string content), ("project_id", .string project)]

def toJson (mutation : Mutation) : Json :=
  Json.ofFields (("op", .string mutation.name) :: mutation.details)

end Mutation

inductive Call where
  | rulesFile (path : String)
  | issue (number : Nat)
  | pullRequest (number : Nat)
  | comment (id : Nat)
  | changedFiles (number : Nat)
  | write (mutation : Mutation)
deriving Repr, DecidableEq

def Call.name : Call → String
  | .rulesFile _ => "fetch_rules_file"
  | .issue _ => "get_issue"
  | .pullRequest _ => "get_pull_request"
  | .comment _ => "get_comment"
  | .changedFiles _ => "list_pull_request_files"
  | .write mutation => mutation.name

def Call.Reply : Call → Type
  | .rulesFile _ => Option String
  | .issue _ => Item
  | .pullRequest _ => Item
  | .comment _ => Comment
  | .changedFiles _ => List String
  | .write _ => Unit

/-- Someone who answers the calls to one repository. -/
structure Client (σ : Type) where
  repository : RepositoryRef
  answer : (call : Call) → σ → Except Failure call.Reply × σ

namespace Client

/-- Writes are only noted, next to the state of the client that answers everything else. -/
def dryRun (client : Client σ) : Client (σ × List Mutation) where
  repository := client.repository
  answer
    | .write mutation, (inner, log) => (.ok (), (inner, log ++ [mutation]))
    | call, (inner, log) =>
        let (reply, after) := client.answer call inner
        (reply, (after, log))

/-- Writes are passed over. -/
def readOnly (client : Client σ) : Client σ where
  repository := client.repository
  answer
    | .write _, state => (.ok (), state)
    | call, state => client.answer call state

end Client

end RepoRules
