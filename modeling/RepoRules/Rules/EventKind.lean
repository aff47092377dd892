import RepoRules.Text.Blank

/-!
The kinds of events that rules can be written for.
-/

namespace RepoRules

inductive EventKind where
  | issues
  | pullRequest
  | issueComment
  | projectItem
deriving Repr, DecidableEq

namespace EventKind

def all : List EventKind :=
  [.issues, .pullRequest, .issueComment, .projectItem]

def name : EventKind → String
  | .issues => "issues"
  | .pullRequest => "pull_request"
  | .issueComment => "issue_comment"
  | .projectItem => "projects_v2_item"

/-- The kind with a name, blanks around it aside. -/
def ofName? (name : String) : Option EventKind :=
  all.find? fun kind => kind.name == Text.trim name

end EventKind

end RepoRules
