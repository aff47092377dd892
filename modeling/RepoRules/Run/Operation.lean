import RepoRules.Run.Effect

/-!
What the operations do. Labels, new assignees and new reviewers wait in the pool; everything else
goes out at once. Texts are templates, and those of which nothing is left are passed over.
-/

namespace RepoRules.Run

variable {σ : Type}

def notIn (current keep : List String) : List String :=
  current.filter fun held => !Text.containsAsciiCase keep held

def poolAll (enter : Pool → String → Pool) (texts : List String) : Run σ Unit :=
  modifyContext fun context => { context with operations := texts.foldl enter context.operations }

def labels (change : Change) (values : List String) : Run σ Unit := do
  let wanted ← expandAll values
  match change with
  | .add => poolAll Pool.addLabel wanted
  | .remove => poolAll Pool.removeLabel wanted
  | .set =>
      let current := ((← context).target.map Item.labels).getD []
      poolAll Pool.removeLabel (notIn current wanted)
      poolAll Pool.addLabel wanted

def removals (change : Change) (current named : List String) : List String :=
  match change with
  | .add => []
  | .remove => named
  | .set => notIn current named

def assignees (services : Services σ) (change : Change) (values : List String) : Run σ Unit := do
  let logins ← expandAll values
  match (← context).target with
  | none => return
  | some item =>
      let gone := removals change item.assignees logins
      if !gone.isEmpty then write services (.removeAssignees item.number gone)
      if change ≠ .remove then poolAll Pool.addAssignee logins

/-- Only a pull request has reviewers. -/
def reviewers (services : Services σ) (change : Change) (values : List String) : Run σ Unit := do
  match (← context).target.filter Item.isPullRequest with
  | none => return
  | some item =>
      let logins ← expandAll values
      let gone := removals change item.requestedReviewers logins
      if !gone.isEmpty then write services (.removeReviewers item.number gone)
      if change ≠ .remove then poolAll Pool.addReviewer logins

/-- Sets the milestone, unless it is set already, or removes it; a removal that names a milestone
removes that one only. -/
def milestone (services : Services σ) (change : Change) (value : String) : Run σ Unit := do
  let title := Text.trim (← expand value)
  match (← context).target with
  | none => return
  | some item =>
      match change with
      | .set =>
          if !title.isEmpty && item.milestone != some title then
            write services (.setMilestone item.number (some title))
      | _ =>
          if item.milestone.isSome && (title.isEmpty || item.milestone == some title) then
            write services (.setMilestone item.number none)

def project (services : Services σ) (change : Change) (value : String) : Run σ Unit := do
  let project := Text.trim (← expand value)
  match (← context).contentNode with
  | none => return
  | some content =>
      if project.isEmpty then return
      else if change = .remove then write services (.removeFromProject content project)
      else write services (.addToProject content project)

/-- Posts a comment, unless it is blank. -/
def comment (services : Services σ) (template : String) : Run σ Unit := do
  let body ← expand template
  if Text.isBlankText body then return
  match (← context).target with
  | none => return
  | some item => write services (.postComment item.number body)

def setVariable (name template : String) : Run σ Unit := do
  let value ← expand template
  modifyContext fun context => { context with variableTable := context.variableTable.set name value }

/-- Adding gives a value only to a variable that has none. -/
def changeVariable (change : Change) (name template : String) : Run σ Unit := do
  match change with
  | .set => setVariable name template
  | .add => if !(← context).variableTable.contains name then setVariable name template
  | .remove =>
      modifyContext fun context => { context with variableTable := context.variableTable.remove name }

def operate (services : Services σ) : Operation → Run σ Unit
  | .labels change values => labels change values
  | .assignees change values => assignees services change values
  | .reviewers change values => reviewers services change values
  | .milestone change value => milestone services change value
  | .project change value => project services change value
  | .comment template => comment services template
  | .variable change name value => changeVariable change name value

end RepoRules.Run
