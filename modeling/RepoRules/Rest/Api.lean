import RepoRules.Repository.Call
import RepoRules.Rest.Exchange

/-!
The client of a repository on the hosting service. Each call is one request or a few: lists come in
pages of a hundred, labels are removed one by one, and a milestone is looked up by its title before
it is set. That something is not there is no failure where its absence is all that is wanted.
-/

namespace RepoRules.Rest

structure Api (τ : Type) where
  transport : Transport τ
  base : Url
  token : String
  repository : RepositoryRef

namespace Api

variable {τ : Type}

def jsonAccept : String := "application/vnd.github+json"

def rawAccept : String := "application/vnd.github.raw+json"

def apiVersion : String := "2022-11-28"

def noBase : Failure :=
  Failure.of .configuration "api base cannot be a base URL"

/-- The address of something under the base. -/
def urlUnder (base : Url) (segments : List String) : Except Failure Url :=
  match base.extend? segments with
  | some url => .ok url
  | none => .error noBase

def liftResult : Except Failure α → Exchange τ α
  | .ok value => return value
  | .error failure => throw failure

def repositoryUrl (api : Api τ) (segments : List String) : Exchange τ Url :=
  liftResult (urlUnder api.base (["repos", api.repository.owner, api.repository.name] ++ segments))

/-- The text with which a response explains its status. -/
def explanation (body : String) : String :=
  match ((Json.parse? body).bind (Json.field? "message")).bind Json.string? with
  | some message => message
  | none => String.ofList (body.toList.take 200)

def statusFailure (response : Response) : Failure :=
  let category : Category := match response.status with
    | 403 => .forbidden
    | 401 => .authentication
    | _ => .remote
  (Failure.of category
    ("github returned " ++ toString response.status ++ ": " ++ explanation response.body)).withCode
    ("GH-" ++ toString response.status)

def isNotFound (failure : Failure) : Bool :=
  failure.code == .named "GH-404"

/-- Sends a request; any response but a success is a failure. -/
def perform (api : Api τ) (method : Method) (url : Url) (accept : String) (body : Option Json) :
    Exchange τ Response := do
  let response ← send api.transport
    ⟨method, url, some accept, some apiVersion, some (.bearer api.token), body⟩
  if response.isSuccess then return response else throw (statusFailure response)

def getJson (api : Api τ) (segments : List String) : Exchange τ Json := do
  let url ← api.repositoryUrl segments
  let response ← api.perform .get url jsonAccept none
  liftResult (bodyAs (Decode.valueOf .ok) response)

def writeTo (api : Api τ) (method : Method) (segments : List String) (body : Json) :
    Exchange τ Unit := do
  let url ← api.repositoryUrl segments
  let _ ← api.perform method url jsonAccept (some body)

def unexpected (fault : Decode.Fault) : Failure :=
  Failure.of .serialization ("unexpected github response: " ++ fault.message)

def readAs (read : Json → Except Decode.Fault α) (value : Json) : Exchange τ α :=
  liftResult ((read value).mapError unexpected)

/-- The text of a file, or nothing if there is no such file. -/
def rulesFile (api : Api τ) (path : String) : Exchange τ (Option String) := do
  let url ← api.repositoryUrl ("contents" :: (Text.split path '/').filter (!·.isEmpty))
  let attempt : Exchange τ (Option String) := do
    let response ← api.perform .get url rawAccept none
    return some response.body
  tryCatch attempt fun failure => if isNotFound failure then return none else throw failure

def issue (api : Api τ) (number : Nat) : Exchange τ Item := do
  readAs Item.ofJson (← api.getJson ["issues", toString number])

def pullRequest (api : Api τ) (number : Nat) : Exchange τ Item := do
  let item ← readAs Item.ofJson (← api.getJson ["pulls", toString number])
  return { item with isPullRequest := true }

def comment (api : Api τ) (id : Nat) : Exchange τ Comment := do
  readAs Comment.ofJson (← api.getJson ["issues", "comments", toString id])

def pageSize : Nat := 100

def filePages : Nat := 30

def milestonePages : Nat := 10

def listPage (api : Api τ) (segments : List String) (pairs : List (String × String)) (page : Nat)
    (read : Decode.Reading α) : Exchange τ (List α) := do
  let url ← api.repositoryUrl segments
  let query := pairs ++ [("per_page", toString pageSize), ("page", toString page)]
  let url := query.foldl (fun url pair => url.addQuery pair.1 pair.2) url
  let response ← api.perform .get url jsonAccept none
  liftResult (bodyAs (Decode.listOf read) response)

def fileName : Decode.Reading String :=
  Decode.recordOf "GithubFile" [⟨"filename", .required, fun _ value => Decode.text value⟩] ""

/-- The files from a page on. A page that is not full is the last one. -/
def filesFrom (api : Api τ) (number : Nat) : (remaining page : Nat) → Exchange τ (List String)
  | 0, _ => return []
  | remaining + 1, page => do
      let batch ← api.listPage ["pulls", toString number, "files"] [] page fileName
      if batch.length < pageSize then return batch
      else return batch ++ (← filesFrom api number remaining (page + 1))

def changedFiles (api : Api τ) (number : Nat) : Exchange τ (List String) :=
  api.filesFrom number filePages 1

def milestone : Decode.Reading (Nat × String) :=
  Decode.recordOf "GithubMilestone"
    [⟨"number", .required, fun entry value => return (← Decode.natural value, entry.2)⟩,
      ⟨"title", .required, fun entry value => return (entry.1, ← Decode.text value)⟩] (0, "")

def noMilestone (api : Api τ) (title : String) : Failure :=
  (Failure.of .validation
    ("milestone '" ++ title ++ "' does not exist in " ++ api.repository.fullName)).withCode
    "GH-MILESTONE"

/-- The number of the first milestone with a title, from a page on. -/
def milestoneFrom (api : Api τ) (title : String) : (remaining page : Nat) → Exchange τ Nat
  | 0, _ => throw (api.noMilestone title)
  | remaining + 1, page => do
      let batch ← api.listPage ["milestones"] [("state", "all")] page milestone
      match batch.find? fun entry => Text.sameAsciiCase entry.2 title with
      | some entry => return entry.1
      | none =>
          if batch.length < pageSize then throw (api.noMilestone title)
          else milestoneFrom api title remaining (page + 1)

def milestoneNumber (api : Api τ) (title : String) : Exchange τ Nat :=
  api.milestoneFrom title milestonePages 1

def setMilestone (api : Api τ) (number : Nat) (title : Option String) : Exchange τ Unit := do
  let value : Json ← match title with
    | some title => do
        let found ← api.milestoneNumber title
        pure (.int found)
    | none => pure .null
  api.writeTo .patch ["issues", toString number] (Json.ofFields [("milestone", value)])

/-- Removes labels one after another; one that is not there is passed over. -/
def removeLabels (api : Api τ) (number : Nat) : List String → Exchange τ Unit
  | [] => return
  | label :: rest => do
      let url ← api.repositoryUrl ["issues", toString number, "labels", label]
      let attempt : Exchange τ Unit := do
        let _ ← api.perform .delete url jsonAccept none
      tryCatch attempt fun failure => if isNotFound failure then return else throw failure
      removeLabels api number rest

def addToProjectText : String :=
  "mutation($project: ID!, $content: ID!) \x7b addProjectV2ItemById(input: \x7bprojectId: $project, contentId: $content\x7d) \x7b item \x7b id \x7d \x7d \x7d"

def projectItemsText : String :=
  "query($content: ID!) \x7b node(id: $content) \x7b ... on Issue \x7b projectItems(first: 50) \x7b nodes \x7b id project \x7b id \x7d \x7d \x7d \x7d ... on PullRequest \x7b projectItems(first: 50) \x7b nodes \x7b id project \x7b id \x7d \x7d \x7d \x7d \x7d \x7d"

def deleteItemText : String :=
  "mutation($project: ID!, $item: ID!) \x7b deleteProjectV2Item(input: \x7bprojectId: $project, itemId: $item\x7d) \x7b deletedItemId \x7d \x7d"

/-- Sends a query with its variables and gives the data that come back. -/
def graphql (api : Api τ) (query : String) (arguments : List (String × String)) :
    Exchange τ Json := do
  let url ← liftResult (urlUnder api.base ["graphql"])
  let values := Json.ofFields (arguments.map fun entry => (entry.1, .string entry.2))
  let body := Json.ofFields [("query", .string query), ("variables", values)]
  let response ← api.perform .post url jsonAccept (some body)
  let value ← liftResult (bodyAs (Decode.valueOf .ok) response)
  match (value.field? "errors").filter (!·.isNull) with
  | some errors =>
      throw ((Failure.of .remote ("graphql request failed: " ++ errors.compact)).withCode
        "GH-GRAPHQL")
  | none => return (value.field? "data").getD .null

/-- The item under which some content stands in a project. -/
def projectItem? (data : Json) (project : String) : Option String := do
  let nodes ← (data.path? ["node", "projectItems", "nodes"]).bind Json.array?
  let node ← nodes.find? fun node =>
    (node.path? ["project", "id"]).bind Json.string? == some project
  (node.field? "id").bind Json.string?

def removeFromProject (api : Api τ) (content project : String) : Exchange τ Unit := do
  let data ← api.graphql projectItemsText [("content", content)]
  match projectItem? data project with
  | none => return
  | some item =>
      let _ ← api.graphql deleteItemText [("project", project), ("item", item)]

def people (name : String) (logins : List String) : Json :=
  Json.ofFields [(name, .strings logins)]

def write (api : Api τ) : Mutation → Exchange τ Unit
  | .addLabels number labels =>
      api.writeTo .post ["issues", toString number, "labels"] (people "labels" labels)
  | .removeLabels number labels => api.removeLabels number labels
  | .addAssignees number logins =>
      api.writeTo .post ["issues", toString number, "assignees"] (people "assignees" logins)
  | .removeAssignees number logins =>
      api.writeTo .delete ["issues", toString number, "assignees"] (people "assignees" logins)
  | .addReviewers number logins =>
      api.writeTo .post ["pulls", toString number, "requested_reviewers"]
        (people "reviewers" logins)
  | .removeReviewers number logins =>
      api.writeTo .delete ["pulls", toString number, "requested_reviewers"]
        (people "reviewers" logins)
  | .postComment number body =>
      api.writeTo .post ["issues", toString number, "comments"]
        (Json.ofFields [("body", .string body)])
  | .setMilestone number title => api.setMilestone number title
  | .addToProject content project => do
      let _ ← api.graphql addToProjectText [("project", project), ("content", content)]
  | .removeFromProject content project => api.removeFromProject content project

def answer (api : Api τ) : (call : Call) → Exchange τ call.Reply
  | .rulesFile path => api.rulesFile path
  | .issue number => api.issue number
  | .pullRequest number => api.pullRequest number
  | .comment id => api.comment id
  | .changedFiles number => api.changedFiles number
  | .write mutation => api.write mutation

def client (api : Api τ) : Client τ where
  repository := api.repository
  answer call state := (api.answer call).run.run state

end Api

end RepoRules.Rest
