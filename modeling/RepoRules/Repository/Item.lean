import RepoRules.Decode.Record
import RepoRules.Text.Ascii

/-!
Issues, pull requests and comments as rules see them, and how they are read from the objects that
the hosting service sends.
-/

namespace RepoRules

structure Item where
  number : Nat
  nodeId : String
  title : String
  body : String
  state : String
  author : String
  labels : List String
  assignees : List String
  milestone : Option String
  url : String
  isPullRequest : Bool
  draft : Bool
  merged : Bool
  requestedReviewers : List String
deriving Repr, DecidableEq

structure Comment where
  id : Nat
  nodeId : String
  body : String
  author : String
deriving Repr, DecidableEq

open Decode (Fault RecordField)

def loginOf (value : Json) : Except Fault String :=
  Decode.record "GithubLogin" [⟨"login", .required, fun _ value => Decode.text value⟩] "" value

namespace Item

def labelName (value : Json) : Except Fault String :=
  Decode.record "GithubLabel" [⟨"name", .required, fun _ value => Decode.text value⟩] "" value

/-- A milestone must have a number, but only its title is of use. -/
def milestoneTitle (value : Json) : Except Fault String :=
  Decode.record "GithubMilestone"
    [⟨"number", .required, fun title value => (Decode.natural value).map fun _ => title⟩,
      ⟨"title", .required, fun _ value => Decode.text value⟩] "" value

/-- An object with a `pull_request` or a `diff_url` is a pull request. -/
def fields : List (RecordField Item) :=
  [⟨"number", .required, fun item value => return { item with number := ← Decode.natural value }⟩,
    ⟨"node_id", .defaulted, fun item value => return { item with nodeId := ← Decode.text value }⟩,
    ⟨"title", .defaulted, fun item value => return { item with title := ← Decode.text value }⟩,
    ⟨"body", .defaulted, fun item value => do
      return { item with body := (← Decode.optional Decode.text value).getD "" }⟩,
    ⟨"state", .defaulted, fun item value => return { item with state := ← Decode.text value }⟩,
    ⟨"user", .optional, fun item value => do
      return { item with author := (← Decode.optional loginOf value).getD "" }⟩,
    ⟨"labels", .defaulted, fun item value => do
      return { item with labels := ← Decode.list labelName value }⟩,
    ⟨"assignees", .defaulted, fun item value => do
      return { item with assignees := ← Decode.list loginOf value }⟩,
    ⟨"milestone", .optional, fun item value => do
      return { item with milestone := ← Decode.optional milestoneTitle value }⟩,
    ⟨"html_url", .defaulted, fun item value => return { item with url := ← Decode.text value }⟩,
    ⟨"pull_request", .optional, fun item value => do
      return { item with isPullRequest := item.isPullRequest || !value.isNull }⟩,
    ⟨"diff_url", .optional, fun item value => do
      let url ← Decode.optional Decode.text value
      return { item with isPullRequest := item.isPullRequest || url.isSome }⟩,
    ⟨"draft", .defaulted, fun item value => return { item with draft := ← Decode.flag value }⟩,
    ⟨"merged", .defaulted, fun item value => return { item with merged := ← Decode.flag value }⟩,
    ⟨"requested_reviewers", .defaulted, fun item value => do
      return { item with requestedReviewers := ← Decode.list loginOf value }⟩]

def blank : Item :=
  ⟨0, "", "", "", "", "", [], [], none, "", false, false, false, []⟩

def ofJson (value : Json) : Except Fault Item :=
  Decode.record "GithubItem" fields blank value

def toJson (item : Item) : Json :=
  Json.ofFields
    [("number", .int item.number), ("node_id", .string item.nodeId), ("title", .string item.title),
      ("body", .string item.body), ("state", .string item.state), ("author", .string item.author),
      ("labels", .strings item.labels), ("assignees", .strings item.assignees),
      ("milestone", .ofOption .string item.milestone), ("html_url", .string item.url),
      ("is_pull_request", .bool item.isPullRequest), ("draft", .bool item.draft),
      ("merged", .bool item.merged),
      ("requested_reviewers", .strings item.requestedReviewers)]

/-- Labels are compared without the case of ASCII letters. -/
def hasLabel (item : Item) (label : String) : Bool :=
  Text.containsAsciiCase item.labels label

end Item

namespace Comment

def fields : List (RecordField Comment) :=
  [⟨"id", .required, fun comment value => return { comment with id := ← Decode.natural value }⟩,
    ⟨"node_id", .defaulted, fun comment value => do
      return { comment with nodeId := ← Decode.text value }⟩,
    ⟨"body", .defaulted, fun comment value => do
      return { comment with body := (← Decode.optional Decode.text value).getD "" }⟩,
    ⟨"user", .optional, fun comment value => do
      return { comment with author := (← Decode.optional loginOf value).getD "" }⟩]

def ofJson (value : Json) : Except Fault Comment :=
  Decode.record "GithubComment" fields ⟨0, "", "", ""⟩ value

def toJson (comment : Comment) : Json :=
  Json.ofFields
    [("id", .int comment.id), ("node_id", .string comment.nodeId), ("body", .string comment.body),
      ("author", .string comment.author)]

end Comment

end RepoRules
