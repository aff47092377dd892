import RepoRules.Rest.Api
import RepoRules.Rest.AppKey
import RepoRules.Rest.Token

/-!
The app that the service acts as. It signs for itself to learn which installation covers a
repository and to be given a token for it; with the token it acts as the installation.
-/

namespace RepoRules.Rest

structure App where
  id : Nat
  base : Url
  key : AppKey

structure AppState (τ : Type) where
  transport : τ
  tokens : TokenCache

namespace App

variable {τ : Type}

/-- How long the word of an app holds, from a minute ago on: ten minutes in all. -/
def claims (app : App) : AppClaims :=
  ⟨toString app.id, 600⟩

def notInstalled (status : Nat) : Failure :=
  Failure.of .forbidden
    ("app is not installed for this repository (" ++ toString status ++ ")")

def request (app : App) (transport : Transport τ) (method : Method) (segments : List String)
    (read : Decode.Reading α) : Exchange τ α := do
  let url ← Api.liftResult (Api.urlUnder app.base segments)
  Api.liftResult app.key.signing
  let response ← send transport
    ⟨method, url, some Api.jsonAccept, none, some (.app app.claims), none⟩
  if response.status = 404 ∨ response.status = 403 then throw (notInstalled response.status)
  Api.liftResult ((withoutFault response).bind (bodyAs read))

def installationId : Decode.Reading Nat :=
  Decode.recordOf "Installation" [⟨"id", .required, fun _ value => Decode.natural value⟩] 0

/-- The installation that covers a repository. -/
def installationFor (app : App) (transport : Transport τ) (repository : RepositoryRef) :
    Exchange τ Nat :=
  app.request transport .get ["repos", repository.owner, repository.name, "installation"]
    installationId

def instant (value : Json) : Except Decode.Fault Instant := do
  let text ← Decode.text value
  match Instant.parse? text with
  | some instant => return instant
  | none => throw (.wrongValue (.string text) "a date and a time")

def token : Decode.Reading Token :=
  Decode.recordOf "InstallationToken"
    [⟨"token", .required, fun token value => return { token with value := ← Decode.text value }⟩,
      ⟨"expires_at", .required, fun token value => return { token with expiry := ← instant value }⟩]
    ⟨"", ⟨0, 0⟩⟩

def newToken (app : App) (transport : Transport τ) (installation : Nat) : Exchange τ Token :=
  app.request transport .post
    ["app", "installations", toString installation, "access_tokens"] token

/-- The token of an installation, a new one only if there is none that can be used. -/
def installationToken (app : App) (transport : Transport τ) (now : Instant) (installation : Nat) :
    Exchange (AppState τ) String := do
  let state ← get
  let refresh : StateM τ (Except Failure Token) := (app.newToken transport installation).run
  let ((result, tokens), after) :=
    (state.tokens.getOrRefresh installation now refresh).run state.transport
  set ({ transport := after, tokens } : AppState τ)
  Api.liftResult result

/-- Takes steps that need the transport only. -/
def onTransport (steps : Exchange τ α) : Exchange (AppState τ) α := do
  let state ← get
  let (result, after) := steps.run.run state.transport
  set { state with transport := after }
  Api.liftResult result

def withTokens (client : Client τ) : Client (AppState τ) where
  repository := client.repository
  answer call state :=
    let (reply, after) := client.answer call state.transport
    (reply, { state with transport := after })

/-- The client of a repository, through the installation that is named or else looked up. -/
def clientFor (app : App) (transport : Transport τ) (now : Instant) (installation : Option Nat)
    (repository : RepositoryRef) : Exchange (AppState τ) (Client (AppState τ)) := do
  let installation : Nat ← match installation with
    | some id => pure id
    | none => onTransport (app.installationFor transport repository)
  let token ← app.installationToken transport now installation
  return withTokens (Api.client ⟨transport, app.base, token, repository⟩)

end App

end RepoRules.Rest
