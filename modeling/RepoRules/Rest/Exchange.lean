import RepoRules.Decode.Record
import RepoRules.Failure
import RepoRules.Json.Writer
import RepoRules.Net.Url

/-!
Requests to the hosting service and the responses. A transport sends them; that it cannot, that a
response reports an error, and that its body is not what was asked for, are failures of one kind.
-/

namespace RepoRules.Rest

inductive Method where
  | get
  | post
  | patch
  | delete
deriving Repr, DecidableEq

def Method.name : Method → String
  | .get => "GET"
  | .post => "POST"
  | .patch => "PATCH"
  | .delete => "DELETE"

/-- What an app says of itself: who it is, and for how many seconds its word holds. -/
structure AppClaims where
  issuer : String
  lifetime : Nat
deriving Repr, DecidableEq

inductive Credential where
  | bearer (token : String)
  | app (claims : AppClaims)
deriving Repr, DecidableEq

structure Request where
  method : Method
  url : Url
  accept : Option String
  /-- The version of the interface that is asked for. -/
  apiVersion : Option String
  credential : Option Credential
  body : Option Json

structure Response where
  status : Nat
  body : String
deriving Repr, DecidableEq

def Response.isSuccess (response : Response) : Bool :=
  200 ≤ response.status && response.status < 300

/-- A response that reports a fault of the sender or of the server. -/
def Response.isFault (response : Response) : Bool :=
  400 ≤ response.status && response.status < 600

/-- Sends requests; a request that gets no response fails with a text. -/
structure Transport (τ : Type) where
  send : Request → τ → Except String Response × τ

/-- Exchanges over a transport whose state is of type `τ`. -/
abbrev Exchange (τ : Type) := ExceptT Failure (StateM τ)

def httpFailure (status : Option Nat) (message : String) : Failure :=
  let category : Category := match status with
    | some 403 => .forbidden
    | some 401 => .authentication
    | _ => .remote
  ((Failure.of category message).withCode "HTTP_ERROR").withSource message

variable {τ : Type}

def send (transport : Transport τ) (request : Request) : Exchange τ Response := do
  let (result, after) := transport.send request (← get)
  set after
  match result with
  | .ok response => return response
  | .error message => throw (httpFailure none message)

/-- The response, unless it reports a fault. -/
def withoutFault (response : Response) : Except Failure Response :=
  if response.isFault then
    .error (httpFailure (some response.status) ("HTTP status " ++ toString response.status))
  else .ok response

/-- That a body is not what was asked for. -/
def undecoded (fault : Option Decode.Fault) : Failure :=
  httpFailure none
    ("error decoding response body" ++ (fault.elim "" fun fault => ": " ++ fault.message))

/-- What is read from the body of a response. -/
def bodyAs (read : Decode.Reading α) (response : Response) : Except Failure α :=
  match Json.Written.ofText? response.body with
  | none => .error (undecoded none)
  | some written => (read written).mapError undecoded

/-- Fetches a page for its text. -/
def fetchPage (transport : Transport τ) (address : String) : Exchange τ String := do
  match Url.parse address with
  | .error fault => throw (httpFailure none ("builder error: " ++ fault.message))
  | .ok url =>
      let response ← send transport ⟨.get, url, none, none, none, none⟩
      match withoutFault response with
      | .ok response => return response.body
      | .error failure => throw failure

end RepoRules.Rest
