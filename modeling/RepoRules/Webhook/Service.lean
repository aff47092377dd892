import RepoRules.Json.Reader
import RepoRules.Net.SocketAddress
import RepoRules.Run.Delivery
import RepoRules.Webhook.Rejection

/-!
The service behind the listener: it takes in deliveries and says that it is well. A delivery reaches
the engine only after its signature has been checked.
-/

namespace RepoRules.Webhook

structure Options where
  secret : String
  maxBodyBytes : Nat
  verboseErrors : Bool
deriving Repr, DecidableEq

def Options.secretMissing : Failure :=
  (Failure.of .configuration "webhook secret must be set to start the listener").withCode
    "RULEBOT-WEBHOOK-000"

/-- The listener does not start with a blank secret. -/
def Options.check (options : Options) : Except Failure Unit :=
  if Text.isBlankText options.secret then .error Options.secretMissing else .ok ()

/-- Whether the listener starts at an address. -/
def Options.listen (options : Options) (address : SocketAddress) : Except Failure Unit := do
  options.check
  if !address.isOwn then
    throw (Failure.of .io ("failed to bind webhook listener " ++ address.text ++
      ": Cannot assign requested address (os error 99)"))

/-- What is to be done about a request that has a valid signature. -/
inductive Admission where
  | deliver (delivery : Delivery)
  /-- There are no rules for events of this name. -/
  | ignore (event : String)

/-- The payload in a body. -/
def payload (body : Bytes) : Except Rejection Json :=
  match (Bytes.text? body).bind Json.parse? with
  | none => .error (.badRequest "invalid JSON payload")
  | some value =>
      if value.isObject then .ok value else .error (.badRequest "payload must be a JSON object")

/-- Reads a delivery that has been signed. A delivery without a name of its own stays unnamed. -/
def readDelivery (request : Request) : Except Rejection Admission :=
  match request.header? "x-github-event" with
  | none => .error (.badRequest "missing event header")
  | some event =>
      match EventKind.ofName? event with
      | none => .ok (.ignore event)
      | some kind =>
          (payload request.body).map fun value =>
            .deliver ⟨kind, value, request.header? "x-github-delivery"⟩

/-- Checks the signature and reads the delivery. -/
def accept (options : Options) (request : Request) : Except Rejection Admission :=
  if request.holdsTooMuch options.maxBodyBytes then .error .tooLarge
  else
    match Signature.check options.secret request.body (request.header? "x-hub-signature-256") with
    | .error fault => .error (.ofSignature fault)
    | .ok () => readDelivery request

/-- The answer to a delivery that was handled. A run on which something failed is rejected. -/
def outcomeResponse (outcome : Outcome) : Response :=
  if outcome.status = .failed then
    (Rejection.badRequest (outcome.failure.getD "action-set failed")).response
  else .json 200 outcome.toJson

variable {σ : Type}

/-- Takes in a delivery. -/
def receive (engine : Engine σ) (options : Options) (request : Request) :
    StateM (RunState σ Unit) Response := do
  match accept options request with
  | .error rejection => return rejection.response
  | .ok (.ignore event) =>
      return .json 200 (Json.ofFields [("status", .string "ignored"), ("event", .string event)])
  | .ok (.deliver delivery) =>
      match ← (engine.handle delivery).run with
      | .ok outcome => return outcomeResponse outcome
      | .error failure => return (Rejection.ofFailure options.verboseErrors failure).response

/-- What the service offers. -/
inductive Route where
  | deliveries
  | health
deriving Repr, DecidableEq

def Route.ofPath? : String → Option Route
  | "/api/webhook" => some .deliveries
  | "/healthz" => some .health
  | _ => none

/-- Answers a request for something that the service offers. -/
def serve (engine : Engine σ) (options : Options) (route : Route) (request : Request) :
    StateM (RunState σ Unit) Response := do
  match route, request.method with
  | .deliveries, "POST" => receive engine options request
  | .health, "GET" | .health, "HEAD" => return .text "ok"
  | _, _ => return .empty 405

/-- Answers a request. A body that is declared too long is refused wherever it is sent, and what the
service offers is sent without a body if only the head is asked for. -/
def answer (engine : Engine σ) (options : Options) (request : Request) :
    StateM (RunState σ Unit) Response := do
  let refused := request.declaresTooMuch options.maxBodyBytes
  match Route.ofPath? request.path with
  | none => return if refused then Rejection.tooLarge.response else .empty 404
  | some route =>
      let response ←
        if refused then pure Rejection.tooLarge.response else serve engine options route request
      return if request.method = "HEAD" then response.withoutBody else response

end RepoRules.Webhook
