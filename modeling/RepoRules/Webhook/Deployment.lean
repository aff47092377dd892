import RepoRules.Rest.App
import RepoRules.Settings.Check
import RepoRules.Webhook.Service

/-!
The service as it is set up from its settings: the app that it acts as, what it listens to, and the
engine that handles what comes in.
-/

namespace RepoRules.Webhook

structure Deployment where
  app : Rest.App
  /-- How many seconds before its end a token is no longer used. -/
  margin : Int
  options : Options
  address : SocketAddress
  dryRun : Bool
  /-- The file that the rules come from, if they do not come from the repositories. -/
  localRules : Option String

/-- Why settings cannot be put to use. A margin that is out of range is not reported by the program,
which stops there; its text stands for that. -/
inductive DeploymentFault where
  | failed (failure : Failure)
  | missingAppId
  | missingAppKey
  | invalidBase (base : String) (fault : UrlFault)
  | invalidAddress (address : String)
  | invalidMargin

def DeploymentFault.text : DeploymentFault → String
  | .failed failure => failure.display
  | .missingAppId => "github.app_id is required"
  | .missingAppKey => "an app private key is required"
  | .invalidBase base fault => "invalid github.api_base " ++ base ++ ": " ++ fault.message
  | .invalidAddress address =>
      "invalid webhook.bind " ++ address ++ ": invalid socket address syntax"
  | .invalidMargin => "github.token_refresh_margin_seconds is out of range"

namespace Deployment

def required (value : Option α) (fault : DeploymentFault) : Except DeploymentFault α :=
  match value with
  | some value => .ok value
  | none => .error fault

/-- Sets the service up from settings that have been checked. -/
def ofSettings (settings : Settings) : Except DeploymentFault Deployment := do
  let id ← required settings.hosting.appId .missingAppId
  let key ← required settings.hosting.appKey .missingAppKey
  let base ← (Url.parse settings.hosting.apiBase).mapError
    (.invalidBase settings.hosting.apiBase)
  let margin ← required (Rest.TokenCache.marginOf? settings.hosting.tokenMargin) .invalidMargin
  let key ← (AppKey.parse key).mapError .failed
  let address ← required (SocketAddress.parse? settings.webhook.address)
    (.invalidAddress settings.webhook.address)
  let options : Options :=
    ⟨settings.webhook.secret.getD "", settings.webhook.maxBodyBytes, settings.engine.verboseErrors⟩
  return ⟨⟨id, base, key⟩, margin, options, address, settings.engine.dryRun,
    if settings.engine.useLocalRules then some settings.engine.localRulesPath else none⟩

/-- Checks settings, sets the service up and starts to listen. -/
def start (settings : Settings) : Except DeploymentFault Deployment := do
  settings.checkServing.mapError .failed
  let deployment ← ofSettings settings
  (deployment.options.listen deployment.address).mapError .failed
  return deployment

/-- The engine, with what its file of rules holds now. -/
def engine (deployment : Deployment) (transport : Rest.Transport τ) (now : Instant)
    (page : String → Option String) (content : Except String String)
    (queries : QueryEngine) : Engine (Rest.AppState τ) where
  clientFor installation repository state :=
    let (client, after) :=
      (deployment.app.clientFor transport now installation repository).run.run state
    (client.map fun client => if deployment.dryRun then client.readOnly else client, after)
  page := page
  rules := match deployment.localRules with
    | some path => .localFile path content
    | none => .repository
  queries := queries

end Deployment

end RepoRules.Webhook
