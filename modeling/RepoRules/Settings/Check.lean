import RepoRules.Failure
import RepoRules.Net.SocketAddress
import RepoRules.Net.Url
import RepoRules.Settings.Basic
import RepoRules.Text.Blank

/-!
What settings must be like before they are used. Evaluating payloads offline needs a valid address
of the hosting service only; serving needs all that a listener and the app need.
-/

namespace RepoRules.Settings

def invalid (message : String) : Failure :=
  (Failure.of .configuration message).withCode "CFG-INVALID"

/-- Refuses settings unless a condition holds. -/
def require (condition : Bool) (message : String) : Except Failure Unit :=
  if condition then .ok () else .error (invalid message)

def checkOffline (settings : Settings) : Except Failure Unit :=
  match Url.parse settings.hosting.apiBase with
  | .ok _ => .ok ()
  | .error fault => .error (invalid ("github.api_base is not a valid URL: " ++ fault.message))

def checkServing (settings : Settings) : Except Failure Unit := do
  settings.checkOffline
  require (SocketAddress.parse? settings.webhook.address).isSome
    ("webhook.bind '" ++ settings.webhook.address ++ "' is invalid: invalid socket address syntax")
  require (!settings.webhook.secret.all Text.isBlankText)
    "webhook secret is required to serve (RULEBOT_WEBHOOK_SECRET)"
  require (settings.webhook.maxBodyBytes != 0) "webhook.max_body_bytes must be greater than zero"
  require (settings.hosting.appId.isSome && settings.hosting.appKey.isSome)
    "github.app_id and an app key are required (RULEBOT_APP_ID, RULEBOT_APP_KEY)"

end RepoRules.Settings
