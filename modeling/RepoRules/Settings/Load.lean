import RepoRules.Failure
import RepoRules.Files.Access
import RepoRules.Settings.Basic
import RepoRules.Text.Ascii
import RepoRules.Text.Blank

/-!
Where settings come from. A variable of the environment wins over the configuration file, and the
file over the default. The key of the app may be in a file of its own, which is read only if no key
has been given otherwise.
-/

namespace RepoRules

abbrev Environment := String → Option String

def Environment.documentation : List (String × String) :=
  [("RULEBOT_APP_ID", "GitHub App id"),
    ("RULEBOT_APP_KEY", "GitHub App private key (PEM)"),
    ("RULEBOT_API_BASE", "GitHub API base URL (default: https://api.github.com)"),
    ("RULEBOT_WEBHOOK_SECRET", "Shared webhook HMAC secret"),
    ("RULEBOT_BIND", "Webhook listener address (default: 127.0.0.1:7070)"),
    ("RULEBOT_DRY_RUN", "Log mutations instead of sending them (true/false)"),
    ("RULEBOT_VERBOSE_ERRORS", "Include error detail in responses (true/false)"),
    ("RULEBOT_USE_LOCAL_RULES", "Read rules from a local file (true/false)"),
    ("RULEBOT_LOCAL_RULES_PATH", "Local rules file (default: .github/rulebot.yml)"),
    ("RULEBOT_LOG_DIR", "Directory for the log file")]

namespace Settings

def defaultFile : String := "rulebot.toml"

/-- A flag is on for `1`, `true` and `yes`, off for `0`, `false` and `no`, and not given by any
other text. -/
def flag? (text : String) : Option Bool :=
  match Text.asciiLower (Text.trim text) with
  | "1" | "true" | "yes" => some true
  | "0" | "false" | "no" => some false
  | _ => none

def appId? (text : String) : Option Nat :=
  Text.natural? (Text.trim text)

/-- A key of blanks only is none. -/
def key? (text : String) : Option String :=
  if Text.isBlankText text then none else some text

def override (environment : Environment) (settings : Settings) : Settings where
  hosting :=
    { settings.hosting with
      appId := ((environment "RULEBOT_APP_ID").bind appId?).or settings.hosting.appId
      appKey := ((environment "RULEBOT_APP_KEY").bind key?).or settings.hosting.appKey
      apiBase := (environment "RULEBOT_API_BASE").getD settings.hosting.apiBase }
  webhook :=
    { settings.webhook with
      secret := (environment "RULEBOT_WEBHOOK_SECRET").or settings.webhook.secret
      address := (environment "RULEBOT_BIND").getD settings.webhook.address }
  engine :=
    { settings.engine with
      dryRun := ((environment "RULEBOT_DRY_RUN").bind flag?).getD settings.engine.dryRun
      verboseErrors :=
        ((environment "RULEBOT_VERBOSE_ERRORS").bind flag?).getD settings.engine.verboseErrors
      useLocalRules :=
        ((environment "RULEBOT_USE_LOCAL_RULES").bind flag?).getD settings.engine.useLocalRules
      localRulesPath :=
        (environment "RULEBOT_LOCAL_RULES_PATH").getD settings.engine.localRulesPath }

variable {m : Type → Type} [Monad m]

def ofFile (access : Files.Access m) (path : String) : m (Except Failure Settings) := do
  if !(← access.isThere (.ofText path)) then return .ok default
  match ← access.read path with
  | .error reason =>
      return .error (Failure.of .io ("Failed to read config file " ++ path ++ ": " ++ reason))
  | .ok text =>
      match ofToml? text with
      | some settings => return .ok settings
      | none =>
          return .error
            (Failure.of .configuration ("Failed to parse config file " ++ path ++ ": <toml>"))

/-- The settings with the key of the app, which is read from its file if it has not been given. -/
def withKey (access : Files.Access m) (settings : Settings) : m (Except Failure Settings) := do
  match settings.hosting.appKey, settings.hosting.appKeyPath with
  | none, some path =>
      match ← access.read path with
      | .error reason =>
          return .error (Failure.of .io ("Failed to read app key " ++ path ++ ": " ++ reason))
      | .ok key =>
          return .ok { settings with hosting := { settings.hosting with appKey := some key } }
  | _, _ => return .ok settings

def load (access : Files.Access m) (environment : Environment) (file : Option String) :
    m (Except Failure Settings) := do
  match ← ofFile access (file.getD defaultFile) with
  | .error failure => return .error failure
  | .ok settings => withKey access (settings.override environment)

end Settings

end RepoRules
