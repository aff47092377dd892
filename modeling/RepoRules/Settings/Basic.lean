import RepoRules.Decode.Record
import RepoRules.Rules.Document
import RepoRules.Toml.Document

/-!
The settings of the service, with their defaults, and how they are read from a configuration file.
The file has a section for each group; what it leaves out keeps its default, and what it has
besides is passed over.
-/

namespace RepoRules

structure HostingSettings where
  appId : Option Nat
  appKey : Option String
  appKeyPath : Option String
  apiBase : String
  /-- How many seconds before its end a token is no longer used. -/
  tokenMargin : Nat
deriving Repr, DecidableEq

structure WebhookSettings where
  /-- The address to listen at. -/
  address : String
  secret : Option String
  maxBodyBytes : Nat
deriving Repr, DecidableEq

structure EngineSettings where
  dryRun : Bool
  verboseErrors : Bool
  /-- Whether the rules come from a file on the machine. -/
  useLocalRules : Bool
  localRulesPath : String
  /-- For how many seconds a page may keep the service waiting. -/
  pageTimeout : Nat
deriving Repr, DecidableEq

structure Settings where
  hosting : HostingSettings
  webhook : WebhookSettings
  engine : EngineSettings
deriving Repr, DecidableEq

namespace Settings

def default : Settings where
  hosting := ⟨none, none, none, "https://api.github.com", 300⟩
  webhook := ⟨"127.0.0.1:7070", none, 5242880⟩
  engine := ⟨false, false, false, RuleDocument.filePath, 10⟩

open Decode

/-- Reads a section. Of a list only the items for which there are fields count. -/
def readSection (name : String) (fields : List (RecordField α)) (start : α) : Json → Except Fault α
  | .array items => record name fields start (.array (items.take fields.length))
  | value => record name fields start value

/-- A field that keeps its default when it is left out. -/
def field (name : String) (read : Json → Except Fault β) (enter : α → β → α) : RecordField α :=
  ⟨name, .defaulted, fun settings value => return enter settings (← read value)⟩

def hostingFields : List (RecordField HostingSettings) :=
  [field "app_id" natural fun settings id => { settings with appId := some id },
    field "app_key" text fun settings key => { settings with appKey := some key },
    field "app_key_path" text fun settings path => { settings with appKeyPath := some path },
    field "api_base" text fun settings base => { settings with apiBase := base },
    field "token_refresh_margin_seconds" natural fun settings margin =>
      { settings with tokenMargin := margin }]

def webhookFields : List (RecordField WebhookSettings) :=
  [field "bind" text fun settings address => { settings with address },
    field "secret" text fun settings secret => { settings with secret := some secret },
    field "max_body_bytes" natural fun settings count => { settings with maxBodyBytes := count }]

def engineFields : List (RecordField EngineSettings) :=
  [field "dry_run" flag fun settings dryRun => { settings with dryRun },
    field "verbose_errors" flag fun settings verboseErrors => { settings with verboseErrors },
    field "use_local_rules" flag fun settings useLocalRules => { settings with useLocalRules },
    field "local_rules_path" text fun settings path => { settings with localRulesPath := path },
    field "page_timeout_seconds" natural fun settings seconds =>
      { settings with pageTimeout := seconds }]

def fields : List (RecordField Settings) :=
  [field "github" (readSection "github" hostingFields default.hosting)
      fun settings hosting => { settings with hosting },
    field "webhook" (readSection "webhook" webhookFields default.webhook)
      fun settings webhook => { settings with webhook },
    field "engine" (readSection "engine" engineFields default.engine)
      fun settings engine => { settings with engine }]

def ofToml? (text : String) : Option Settings := do
  let table ← Toml.parse? text
  (readSection "settings" fields default table.value.toJson).toOption

end Settings

end RepoRules
