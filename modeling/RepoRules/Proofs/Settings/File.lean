import RepoRules.Proofs.Decode.Records
import RepoRules.Settings.Basic

/-!
The settings one by one, and what a configuration file says of each. A setting that the file says
nothing of keeps its default.
-/

namespace RepoRules

namespace Toml

open Json (Sorted)

mutual

theorem sorted_of_value : ∀ value : Value, value.toJson.Sorted
  | .text _ | .integer _ | .float _ | .flag _ => .scalar rfl rfl
  | .moment => .object .nil (List.forall_mem_nil _)
  | .array items => .array (sorted_of_list items)
  | .table _ entries => Json.sorted_of_fields (sorted_of_entries entries)
  | .tables items => .array (sorted_of_tables items)

theorem sorted_of_list : ∀ items : List Value, ∀ item ∈ listToJson items, item.Sorted
  | [] => List.forall_mem_nil _
  | item :: rest => List.forall_mem_cons.2 ⟨sorted_of_value item, sorted_of_list rest⟩

theorem sorted_of_entries :
    ∀ entries : List (String × Value), ∀ field ∈ entriesToJson entries, field.2.Sorted
  | [] => List.forall_mem_nil _
  | (_, value) :: rest => List.forall_mem_cons.2 ⟨sorted_of_value value, sorted_of_entries rest⟩

theorem sorted_of_tables :
    ∀ items : List (List (String × Value)), ∀ item ∈ tablesToJson items, item.Sorted
  | [] => List.forall_mem_nil _
  | entries :: rest =>
      List.forall_mem_cons.2
        ⟨Json.sorted_of_fields (sorted_of_entries entries), sorted_of_tables rest⟩

end

end Toml

inductive Setting where
  | appId
  | appKey
  | appKeyPath
  | apiBase
  | tokenMargin
  | address
  | secret
  | maxBodyBytes
  | dryRun
  | verboseErrors
  | useLocalRules
  | localRulesPath
  | pageTimeout
deriving DecidableEq

namespace Setting

def Value : Setting → Type
  | .appId => Option Nat
  | .appKey | .appKeyPath | .secret => Option String
  | .apiBase | .address | .localRulesPath => String
  | .tokenMargin | .maxBodyBytes | .pageTimeout => Nat
  | .dryRun | .verboseErrors | .useLocalRules => Bool

def get : (setting : Setting) → Settings → setting.Value
  | .appId, settings => settings.hosting.appId
  | .appKey, settings => settings.hosting.appKey
  | .appKeyPath, settings => settings.hosting.appKeyPath
  | .apiBase, settings => settings.hosting.apiBase
  | .tokenMargin, settings => settings.hosting.tokenMargin
  | .address, settings => settings.webhook.address
  | .secret, settings => settings.webhook.secret
  | .maxBodyBytes, settings => settings.webhook.maxBodyBytes
  | .dryRun, settings => settings.engine.dryRun
  | .verboseErrors, settings => settings.engine.verboseErrors
  | .useLocalRules, settings => settings.engine.useLocalRules
  | .localRulesPath, settings => settings.engine.localRulesPath
  | .pageTimeout, settings => settings.engine.pageTimeout

theorem ext {settings other : Settings}
    (same : ∀ setting : Setting, setting.get settings = setting.get other) : settings = other := by
  obtain ⟨⟨_, _, _, _, _⟩, ⟨_, _, _⟩, ⟨_, _, _, _, _⟩⟩ := settings
  obtain ⟨⟨_, _, _, _, _⟩, ⟨_, _, _⟩, ⟨_, _, _, _, _⟩⟩ := other
  cases same .appId
  cases same .appKey
  cases same .appKeyPath
  cases same .apiBase
  cases same .tokenMargin
  cases same .address
  cases same .secret
  cases same .maxBodyBytes
  cases same .dryRun
  cases same .verboseErrors
  cases same .useLocalRules
  cases same .localRulesPath
  cases same .pageTimeout
  rfl

def group : Setting → String
  | .appId | .appKey | .appKeyPath | .apiBase | .tokenMargin => "github"
  | .address | .secret | .maxBodyBytes => "webhook"
  | .dryRun | .verboseErrors | .useLocalRules | .localRulesPath | .pageTimeout => "engine"

/-- The place of a setting in its section, where that is written as a list. -/
def place : Setting → Nat
  | .appId | .address | .dryRun => 0
  | .appKey | .secret | .verboseErrors => 1
  | .appKeyPath | .maxBodyBytes | .useLocalRules => 2
  | .apiBase | .localRulesPath => 3
  | .tokenMargin | .pageTimeout => 4

def name : Setting → String
  | .appId => "app_id"
  | .appKey => "app_key"
  | .appKeyPath => "app_key_path"
  | .apiBase => "api_base"
  | .tokenMargin => "token_refresh_margin_seconds"
  | .address => "bind"
  | .secret => "secret"
  | .maxBodyBytes => "max_body_bytes"
  | .dryRun => "dry_run"
  | .verboseErrors => "verbose_errors"
  | .useLocalRules => "use_local_rules"
  | .localRulesPath => "local_rules_path"
  | .pageTimeout => "page_timeout_seconds"

def written? (setting : Setting) (document : Json) : Option Json :=
  (document.field? setting.group).bind (Decode.held? setting.place setting.name)

/-- What a value in a configuration file gives. -/
def Takes : (setting : Setting) → Json → setting.Value → Prop
  | .appId, value, id => ∃ number : Nat, value = .int number ∧ id = some number
  | .appKey, value, held | .appKeyPath, value, held | .secret, value, held =>
      ∃ text, value = .string text ∧ held = some text
  | .apiBase, value, text | .address, value, text | .localRulesPath, value, text =>
      value = .string text
  | .tokenMargin, value, number | .maxBodyBytes, value, number | .pageTimeout, value, number =>
      value = .int (Int.ofNat number)
  | .dryRun, value, flag | .verboseErrors, value, flag | .useLocalRules, value, flag =>
      value = .bool flag

end Setting

namespace Settings

open Decode

variable {α β γ : Type}

theorem field_eq_ok {name : String} {read : Json → Except Fault γ} {enter : α → γ → α}
    {before after : α} {value : Json}
    (taken : (field name read enter).read before value = .ok after) :
    ∃ made, read value = .ok made ∧ enter before made = after := by
  obtain ⟨made, read, entered⟩ := bind_eq_ok taken
  cases entered
  exact ⟨made, read, rfl⟩

/-- One more field of another name that leaves alone what the view shows. -/
theorem beside_cons {fields : List (RecordField α)} {name other : String}
    {read : Json → Except Fault γ} {enter : α → γ → α} {view : α → β} (differs : other ≠ name)
    (same : ∀ before made, view (enter before made) = view before)
    (rest : ∀ field ∈ fields, field.name ≠ name ∧ Spares view field) :
    ∀ own ∈ field other read enter :: fields, own.name ≠ name ∧ Spares view own := by
  refine List.forall_mem_cons.2 ⟨⟨differs, fun before value after taken => ?_⟩, rest⟩
  obtain ⟨made, _, rfl⟩ := field_eq_ok taken
  exact same before made

theorem shows_of_field {fields : List (RecordField α)} {place : Nat} {name : String}
    {read : Json → Except Fault γ} {enter : α → γ → α} {view : α → β} {takes : Json → β → Prop}
    (known : fields[place]? = some (field name read enter))
    (enters : ∀ before value made, read value = .ok made → takes value (view (enter before made)))
    (beside : ∀ other ∈ fields.eraseIdx place, other.name ≠ name ∧ Spares view other) :
    Shows fields place name view takes := by
  refine ⟨field name read enter, known, rfl, fun before value after taken => ?_, beside⟩
  obtain ⟨made, read, rfl⟩ := field_eq_ok taken
  exact enters before value made read

/-- Of a list that is read as a section only the items count for which there are fields. -/
theorem filled_of_section {title : String} {fields : List (RecordField α)} {place : Nat}
    {name : String} {view : α → β} {takes : Json → β → Prop}
    (shows : Shows fields place name view takes) {start part : α} {value : Json}
    (sorted : value.Sorted) (read : readSection title fields start value = .ok part) :
    Filled takes (view start) (held? place name value) (view part) := by
  cases value with
  | array items =>
      have inside : place < fields.length := by
        obtain ⟨_, found, _⟩ := shows
        exact (List.getElem?_eq_some_iff.1 found).1
      have shorter : (Json.array (items.take fields.length)).Sorted := by
        cases sorted with
        | scalar flat bare => cases flat
        | array inside =>
            exact .array fun item member => inside item (List.mem_of_mem_take member)
      have filled := filled_of_record shows shorter read
      rw [held?, List.getElem?_take_of_lt inside] at filled
      exact filled
  | object entries =>
      have taken : record title fields start (.object entries) = .ok part := read
      exact filled_of_record shows sorted taken
  | _ => cases read

theorem filled_inside {title : String} {fields : List (RecordField α)} {place : Nat}
    {name : String} {view : α → β} {takes : Json → β → Prop}
    (shows : Shows fields place name view takes) {start part : α} {held : Option Json}
    (sorted : ∀ value, held = some value → value.Sorted)
    (filled : Filled (fun value part => readSection title fields start value = .ok part) start
      held part) :
    Filled takes (view start) (held.bind (held? place name)) (view part) := by
  cases filled with
  | read taken => exact filled_of_section shows (sorted _ rfl) taken
  | left => exact .left

theorem sections_show :
    Shows fields 0 "github" Settings.hosting
        (fun value part => readSection "github" hostingFields default.hosting value = .ok part) ∧
      Shows fields 1 "webhook" Settings.webhook
        (fun value part => readSection "webhook" webhookFields default.webhook value = .ok part) ∧
      Shows fields 2 "engine" Settings.engine
        (fun value part => readSection "engine" engineFields default.engine value = .ok part) := by
  refine ⟨?_, ?_, ?_⟩
  all_goals
    refine shows_of_field rfl (fun before value made taken => taken) ?_
    iterate 2 refine beside_cons (by decide) (fun _ _ => rfl) ?_
    exact List.forall_mem_nil _

theorem hosting_shows :
    Shows hostingFields 0 "app_id" HostingSettings.appId Setting.appId.Takes ∧
      Shows hostingFields 1 "app_key" HostingSettings.appKey Setting.appKey.Takes ∧
      Shows hostingFields 2 "app_key_path" HostingSettings.appKeyPath Setting.appKeyPath.Takes ∧
      Shows hostingFields 3 "api_base" HostingSettings.apiBase Setting.apiBase.Takes ∧
      Shows hostingFields 4 "token_refresh_margin_seconds" HostingSettings.tokenMargin
        Setting.tokenMargin.Takes := by
  refine ⟨shows_of_field rfl (fun _ _ id taken => ⟨id, natural_eq_ok.1 taken, rfl⟩) ?_,
    shows_of_field rfl (fun _ _ key taken => ⟨key, text_eq_ok.1 taken, rfl⟩) ?_,
    shows_of_field rfl (fun _ _ path taken => ⟨path, text_eq_ok.1 taken, rfl⟩) ?_,
    shows_of_field rfl (fun _ _ _ taken => text_eq_ok.1 taken) ?_,
    shows_of_field rfl (fun _ _ _ taken => natural_eq_ok.1 taken) ?_⟩
  all_goals
    iterate 4 refine beside_cons (by decide) (fun _ _ => rfl) ?_
    exact List.forall_mem_nil _

theorem webhook_shows :
    Shows webhookFields 0 "bind" WebhookSettings.address Setting.address.Takes ∧
      Shows webhookFields 1 "secret" WebhookSettings.secret Setting.secret.Takes ∧
      Shows webhookFields 2 "max_body_bytes" WebhookSettings.maxBodyBytes
        Setting.maxBodyBytes.Takes := by
  refine ⟨shows_of_field rfl (fun _ _ _ taken => text_eq_ok.1 taken) ?_,
    shows_of_field rfl (fun _ _ secret taken => ⟨secret, text_eq_ok.1 taken, rfl⟩) ?_,
    shows_of_field rfl (fun _ _ _ taken => natural_eq_ok.1 taken) ?_⟩
  all_goals
    iterate 2 refine beside_cons (by decide) (fun _ _ => rfl) ?_
    exact List.forall_mem_nil _

theorem engine_shows :
    Shows engineFields 0 "dry_run" EngineSettings.dryRun Setting.dryRun.Takes ∧
      Shows engineFields 1 "verbose_errors" EngineSettings.verboseErrors
        Setting.verboseErrors.Takes ∧
      Shows engineFields 2 "use_local_rules" EngineSettings.useLocalRules
        Setting.useLocalRules.Takes ∧
      Shows engineFields 3 "local_rules_path" EngineSettings.localRulesPath
        Setting.localRulesPath.Takes ∧
      Shows engineFields 4 "page_timeout_seconds" EngineSettings.pageTimeout
        Setting.pageTimeout.Takes := by
  refine ⟨shows_of_field rfl (fun _ _ _ taken => flag_eq_ok.1 taken) ?_,
    shows_of_field rfl (fun _ _ _ taken => flag_eq_ok.1 taken) ?_,
    shows_of_field rfl (fun _ _ _ taken => flag_eq_ok.1 taken) ?_,
    shows_of_field rfl (fun _ _ _ taken => text_eq_ok.1 taken) ?_,
    shows_of_field rfl (fun _ _ _ taken => natural_eq_ok.1 taken) ?_⟩
  all_goals
    iterate 4 refine beside_cons (by decide) (fun _ _ => rfl) ?_
    exact List.forall_mem_nil _

/-- Each setting is what the document says of it, and else its default. -/
theorem filled_of_document {entries : List (String × Json)}
    (sorted : (Json.object entries).Sorted) {settings : Settings}
    (read : readSection "settings" fields default (.object entries) = .ok settings)
    (setting : Setting) :
    Filled setting.Takes (setting.get default) (setting.written? (.object entries))
      (setting.get settings) := by
  have inside (group : String) (value : Json) (found : entries.lookup group = some value) :
      value.Sorted := sorted.field found
  have hosting := filled_of_section sections_show.1 sorted read
  have webhook := filled_of_section sections_show.2.1 sorted read
  have engine := filled_of_section sections_show.2.2 sorted read
  obtain ⟨appId, appKey, appKeyPath, apiBase, tokenMargin⟩ := hosting_shows
  obtain ⟨address, secret, maxBodyBytes⟩ := webhook_shows
  obtain ⟨dryRun, verboseErrors, useLocalRules, localRulesPath, pageTimeout⟩ := engine_shows
  cases setting with
  | appId => exact filled_inside appId (inside "github") hosting
  | appKey => exact filled_inside appKey (inside "github") hosting
  | appKeyPath => exact filled_inside appKeyPath (inside "github") hosting
  | apiBase => exact filled_inside apiBase (inside "github") hosting
  | tokenMargin => exact filled_inside tokenMargin (inside "github") hosting
  | address => exact filled_inside address (inside "webhook") webhook
  | secret => exact filled_inside secret (inside "webhook") webhook
  | maxBodyBytes => exact filled_inside maxBodyBytes (inside "webhook") webhook
  | dryRun => exact filled_inside dryRun (inside "engine") engine
  | verboseErrors => exact filled_inside verboseErrors (inside "engine") engine
  | useLocalRules => exact filled_inside useLocalRules (inside "engine") engine
  | localRulesPath => exact filled_inside localRulesPath (inside "engine") engine
  | pageTimeout => exact filled_inside pageTimeout (inside "engine") engine

end Settings

end RepoRules
