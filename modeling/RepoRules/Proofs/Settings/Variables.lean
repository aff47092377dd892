import RepoRules.Proofs.Settings.File
import RepoRules.Proofs.Text.Case
import RepoRules.Settings.Load

/-!
What the variables of the environment do to settings. A setting is replaced by what its own variable
gives, if the text of that is accepted, and by nothing else; done again, that changes nothing.
-/

namespace RepoRules

def Text.IsUnsigned (text : String) (number : Nat) : Prop :=
  ∃ digits : List Char, (text.toList = digits ∨ text.toList = '+' :: digits) ∧ digits ≠ [] ∧
    (∀ digit ∈ digits, digit.isDigit = true) ∧ Nat.ofDigitChars 10 digits 0 = number ∧
    number < 2 ^ 64

theorem Text.natural_eq_some {text : String} {number : Nat} :
    natural? text = some number ↔ IsUnsigned text number := by
  have counted (digits : List Char) :
      (if digits.isEmpty || !digits.all Char.isDigit then none
        else
          let value := digitsValue digits
          if value < 0x10000000000000000 then some value else none) = some number ↔
        digits ≠ [] ∧ (∀ digit ∈ digits, digit.isDigit = true) ∧
          Nat.ofDigitChars 10 digits 0 = number ∧ number < 2 ^ 64 := by
    have same : digitsValue digits = Nat.ofDigitChars 10 digits 0 := rfl
    rw [same]
    by_cases plain : digits ≠ [] ∧ ∀ digit ∈ digits, digit.isDigit = true
    · have kept : (digits.isEmpty || !digits.all Char.isDigit) = false := by
        simpa using plain
      rw [kept]
      simp only [Bool.false_eq_true, if_false, Option.ite_none_right_eq_some, Option.some.injEq]
      constructor
      · rintro ⟨small, rfl⟩
        exact ⟨plain.1, plain.2, rfl, small⟩
      · rintro ⟨_, _, rfl, small⟩
        exact ⟨small, rfl⟩
    · have refused : (digits.isEmpty || !digits.all Char.isDigit) = true := by
        by_contra kept
        exact plain (by simpa using kept)
      rw [refused, if_pos rfl]
      constructor
      · exact nofun
      · rintro ⟨filled, digits, _⟩
        exact absurd ⟨filled, digits⟩ plain
  unfold natural? IsUnsigned
  dsimp only
  split
  · next rest signed =>
      rw [counted rest, signed]
      constructor
      · intro held
        exact ⟨rest, .inr rfl, held⟩
      · rintro ⟨digits, bare | plus, filled, plain, held⟩
        · subst bare
          exact absurd (plain '+' List.mem_cons_self) (by decide)
        · cases plus
          exact ⟨filled, plain, held⟩
  · next unsigned =>
      rw [counted]
      constructor
      · intro held
        exact ⟨_, .inl rfl, held⟩
      · rintro ⟨digits, rfl | plus, held⟩
        · exact held
        · exact absurd plus (unsigned digits)

namespace Setting

def variableName? : Setting → Option String
  | .appId => some "RULEBOT_APP_ID"
  | .appKey => some "RULEBOT_APP_KEY"
  | .apiBase => some "RULEBOT_API_BASE"
  | .secret => some "RULEBOT_WEBHOOK_SECRET"
  | .address => some "RULEBOT_BIND"
  | .dryRun => some "RULEBOT_DRY_RUN"
  | .verboseErrors => some "RULEBOT_VERBOSE_ERRORS"
  | .useLocalRules => some "RULEBOT_USE_LOCAL_RULES"
  | .localRulesPath => some "RULEBOT_LOCAL_RULES_PATH"
  | .appKeyPath | .tokenMargin | .maxBodyBytes | .pageTimeout => none

def given? (setting : Setting) (environment : Environment) : Option String :=
  setting.variableName?.bind environment

def IsFlag (text : String) (flag : Bool) : Prop :=
  Text.asciiLower text ∈ if flag then ["1", "true", "yes"] else ["0", "false", "no"]

/-- Which texts a setting accepts of its variable, and what they give. -/
def Accepts : (setting : Setting) → String → setting.Value → Prop
  | .appId, text, id => ∃ number, Text.IsUnsigned (Text.trim text) number ∧ id = some number
  | .appKey, text, key => Text.trim text ≠ "" ∧ key = some text
  | .dryRun, text, flag | .verboseErrors, text, flag | .useLocalRules, text, flag =>
      IsFlag (Text.trim text) flag
  | .secret, text, value => value = some text
  | .apiBase, text, value | .address, text, value | .localRulesPath, text, value => value = text
  | .appKeyPath, _, _ | .tokenMargin, _, _ | .maxBodyBytes, _, _ | .pageTimeout, _, _ => False

def Ignores (setting : Setting) (environment : Environment) : Prop :=
  ∀ text value, setting.given? environment = some text → ¬setting.Accepts text value

def parse? : (setting : Setting) → String → Option setting.Value
  | .appId, text => (Settings.appId? text).map some
  | .appKey, text => (Settings.key? text).map some
  | .dryRun, text | .verboseErrors, text | .useLocalRules, text => Settings.flag? text
  | .secret, text => some (some text)
  | .apiBase, text | .address, text | .localRulesPath, text => some text
  | .appKeyPath, _ | .tokenMargin, _ | .maxBodyBytes, _ | .pageTimeout, _ => none

theorem flag_eq_some {text : String} {flag : Bool} :
    Settings.flag? text = some flag ↔ IsFlag (Text.trim text) flag := by
  unfold Settings.flag? IsFlag
  generalize Text.asciiLower (Text.trim text) = word
  split
  · cases flag <;> simp
  · cases flag <;> simp
  · cases flag <;> simp
  · cases flag <;> simp
  · cases flag <;> simp
  · cases flag <;> simp
  · cases flag <;> simp_all

theorem key_eq_some {text key : String} :
    Settings.key? text = some key ↔ Text.trim text ≠ "" ∧ key = text := by
  rw [Settings.key?, ne_eq, Text.trim_eq_empty_iff]
  cases Text.isBlankText text with
  | true => simp
  | false => simp [eq_comm]

theorem app_id_eq_some {text : String} {id : Option Nat} :
    (Settings.appId? text).map some = some id ↔
      ∃ number, Text.IsUnsigned (Text.trim text) number ∧ id = some number := by
  simp only [Settings.appId?, Option.map_eq_some_iff, Text.natural_eq_some, @eq_comm _ id]

theorem some_key_eq_some {text : String} {key : Option String} :
    (Settings.key? text).map some = some key ↔ Text.trim text ≠ "" ∧ key = some text := by
  simp only [Option.map_eq_some_iff, key_eq_some]
  constructor
  · rintro ⟨_, ⟨visible, rfl⟩, rfl⟩
    exact ⟨visible, rfl⟩
  · rintro ⟨visible, rfl⟩
    exact ⟨text, ⟨visible, rfl⟩, rfl⟩

theorem parse_eq_some {setting : Setting} {text : String} {value : setting.Value} :
    setting.parse? text = some value ↔ setting.Accepts text value := by
  cases setting with
  | appId => exact @app_id_eq_some text value
  | appKey => exact @some_key_eq_some text value
  | dryRun | verboseErrors | useLocalRules => exact @flag_eq_some text value
  | secret | apiBase | address | localRulesPath => exact Option.some_inj.trans eq_comm
  | appKeyPath | tokenMargin | maxBodyBytes | pageTimeout => exact ⟨nofun, False.elim⟩

theorem or_eq_getD {α : Type} (found : Option String) (read : String → Option α)
    (held : Option α) :
    (found.bind read).or held = (found.bind fun text => (read text).map some).getD held := by
  cases found with
  | none => rfl
  | some text =>
      rw [Option.bind_some, Option.bind_some]
      cases read text <;> rfl

theorem get_override (environment : Environment) (settings : Settings) (setting : Setting) :
    setting.get (settings.override environment) =
      ((setting.given? environment).bind setting.parse?).getD (setting.get settings) := by
  cases setting with
  | appId => exact or_eq_getD (environment "RULEBOT_APP_ID") Settings.appId? settings.hosting.appId
  | appKey => exact or_eq_getD (environment "RULEBOT_APP_KEY") Settings.key? settings.hosting.appKey
  | dryRun | verboseErrors | useLocalRules => rfl
  | secret =>
      change (environment "RULEBOT_WEBHOOK_SECRET").or settings.webhook.secret =
        ((environment "RULEBOT_WEBHOOK_SECRET").bind fun text => some (some text)).getD
          settings.webhook.secret
      cases environment "RULEBOT_WEBHOOK_SECRET" <;> rfl
  | apiBase =>
      change (environment "RULEBOT_API_BASE").getD settings.hosting.apiBase =
        ((environment "RULEBOT_API_BASE").bind some).getD settings.hosting.apiBase
      rw [Option.bind_fun_some]
  | address =>
      change (environment "RULEBOT_BIND").getD settings.webhook.address =
        ((environment "RULEBOT_BIND").bind some).getD settings.webhook.address
      rw [Option.bind_fun_some]
  | localRulesPath =>
      change (environment "RULEBOT_LOCAL_RULES_PATH").getD settings.engine.localRulesPath =
        ((environment "RULEBOT_LOCAL_RULES_PATH").bind some).getD settings.engine.localRulesPath
      rw [Option.bind_fun_some]
  | appKeyPath | tokenMargin | maxBodyBytes | pageTimeout => rfl

theorem ignores_iff {setting : Setting} {environment : Environment} :
    setting.Ignores environment ↔ (setting.given? environment).bind setting.parse? = none := by
  simp only [Ignores, Option.eq_none_iff_forall_ne_some, ne_eq, Option.bind_eq_some_iff,
    parse_eq_some, not_exists, not_and]
  exact forall_comm

end Setting

theorem Settings.override_override (environment : Environment) (settings : Settings) :
    (settings.override environment).override environment = settings.override environment := by
  refine Setting.ext fun setting => ?_
  rw [Setting.get_override, Setting.get_override]
  cases (setting.given? environment).bind setting.parse? <;> rfl

end RepoRules
