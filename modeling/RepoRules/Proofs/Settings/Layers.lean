import RepoRules.Proofs.Settings.Variables

/-!
Settings out of layers. A setting is what its variable of the environment gives, if that is accepted,
else what the configuration file says of it, and else its default. The key of the app may also be in
a file of its own, which is read just when neither the environment nor the configuration file has
one.
-/

namespace RepoRules

/-- Access that notes the files whose texts are asked for. -/
def Files.Access.noting (files : Files.Access Id) : Files.Access (StateM (List String)) where
  isThere path noted := ((files.isThere path).run, noted)
  read path noted := ((files.read path).run, noted ++ [path])
  canonical? path noted := ((files.canonical? path).run, noted)
  openFile directory name noted := ((files.openFile directory name).run, noted)

/-- The value of a setting: what the uppermost layer gives that has one. -/
inductive Setting.Layered (setting : Setting) (environment : Environment) (document : Json)
    (last : setting.Value) : setting.Value → Prop
  | environment {text : String} {value : setting.Value}
      (given : setting.given? environment = some text) (accepted : setting.Accepts text value) :
      Layered setting environment document last value
  | file {held : Json} {value : setting.Value} (ignored : setting.Ignores environment)
      (written : setting.written? document = some held) (taken : setting.Takes held value) :
      Layered setting environment document last value
  | last (ignored : setting.Ignores environment) (left : setting.written? document = none) :
      Layered setting environment document last last

/-- What is left for a setting when neither the environment nor the configuration file gives it: its
default, and for the key what its own file holds. -/
def Setting.last (files : Files.Access Id) (settings : Settings) :
    (setting : Setting) → setting.Value
  | .appKey => settings.hosting.appKeyPath.bind fun path => (files.read path).run.toOption
  | setting => setting.get Settings.default

namespace Settings

inductive HasDocument (files : Files.Access Id) (path : String) : Json → Prop
  | missing (absent : (files.isThere (.ofText path)).run = false) :
      HasDocument files path (.object [])
  | written {text : String} {table : Toml.Table}
      (there : (files.isThere (.ofText path)).run = true)
      (read : (files.read path).run = .ok text) (parsed : Toml.parse? text = some table) :
      HasDocument files path table.value.toJson

def configuration (files : Files.Access Id) (path : String) :
    Except Failure Settings × List String :=
  if (files.isThere (.ofText path)).run then
    (match (files.read path).run with
      | .error reason =>
          .error (Failure.of .io ("Failed to read config file " ++ path ++ ": " ++ reason))
      | .ok text =>
          match ofToml? text with
          | some settings => .ok settings
          | none =>
              .error (Failure.of .configuration
                ("Failed to parse config file " ++ path ++ ": <toml>")),
      [path])
  else (.ok default, [])

theorem run_of_file (files : Files.Access Id) (path : String) :
    (ofFile files.noting path).run [] = configuration files path := by
  have answered : (files.noting.isThere (.ofText path)).run [] =
      pure ((files.isThere (.ofText path)).run, []) := rfl
  have read : (files.noting.read path).run [] = pure ((files.read path).run, [path]) := rfl
  rw [ofFile, configuration, StateT.run_bind, answered, pure_bind]
  cases (files.isThere (.ofText path)).run with
  | false => rfl
  | true =>
      simp only [Bool.not_true, Bool.false_eq_true, if_false, if_true]
      rw [StateT.run_bind, read, pure_bind]
      rcases (files.read path).run with reason | text
      · rfl
      · dsimp only
        cases ofToml? text <;> rfl

theorem configuration_eq_ok {files : Files.Access Id} {path : String} {settings : Settings} :
    (configuration files path).1 = .ok settings ↔
      ∃ document, HasDocument files path document ∧
        readSection "settings" fields default document = .ok settings := by
  unfold configuration
  cases there : (files.isThere (.ofText path)).run with
  | false =>
      constructor
      · rintro ⟨⟩
        exact ⟨.object [], .missing there, rfl⟩
      · have bare : readSection "settings" fields default (.object []) = .ok default := rfl
        rintro ⟨_, ⟨_⟩ | ⟨present, _⟩, read⟩
        · rw [bare] at read
          cases read
          rfl
        · rw [there] at present
          cases present
  | true =>
      rw [if_pos rfl]
      constructor
      · intro taken
        dsimp only at taken
        split at taken
        · cases taken
        · next text read =>
            split at taken
            · next made parsed =>
                cases taken
                obtain ⟨table, parsed, decoded⟩ := Option.bind_eq_some_iff.1 parsed
                exact ⟨_, .written there read parsed, to_option_eq_some decoded⟩
            · cases taken
      · rintro ⟨_, ⟨absent⟩ | ⟨_, read, parsed⟩, decoded⟩
        · rw [there] at absent
          cases absent
        · rw [read]
          dsimp only
          rw [ofToml?, parsed, Option.bind_eq_bind, Option.bind_some, decoded]
          rfl

theorem HasDocument.sorted {files : Files.Access Id} {path : String} {document : Json}
    (held : HasDocument files path document) :
    ∃ entries, document = .object entries ∧ (Json.object entries).Sorted := by
  cases held with
  | missing => exact ⟨[], rfl, .object .nil (List.forall_mem_nil _)⟩
  | @written _ table => exact ⟨_, rfl, Toml.sorted_of_value table.value⟩

theorem run_with_key (files : Files.Access Id) (settings : Settings) (noted : List String) :
    (withKey files.noting settings).run noted =
      match settings.hosting.appKey, settings.hosting.appKeyPath with
      | none, some path =>
          (match (files.read path).run with
            | .error reason =>
                .error (Failure.of .io ("Failed to read app key " ++ path ++ ": " ++ reason))
            | .ok key =>
                .ok { settings with hosting := { settings.hosting with appKey := some key } },
            noted ++ [path])
      | _, _ => (.ok settings, noted) := by
  rw [withKey]
  rcases settings.hosting.appKey with _ | key
  · rcases settings.hosting.appKeyPath with _ | path
    · rfl
    · have read : (files.noting.read path).run noted =
          pure ((files.read path).run, noted ++ [path]) := rfl
      dsimp only
      rw [StateT.run_bind, read, pure_bind]
      rcases (files.read path).run with reason | key <;> rfl
  · rfl

def loading (files : Files.Access Id) (environment : Environment) (file : Option String) :
    Except Failure Settings × List String :=
  (load files.noting environment file).run []

theorem loading_eq (files : Files.Access Id) (environment : Environment) (file : Option String) :
    loading files environment file =
      match configuration files (file.getD defaultFile) with
      | (.error failure, reads) => (.error failure, reads)
      | (.ok settings, reads) =>
          (withKey files.noting (settings.override environment)).run reads := by
  rw [loading, load, StateT.run_bind, run_of_file]
  rcases configuration files (file.getD defaultFile) with ⟨failure | settings, reads⟩ <;> rfl

def Configures (files : Files.Access Id) (path : String) (document : Json) (settings : Settings) :
    Prop :=
  HasDocument files path document ∧
    readSection "settings" fields default document = .ok settings

def NoKey (environment : Environment) (document : Json) : Prop :=
  Setting.appKey.Ignores environment ∧ Setting.appKey.written? document = none

section Configured

variable {files : Files.Access Id} {path : String} {document : Json} {base : Settings}

theorem Configures.filled (configured : Configures files path document base) (setting : Setting) :
    Decode.Filled setting.Takes (setting.get default) (setting.written? document)
      (setting.get base) := by
  obtain ⟨entries, rfl, sorted⟩ := configured.1.sorted
  exact filled_of_document sorted configured.2 setting

theorem Configures.layered (configured : Configures files path document base)
    (environment : Environment) (setting : Setting) :
    setting.Layered environment document (setting.get default)
      (setting.get (base.override environment)) := by
  have filled := configured.filled setting
  rw [Setting.get_override]
  cases found : (setting.given? environment).bind setting.parse? with
  | some value =>
      obtain ⟨text, given, parsed⟩ := Option.bind_eq_some_iff.1 found
      exact .environment given (Setting.parse_eq_some.1 parsed)
  | none =>
      have ignored := Setting.ignores_iff.2 found
      rw [Option.getD_none]
      generalize setting.get base = value at filled ⊢
      generalize written : setting.written? document = held at filled
      cases filled with
      | read taken => exact .file ignored written taken
      | left => exact .last ignored written

theorem Configures.no_key_iff (configured : Configures files path document base)
    (environment : Environment) :
    (base.override environment).hosting.appKey = none ↔ NoKey environment document := by
  have layered := configured.layered environment .appKey
  change Setting.appKey.get (base.override environment) = (none : Option String) ↔ _
  generalize Setting.appKey.get (base.override environment) = key at layered ⊢
  constructor
  · intro missing
    cases layered with
    | environment given accepted => cases missing.symm.trans accepted.2
    | file ignored written taken =>
        obtain ⟨_, _, held⟩ := taken
        cases missing.symm.trans held
    | last ignored left => exact ⟨ignored, left⟩
  · rintro ⟨ignored, left⟩
    cases layered with
    | environment given accepted => exact absurd accepted (ignored _ _ given)
    | file _ written taken =>
        rw [left] at written
        cases written
    | last => rfl

theorem Configures.key_path_iff (configured : Configures files path document base)
    (keyPath : String) :
    base.hosting.appKeyPath = some keyPath ↔
      Setting.appKeyPath.written? document = some (.string keyPath) := by
  have filled := configured.filled .appKeyPath
  change Setting.appKeyPath.get base = (some keyPath : Option String) ↔ _
  generalize Setting.appKeyPath.get base = configuredPath at filled ⊢
  generalize Setting.appKeyPath.written? document = held at filled ⊢
  cases filled with
  | read taken =>
      obtain ⟨text, rfl, rfl⟩ := taken
      constructor
      · rintro ⟨⟩
        rfl
      · rintro ⟨⟩
        rfl
  | left => exact ⟨nofun, nofun⟩

theorem last_of_ne {setting : Setting} (other : setting ≠ .appKey) (settings : Settings) :
    setting.last files settings = setting.get default := by
  cases setting with
  | appKey => exact absurd rfl other
  | _ => rfl

theorem get_of_with_key {settings keyed : Settings} {noted reads : List String}
    (taken : (withKey files.noting settings).run noted = (.ok keyed, reads)) {setting : Setting}
    (other : setting ≠ .appKey) : setting.get keyed = setting.get settings := by
  rw [run_with_key] at taken
  split at taken
  · split at taken
    · cases taken
    · cases taken
      cases setting with
      | appKey => exact absurd rfl other
      | _ => rfl
  · cases taken
    rfl

theorem key_of_with_key {settings keyed : Settings} {noted reads : List String}
    (taken : (withKey files.noting settings).run noted = (.ok keyed, reads)) :
    keyed.hosting.appKey = settings.hosting.appKey.or
      (settings.hosting.appKeyPath.bind fun path => (files.read path).run.toOption) := by
  rw [run_with_key] at taken
  cases key : settings.hosting.appKey with
  | some text =>
      rw [key] at taken
      cases taken
      exact key
  | none =>
      rw [key] at taken
      rw [Option.none_or]
      cases found : settings.hosting.appKeyPath with
      | none =>
          rw [found] at taken
          cases taken
          exact key
      | some path =>
          rw [found] at taken
          dsimp only at taken
          rw [Option.bind_some]
          cases read : (files.read path).run with
          | error reason =>
              rw [read] at taken
              cases taken
          | ok text =>
              rw [read] at taken
              cases taken
              rfl

theorem Configures.layered_of_key (configured : Configures files path document base)
    {environment : Environment} {settings : Settings} {noted reads : List String}
    (taken : (withKey files.noting (base.override environment)).run noted =
      (.ok settings, reads)) (setting : Setting) :
    setting.Layered environment document (setting.last files settings) (setting.get settings) := by
  have layered := configured.layered environment setting
  by_cases own : setting = .appKey
  · subst own
    have path : settings.hosting.appKeyPath = (base.override environment).hosting.appKeyPath :=
      get_of_with_key taken (nofun : Setting.appKeyPath ≠ .appKey)
    have key := key_of_with_key taken
    rw [← path] at key
    generalize held : Setting.appKey.get (base.override environment) = value at layered
    have same : Setting.appKey.get settings =
        Option.or value (Setting.appKey.last files settings) := held ▸ key
    rw [same]
    cases layered with
    | environment given accepted =>
        obtain ⟨visible, rfl⟩ := accepted
        exact .environment given ⟨visible, rfl⟩
    | file ignored written read =>
        obtain ⟨text, kept, rfl⟩ := read
        exact .file ignored written ⟨text, kept, rfl⟩
    | last ignored left => exact .last ignored left
  · rw [last_of_ne own, get_of_with_key taken own]
    exact layered

/-- Whether the file of the key is read depends on whether there is a key otherwise. -/
theorem Configures.reads_key (configured : Configures files path document base)
    (environment : Environment) (noted : List String) {keyPath : String}
    (named : Setting.appKeyPath.written? document = some (.string keyPath)) :
    let keyed := (withKey files.noting (base.override environment)).run noted
    (NoKey environment document → keyed.2 = noted ++ [keyPath] ∧
      ∀ failure, keyed.1 = .error failure ↔ ∃ reason, (files.read keyPath).run = .error reason ∧
        failure = Failure.of .io ("Failed to read app key " ++ keyPath ++ ": " ++ reason)) ∧
    (¬NoKey environment document → keyed = (.ok (base.override environment), noted)) := by
  have found : (base.override environment).hosting.appKeyPath = some keyPath :=
    (configured.key_path_iff keyPath).2 named
  rw [← configured.no_key_iff environment, run_with_key, found]
  dsimp only
  cases (base.override environment).hosting.appKey with
  | none =>
      refine ⟨fun _ => ⟨rfl, fun failure => ?_⟩, fun given => absurd rfl given⟩
      dsimp only
      cases (files.read keyPath).run with
      | error reason =>
          constructor
          · rintro ⟨⟩
            exact ⟨reason, rfl, rfl⟩
          · rintro ⟨_, ⟨⟩, rfl⟩
            rfl
      | ok key => exact ⟨nofun, nofun⟩
  | some key => exact ⟨nofun, fun _ => rfl⟩

end Configured

def configurationReads (files : Files.Access Id) (path : String) : List String :=
  if (files.isThere (.ofText path)).run then [path] else []

theorem configuration_reads (files : Files.Access Id) (path : String) :
    (configuration files path).2 = configurationReads files path := by
  unfold configuration configurationReads
  cases (files.isThere (.ofText path)).run <;> rfl

section Loading

variable (files : Files.Access Id) (environment : Environment) (file : Option String)

theorem loading_of_error {failure : Failure}
    (refused : (configuration files (file.getD defaultFile)).1 = .error failure) :
    loading files environment file =
      (.error failure, configurationReads files (file.getD defaultFile)) := by
  rw [loading_eq, ← configuration_reads]
  generalize configuration files (file.getD defaultFile) = configured at refused ⊢
  obtain ⟨_, reads⟩ := configured
  cases refused
  rfl

theorem loading_of_ok {base : Settings}
    (read : (configuration files (file.getD defaultFile)).1 = .ok base) :
    loading files environment file =
      (withKey files.noting (base.override environment)).run
        (configurationReads files (file.getD defaultFile)) := by
  rw [loading_eq, ← configuration_reads]
  generalize configuration files (file.getD defaultFile) = configured at read ⊢
  obtain ⟨_, reads⟩ := configured
  cases read
  rfl

theorem configured_of_loading {settings : Settings}
    (loaded : (loading files environment file).1 = .ok settings) :
    ∃ base, (configuration files (file.getD defaultFile)).1 = .ok base ∧
      (withKey files.noting (base.override environment)).run
          (configurationReads files (file.getD defaultFile)) =
        (.ok settings, (loading files environment file).2) := by
  cases read : (configuration files (file.getD defaultFile)).1 with
  | error failure =>
      rw [loading_of_error files environment file read] at loaded
      cases loaded
  | ok base =>
      refine ⟨base, rfl, ?_⟩
      rw [← loading_of_ok files environment file read]
      exact Prod.ext loaded rfl

theorem layered_of_loading {settings : Settings}
    (loaded : (loading files environment file).1 = .ok settings) :
    ∃ document base, Configures files (file.getD defaultFile) document base ∧
      ∀ setting : Setting, setting.Layered environment document (setting.last files settings)
        (setting.get settings) := by
  obtain ⟨base, read, taken⟩ := configured_of_loading files environment file loaded
  obtain ⟨document, configured⟩ := configuration_eq_ok.1 read
  exact ⟨document, base, configured, Configures.layered_of_key configured taken⟩

/-- Where two environments differ in one variable, only its own setting can differ. -/
theorem loading_agrees {name : String} {other : Environment} {settings changed : Settings}
    (same : ∀ held, held ≠ name → other held = environment held)
    (loaded : (loading files environment file).1 = .ok settings)
    (reloaded : (loading files other file).1 = .ok changed) {setting : Setting}
    (foreign : setting.variableName? ≠ some name) : setting.get changed = setting.get settings := by
  have given {setting : Setting} (foreign : setting.variableName? ≠ some name) :
      setting.given? other = setting.given? environment := by
    unfold Setting.given?
    cases named : setting.variableName? with
    | none => rfl
    | some held => exact same held fun own => foreign (named.trans (congrArg some own))
  obtain ⟨base, read, taken⟩ := configured_of_loading files environment file loaded
  obtain ⟨again, reread, retaken⟩ := configured_of_loading files other file reloaded
  obtain rfl : base = again := Except.ok.inj (read.symm.trans reread)
  have overridden : setting.get (base.override other) =
      setting.get (base.override environment) := by
    rw [Setting.get_override, Setting.get_override, given foreign]
  by_cases own : setting = .appKey
  · subst own
    have key : (base.override other).hosting.appKey =
      (base.override environment).hosting.appKey := overridden
    change changed.hosting.appKey = settings.hosting.appKey
    rw [key_of_with_key taken, key_of_with_key retaken, key]
    rfl
  · rw [get_of_with_key taken own, get_of_with_key retaken own]
    exact overridden

/-- A configured file of the key is read, and can make the load fail, if and only if neither the
environment nor the configuration file has a key. -/
theorem loading_reads_key {document : Json} {base : Settings} {keyPath : String}
    (configured : Configures files (file.getD defaultFile) document base)
    (named : Setting.appKeyPath.written? document = some (.string keyPath)) :
    let outcome := loading files environment file
    let asked := configurationReads files (file.getD defaultFile)
    (outcome.2 = asked ++ [keyPath] ↔ NoKey environment document) ∧
      (outcome.2 = asked ↔ ¬NoKey environment document) ∧
      ∀ failure, outcome.1 = .error failure ↔ NoKey environment document ∧
        ∃ reason, (files.read keyPath).run = .error reason ∧
          failure = Failure.of .io ("Failed to read app key " ++ keyPath ++ ": " ++ reason) := by
  have read : (configuration files (file.getD defaultFile)).1 = .ok base :=
    configuration_eq_ok.2 ⟨document, configured⟩
  intro outcome asked
  have run : outcome = (withKey files.noting (base.override environment)).run asked :=
    loading_of_ok files environment file read
  obtain ⟨missing, supplied⟩ := configured.reads_key environment asked named
  rw [← run] at missing supplied
  have longer : asked ≠ asked ++ [keyPath] := by simp
  by_cases keyless : NoKey environment document
  · obtain ⟨reads, fails⟩ := missing keyless
    refine ⟨iff_of_true reads keyless, ?_, fun failure => ?_⟩
    · rw [reads]
      exact iff_of_false longer.symm (not_not_intro keyless)
    · rw [fails, and_iff_right keyless]
  · rw [supplied keyless]
    refine ⟨iff_of_false longer keyless, iff_of_true rfl keyless, fun failure => ?_⟩
    exact iff_of_false nofun fun fails => keyless fails.1

theorem loading_without_key_file
    (unnamed : ∀ document base keyPath, Configures files (file.getD defaultFile) document base →
      Setting.appKeyPath.written? document ≠ some (.string keyPath)) :
    loading files environment file =
      ((configuration files (file.getD defaultFile)).1.map (override environment),
        configurationReads files (file.getD defaultFile)) := by
  cases read : (configuration files (file.getD defaultFile)).1 with
  | error failure => exact loading_of_error files environment file read
  | ok base =>
      obtain ⟨document, configured⟩ := configuration_eq_ok.1 read
      have missing : (base.override environment).hosting.appKeyPath = none := by
        refine Option.eq_none_iff_forall_ne_some.2 fun keyPath found => ?_
        exact unnamed document base keyPath configured
          ((Configures.key_path_iff configured keyPath).1 found)
      rw [loading_of_ok files environment file read, run_with_key, missing]
      cases (base.override environment).hosting.appKey <;> rfl

end Loading

/-- What a load does with its sources. -/
structure Loads (files : Files.Access Id) (environment : Environment) (file : Option String) :
    Prop where
  /-- Each setting is what the uppermost layer gives that has one. -/
  layers : ∀ settings, (loading files environment file).1 = .ok settings →
    ∃ document base, Configures files (file.getD defaultFile) document base ∧
      ∀ setting : Setting, setting.Layered environment document (setting.last files settings)
        (setting.get settings)
  /-- No variable changes any setting but its own. -/
  foreign : ∀ (name : String) (other : Environment) (settings changed : Settings),
    (∀ held, held ≠ name → other held = environment held) →
      (loading files environment file).1 = .ok settings →
        (loading files other file).1 = .ok changed →
          ∀ setting : Setting, setting.variableName? ≠ some name →
            setting.get changed = setting.get settings
  twice : ∀ settings : Settings,
    (settings.override environment).override environment = settings.override environment
  /-- A configured file of the key is read, and can make the load fail, if and only if neither the
  environment nor the configuration file has a key. -/
  key_file : ∀ document base keyPath, Configures files (file.getD defaultFile) document base →
    Setting.appKeyPath.written? document = some (.string keyPath) →
      let asked := configurationReads files (file.getD defaultFile)
      ((loading files environment file).2 = asked ++ [keyPath] ↔ NoKey environment document) ∧
        ((loading files environment file).2 = asked ↔ ¬NoKey environment document) ∧
        ∀ failure, (loading files environment file).1 = .error failure ↔
          NoKey environment document ∧ ∃ reason, (files.read keyPath).run = .error reason ∧
            failure = Failure.of .io ("Failed to read app key " ++ keyPath ++ ": " ++ reason)
  /-- Where no such file is configured, only the configuration file is read and can fail. -/
  no_key_file : (∀ document base keyPath, Configures files (file.getD defaultFile) document base →
      Setting.appKeyPath.written? document ≠ some (.string keyPath)) →
    loading files environment file =
      ((configuration files (file.getD defaultFile)).1.map (override environment),
        configurationReads files (file.getD defaultFile))

theorem settings_come_in_layers (files : Files.Access Id) (environment : Environment)
    (file : Option String) : Loads files environment file where
  layers _ loaded := layered_of_loading files environment file loaded
  foreign _ _ _ _ same loaded reloaded _ :=
    loading_agrees files environment file same loaded reloaded
  twice := override_override environment
  key_file _ _ _ := loading_reads_key files environment file
  no_key_file := loading_without_key_file files environment file

def still (tree : Files.Tree) : Files.Access Id where
  isThere path := (Files.Access.ofTree.isThere path tree).1
  read path := (Files.Access.ofTree.read path tree).1
  canonical? path := (Files.Access.ofTree.canonical? path tree).1
  openFile directory name := (Files.Access.ofTree.openFile directory name tree).1

def keyedWorkplace : Files.Tree :=
  ⟨[(["work", "rulebot.toml"],
      "[github]\napp_id = 1234\napp_key_path = \"app.pem\"\n[engine]\ndry_run = true\n"),
    (["work", "app.pem"], "PEM")], [], ["work"]⟩

def mixedVariables : Environment
  | "RULEBOT_APP_ID" => some " 77 "
  | "RULEBOT_BIND" => some ""
  | "RULEBOT_APP_KEY" => some "  "
  | "RULEBOT_DRY_RUN" => some "maybe"
  | _ => none

theorem mixed_sources_load :
    ∃ settings, (loading (still keyedWorkplace) mixedVariables none).1 = .ok settings ∧
      settings.hosting = ⟨some 77, some "PEM", some "app.pem", "https://api.github.com", 300⟩ ∧
      settings.webhook.address = "" ∧ settings.engine.dryRun = true ∧
      (loading (still keyedWorkplace) mixedVariables none).2 = ["rulebot.toml", "app.pem"] ∧
      ∃ document base, Configures (still keyedWorkplace) "rulebot.toml" document base ∧
        (∀ setting : Setting, setting.Layered mixedVariables document
          (setting.last (still keyedWorkplace) settings) (setting.get settings)) ∧
        NoKey mixedVariables document := by
  have loads := settings_come_in_layers (still keyedWorkplace) mixedVariables none
  have loaded : (loading (still keyedWorkplace) mixedVariables none).1 = .ok
      { default with
        hosting := ⟨some 77, some "PEM", some "app.pem", "https://api.github.com", 300⟩
        webhook := { default.webhook with address := "" }
        engine := { default.engine with dryRun := true } } :=
    to_option_eq_some (by decide +kernel)
  have reads : (loading (still keyedWorkplace) mixedVariables none).2 =
      ["rulebot.toml", "app.pem"] := by decide +kernel
  obtain ⟨document, base, configured, layered⟩ := loads.layers _ loaded
  have named : base.hosting.appKeyPath = some "app.pem" := by
    have known : (configuration (still keyedWorkplace) "rulebot.toml").1.toOption.map
        (fun settings => settings.hosting.appKeyPath) = some (some "app.pem") := by decide +kernel
    have read := configuration_eq_ok.2 ⟨document, configured⟩
    rw [show (none : Option String).getD defaultFile = "rulebot.toml" from rfl] at read
    rw [read] at known
    exact Option.some.inj known
  refine ⟨_, loaded, rfl, rfl, rfl, reads, document, base, configured, layered, ?_⟩
  exact (loads.key_file document base "app.pem" configured
    ((configured.key_path_iff "app.pem").1 named)).1.1 reads

end Settings

end RepoRules
