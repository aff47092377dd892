import RepoRules.Proofs.Rules.Results
import RepoRules.Rules.Step

/-!
Which entries of a sequence are steps. The key of an entry is one of few words, and each of them
takes values of some shape. Whatever a list holds, each of its items becomes one step at the place
of the item: an item that is no step is kept there, with its key and the reason.
-/

namespace RepoRules

section Splitting

variable {separator : Char}

theorem Text.eq_of_split_once_chars {characters before after : List Char}
    (split : splitOnceChars separator characters = some (before, after)) :
    characters = before ++ separator :: after := by
  induction characters generalizing before with
  | nil => cases split
  | cons character rest induction =>
      rw [splitOnceChars] at split
      split at split
      · rename_i here
        cases split
        rw [here, List.nil_append]
      · obtain ⟨⟨others, behind⟩, found, same⟩ := Option.map_eq_some_iff.1 split
        cases same
        rw [induction found, List.cons_append]

theorem Text.eq_of_split_once {text before after : String}
    (split : splitOnce? text separator = some (before, after)) :
    text = before ++ String.singleton separator ++ after := by
  obtain ⟨⟨first, second⟩, found, same⟩ := Option.map_eq_some_iff.1 split
  cases same
  apply String.toList_inj.1
  rw [eq_of_split_once_chars found]
  simp

end Splitting

namespace StepKind

def words : StepKind → List String
  | .check => ["check"]
  | .predefined => ["predefined"]
  | .comment => ["comment"]
  | .labels change => ["labels-" ++ change.name, "label-" ++ change.name]
  | .assignees change => ["assignees-" ++ change.name, "assignee-" ++ change.name]
  | .reviewers change => ["reviewers-" ++ change.name, "reviewer-" ++ change.name]
  | .milestoneSet => ["milestone-set"]
  | .milestoneRemove => ["milestone-remove"]
  | .projectAdd => ["project-add"]
  | .projectRemove => ["project-remove"]
  | .variable change => ["variable-" ++ change.name]
  | .files mode => ["files-" ++ mode.name]

theorem eq_name_of_suffix {suffix : String} {change : Change}
    (found : Change.ofSuffix? suffix = some change) : suffix = change.name := by
  unfold Change.ofSuffix? at found
  split at found <;> cases found <;> rfl

theorem eq_name_of_file_suffix {suffix : String} {mode : FileMatch}
    (found : FileMatch.ofSuffix? suffix = some mode) : suffix = mode.name := by
  unfold FileMatch.ofSuffix? at found
  split at found <;> cases found <;> rfl

theorem of_change_eq_ok {family suffix : String} {make : Change → StepKind} {kind : StepKind}
    (taken : change family suffix make = .ok kind) :
    ∃ change, suffix = change.name ∧ kind = make change := by
  unfold StepKind.change at taken
  split at taken
  · rename_i found
    cases taken
    exact ⟨_, eq_name_of_suffix found, rfl⟩
  · cases taken

theorem mem_words_of_family {key family suffix : String} {kind : StepKind}
    (taken : ofFamily key family suffix = .ok kind) : family ++ "-" ++ suffix ∈ kind.words := by
  unfold ofFamily at taken
  split at taken
  case h_7 | h_8 =>
    -- milestones and projects know two suffixes each
    split at taken <;> cases taken <;> exact List.mem_cons_self
  case h_10 =>
    split at taken
    · rename_i found
      cases taken
      rw [eq_name_of_file_suffix found]
      exact List.mem_cons_self
    · cases taken
  case h_11 => cases taken
  all_goals
    obtain ⟨change, rfl, rfl⟩ := of_change_eq_ok taken
    simp [words]

theorem of_key_words (kind : StepKind) : ∀ key ∈ kind.words, ofKey key = .ok kind := by
  have alone {word : String} (read : ofKey word = .ok kind) :
      ∀ key ∈ [word], ofKey key = .ok kind := List.forall_mem_singleton.2 read
  have both {word other : String} (first : ofKey word = .ok kind)
      (second : ofKey other = .ok kind) :
      ∀ key ∈ [word, other], ofKey key = .ok kind := List.forall_mem_cons.2 ⟨first, alone second⟩
  match kind with
  | .labels change | .assignees change | .reviewers change => cases change <;> exact both rfl rfl
  | .variable change => cases change <;> exact alone rfl
  | .files mode => cases mode <;> exact alone rfl
  | .check | .predefined | .comment => exact alone rfl
  | .milestoneSet | .milestoneRemove | .projectAdd | .projectRemove => exact alone rfl

theorem of_key_eq_ok_iff {key : String} {kind : StepKind} :
    ofKey key = .ok kind ↔ key ∈ kind.words := by
  refine ⟨fun taken => ?_, of_key_words kind key⟩
  unfold ofKey at taken
  split at taken
  case h_4 =>
    split at taken
    · rename_i divided
      rw [Text.eq_of_split_once divided]
      exact mem_words_of_family taken
    · cases taken
  all_goals
    cases taken
    exact List.mem_cons_self

end StepKind

namespace Step

inductive Scalar : Json → String → Prop
  | text (text : String) : Scalar (.string text) text
  | int (number : Int) : Scalar (.int number) (toString number)
  | float (number : Float) : Scalar (.float number) (Json.numberText number)
  | holds : Scalar (.bool true) "true"
  | fails : Scalar (.bool false) "false"

inductive Scalars : Json → List String → Prop
  | none : Scalars .null []
  | alone {value : Json} {text : String} (scalar : Scalar value text) : Scalars value [text]
  | list {items : List Json} {texts : List String} (each : List.Forall₂ Scalar items texts) :
      Scalars (.array items) texts

def Names (fields : List (String × Json)) (name : String) : Prop :=
  fields.lookup "name" = some (.string name) ∧ Text.isBlankText name = false

inductive Assigns : Change → Json → String → String → Prop
  | nameAlone (name : String) : Assigns .remove (.string name) name ""
  | valued {change : Change} {fields : List (String × Json)} {name : String} {value : Json}
      (named : Names fields name) (known : fields.lookup "value" = some value) :
      Assigns change (.object fields) name (looseScalar value)
  | unvalued {fields : List (String × Json)} {name : String} (named : Names fields name)
      (unknown : fields.lookup "value" = Option.none) : Assigns .remove (.object fields) name ""

/-- The action that a key of some kind asks for with the value behind it. -/
inductive Asks : StepKind → Json → Action → Prop
  | check (value : Json) : Asks .check value (.check value)
  | predefined {value : Json} {name : String} (scalar : Scalar value name) :
      Asks .predefined value (.predefined name)
  | comment {value : Json} {template : String} (scalar : Scalar value template) :
      Asks .comment value (.operation (.comment template))
  | labels (change : Change) {value : Json} {texts : List String} (scalars : Scalars value texts) :
      Asks (.labels change) value (.operation (.labels change texts))
  | assignees (change : Change) {value : Json} {texts : List String}
      (scalars : Scalars value texts) :
      Asks (.assignees change) value (.operation (.assignees change texts))
  | reviewers (change : Change) {value : Json} {texts : List String}
      (scalars : Scalars value texts) :
      Asks (.reviewers change) value (.operation (.reviewers change texts))
  | milestoneSet {value : Json} {title : String} (scalar : Scalar value title) :
      Asks .milestoneSet value (.operation (.milestone .set title))
  | milestoneRemove (value : Json) :
      Asks .milestoneRemove value (.operation (.milestone .remove (looseScalar value)))
  | projectAdd {value : Json} {project : String} (scalar : Scalar value project) :
      Asks .projectAdd value (.operation (.project .add project))
  | projectRemove {value : Json} {project : String} (scalar : Scalar value project) :
      Asks .projectRemove value (.operation (.project .remove project))
  | assigns {change : Change} {value : Json} {name text : String}
      (assigns : Assigns change value name text) :
      Asks (.variable change) value (.operation (.variable change name text))

structure Guards (fields : List (String × Json)) (pattern : String) (items : List Json) : Prop where
  pattern : fields.lookup "pattern" = some (.string pattern)
  steps : fields.lookup "steps" = some (.array items)

/-- A key and the value behind it are a step. -/
inductive WellFormed (key : String) : Json → Prop
  | action {kind : StepKind} {value : Json} {action : Action}
      (named : normalizeKey key ∈ kind.words) (asks : Asks kind value action) :
      WellFormed key value
  | files {mode : FileMatch} {fields : List (String × Json)} {pattern : String} {items : List Json}
      (named : normalizeKey key ∈ (StepKind.files mode).words)
      (guards : Guards fields pattern items) : WellFormed key (.object fields)

section Values

variable {key : String} {value : Json}

theorem scalar_eq_ok_iff {text : String} : scalar key value = .ok text ↔ Scalar value text := by
  constructor
  · intro read
    unfold scalar scalar? at read
    cases value with
    | string | int | float =>
        cases read
        constructor
    | bool flag =>
        cases flag <;> cases read <;> constructor
    | null | array | object => cases read
  · intro scalar
    cases scalar <;> rfl

theorem scalars_eq_ok_iff {texts : List String} :
    scalars key value = .ok texts ↔ Scalars value texts := by
  constructor
  · intro read
    unfold scalars at read
    split at read
    · exact .list ((mapM_eq_ok_iff.1 read).imp fun _ _ => scalar_eq_ok_iff.1)
    · cases read
      exact .none
    · obtain ⟨text, taken, rfl⟩ := map_eq_ok read
      exact .alone (scalar_eq_ok_iff.1 taken)
  · intro scalars
    cases scalars with
    | none => rfl
    | alone scalar => cases scalar <;> rfl
    | list each => exact mapM_eq_ok_iff.2 (each.imp fun _ _ => scalar_eq_ok_iff.2)

theorem bind_string_eq_some_iff {found : Option Json} {text : String} :
    found.bind Json.string? = some text ↔ found = some (.string text) := by
  match found with
  | some (.string held) => simp [Json.string?]
  | none | some .null | some (.bool _) | some (.int _) | some (.float _) | some (.array _)
  | some (.object _) => simp [Json.string?]

theorem variable_body_eq_ok_iff {change : Change} {name text : String} :
    variableBody key change value = .ok (name, text) ↔ Assigns change value name text := by
  constructor
  · intro read
    unfold variableBody at read
    split at read
    · cases read
      exact .nameAlone _
    · split at read
      · cases read
      · rename_i told
        split at read
        · cases read
        · rename_i filled
          have named : Names _ _ :=
            ⟨bind_string_eq_some_iff.1 told, Bool.eq_false_iff.2 filled⟩
          split at read
          · rename_i known
            cases read
            exact .valued named known
          · rename_i unknown
            cases read
            exact .unvalued named unknown
          · cases read
    · cases read
  · intro assigns
    cases assigns with
    | nameAlone => rfl
    | valued named known =>
        cases change <;> simp [variableBody, Json.string?, named.1, named.2, known]
    | unvalued named unknown => simp [variableBody, Json.string?, named.1, named.2, unknown]

theorem action_of_eq_ok_iff {kind : StepKind} {action : Action} :
    actionOf kind key value = .ok action ↔ Asks kind value action := by
  constructor
  · intro read
    match kind with
    | .check =>
        cases read
        exact .check value
    | .predefined =>
        obtain ⟨name, taken, rfl⟩ := map_eq_ok read
        exact .predefined (scalar_eq_ok_iff.1 taken)
    | .comment =>
        obtain ⟨_, asked, rfl⟩ := map_eq_ok read
        obtain ⟨template, taken, rfl⟩ := map_eq_ok asked
        exact .comment (scalar_eq_ok_iff.1 taken)
    | .labels change =>
        obtain ⟨_, asked, rfl⟩ := map_eq_ok read
        obtain ⟨texts, taken, rfl⟩ := map_eq_ok asked
        exact .labels change (scalars_eq_ok_iff.1 taken)
    | .assignees change =>
        obtain ⟨_, asked, rfl⟩ := map_eq_ok read
        obtain ⟨texts, taken, rfl⟩ := map_eq_ok asked
        exact .assignees change (scalars_eq_ok_iff.1 taken)
    | .reviewers change =>
        obtain ⟨_, asked, rfl⟩ := map_eq_ok read
        obtain ⟨texts, taken, rfl⟩ := map_eq_ok asked
        exact .reviewers change (scalars_eq_ok_iff.1 taken)
    | .milestoneSet =>
        obtain ⟨_, asked, rfl⟩ := map_eq_ok read
        obtain ⟨title, taken, rfl⟩ := map_eq_ok asked
        exact .milestoneSet (scalar_eq_ok_iff.1 taken)
    | .milestoneRemove =>
        cases read
        exact .milestoneRemove value
    | .projectAdd =>
        obtain ⟨_, asked, rfl⟩ := map_eq_ok read
        obtain ⟨project, taken, rfl⟩ := map_eq_ok asked
        exact .projectAdd (scalar_eq_ok_iff.1 taken)
    | .projectRemove =>
        obtain ⟨_, asked, rfl⟩ := map_eq_ok read
        obtain ⟨project, taken, rfl⟩ := map_eq_ok asked
        exact .projectRemove (scalar_eq_ok_iff.1 taken)
    | .variable change =>
        obtain ⟨_, asked, rfl⟩ := map_eq_ok read
        obtain ⟨found, taken, rfl⟩ := map_eq_ok asked
        exact .assigns (variable_body_eq_ok_iff.1 taken)
    | .files mode => cases read
  · intro asks
    cases asks with
    | check | milestoneRemove => rfl
    | predefined scalar | comment scalar | milestoneSet scalar | projectAdd scalar
    | projectRemove scalar =>
        simp only [actionOf, operationOf, scalar_eq_ok_iff.2 scalar]
        rfl
    | labels _ scalars | assignees _ scalars | reviewers _ scalars =>
        simp only [actionOf, operationOf, scalars_eq_ok_iff.2 scalars]
        rfl
    | assigns assigns =>
        simp only [actionOf, operationOf, variable_body_eq_ok_iff.2 assigns]
        rfl

end Values

section Entries

variable {key : String} {value : Json}

theorem steps_field_eq (fields : List (String × Json)) :
    stepsField fields = (fields.lookup "steps").map parseSequence := by
  induction fields with
  | nil => rfl
  | cons field rest induction =>
      obtain ⟨name, value⟩ := field
      rw [stepsField, List.lookup_cons]
      by_cases same : name = "steps"
      · simp [same]
      · have other : ("steps" == name) = false := beq_false_of_ne (Ne.symm same)
        rw [if_neg same, other, induction]

theorem parse_sequence_eq_ok_iff {steps : List Step} :
    parseSequence value = .ok steps ↔ ∃ items, value = .array items ∧ steps = parseItems items := by
  cases value with
  | array items => simp [parseSequence, eq_comm]
  | null | bool | int | float | string | object => simp [parseSequence]

theorem parse_entry_action {kind : StepKind} {action : Action}
    (named : normalizeKey key ∈ kind.words) (asks : Asks kind value action) :
    parseEntry key value = .ok (.action action) := by
  have found := StepKind.of_key_eq_ok_iff.2 named
  have read : actionOf kind (normalizeKey key) value = .ok action := action_of_eq_ok_iff.2 asks
  cases value with
  | object fields =>
      rw [parseEntry, found]
      simp only [bind, Except.bind]
      split
      · cases asks
      · rw [read]
        rfl
  | null | bool | int | float | string | array =>
      rw [parseEntry, found]
      · simp only [bind, Except.bind, read]
        rfl
      · simp

theorem parse_entry_files {mode : FileMatch} {fields : List (String × Json)} {pattern : String}
    {items : List Json} (named : normalizeKey key ∈ (StepKind.files mode).words)
    (guards : Guards fields pattern items) :
    parseEntry key (.object fields) = .ok (.files mode pattern (parseItems items)) := by
  have found := StepKind.of_key_eq_ok_iff.2 named
  have steps := steps_field_eq fields
  rw [guards.steps, Option.map_some, parseSequence] at steps
  rw [parseEntry, found]
  simp only [bind, Except.bind, guards.pattern, Json.string?, Option.bind, steps]
  rfl

theorem of_parse_entry {step : Step} (read : parseEntry key value = .ok step) :
    (∃ kind action, normalizeKey key ∈ StepKind.words kind ∧ Asks kind value action ∧
      step = .action action) ∨
    ∃ mode fields pattern items, normalizeKey key ∈ (StepKind.files mode).words ∧
      value = .object fields ∧ Guards fields pattern items ∧
      step = .files mode pattern (parseItems items) := by
  cases value with
  | object fields =>
      rw [parseEntry] at read
      obtain ⟨kind, found, read⟩ := bind_eq_ok read
      have named := StepKind.of_key_eq_ok_iff.1 found
      split at read
      · split at read
        · cases read
        · rename_i told
          split at read
          · cases read
          · rename_i held
            obtain ⟨body, taken, rfl⟩ := map_eq_ok read
            rw [steps_field_eq] at held
            obtain ⟨listed, known, rfl⟩ := Option.map_eq_some_iff.1 held
            obtain ⟨items, rfl, rfl⟩ := parse_sequence_eq_ok_iff.1 taken
            have guards : Guards fields _ items := ⟨bind_string_eq_some_iff.1 told, known⟩
            exact .inr ⟨_, fields, _, items, named, rfl, guards, rfl⟩
      · obtain ⟨action, taken, rfl⟩ := map_eq_ok read
        exact .inl ⟨kind, action, named, action_of_eq_ok_iff.1 taken, rfl⟩
  | null | bool | int | float | string | array =>
      rw [parseEntry] at read
      · obtain ⟨kind, found, read⟩ := bind_eq_ok read
        obtain ⟨action, taken, rfl⟩ := map_eq_ok read
        exact .inl ⟨kind, action, StepKind.of_key_eq_ok_iff.1 found, action_of_eq_ok_iff.1 taken,
          rfl⟩
      · simp

theorem parse_crowded {fields : List (String × Json)} (crowded : fields.length ≠ 1) :
    parse (.object fields) = .malformed (",".intercalate (fields.map Prod.fst))
      (.malformedStep (.keyCount (fields.map Prod.fst))) := by
  match fields, crowded with
  | [], _ => rw [parse]; simp
  | first :: second :: rest, _ => rw [parse]; simp

/-- An entry is read just if it is well-formed. -/
theorem well_formed_iff : WellFormed key value ↔ ∃ step, parseEntry key value = .ok step := by
  constructor
  · intro wellFormed
    cases wellFormed with
    | action named asks => exact ⟨_, parse_entry_action named asks⟩
    | files named guards => exact ⟨_, parse_entry_files named guards⟩
  · rintro ⟨step, read⟩
    obtain ⟨kind, action, named, asks, rfl⟩ |
      ⟨mode, fields, pattern, items, named, rfl, guards, rfl⟩ := of_parse_entry read
    · exact .action named asks
    · exact .files named guards

end Entries

section Refusals

inductive Misspelled (key : String) : RuleError → Prop
  | word : Misspelled key (.invalidActionType key)
  | suffix {family suffix : String} (parts : key = family ++ "-" ++ suffix) :
      Misspelled key (.invalidActionSubtype family suffix)

theorem change_refuses {key family suffix : String} (parts : key = family ++ "-" ++ suffix)
    (make : Change → StepKind) :
    RefusesFor (Misspelled key) (StepKind.change family suffix make) := by
  unfold StepKind.change
  split
  · exact .ok _
  · exact .error (.suffix parts)

theorem family_refuses {key family suffix : String} (parts : key = family ++ "-" ++ suffix) :
    RefusesFor (Misspelled key) (StepKind.ofFamily key family suffix) := by
  unfold StepKind.ofFamily
  split
  case h_7 | h_8 =>
    -- milestones and projects know two suffixes each
    split
    · exact .ok _
    · exact .ok _
    · exact .error (.suffix parts)
  case h_10 =>
    split
    · exact .ok _
    · exact .error (.suffix parts)
  case h_11 => exact .error .word
  all_goals exact change_refuses parts _

theorem key_refuses (key : String) : RefusesFor (Misspelled key) (StepKind.ofKey key) := by
  unfold StepKind.ofKey
  split
  · exact .ok _
  · exact .ok _
  · exact .ok _
  · split
    · rename_i divided
      exact family_refuses (Text.eq_of_split_once divided)
    · exact .error .word

variable {key : String}

def Misshapen (key : String) (error : RuleError) : Prop :=
  ∃ fault, error = .malformedStep (.body key fault)

theorem scalar_refuses (value : Json) : RefusesFor (Misshapen key) (scalar key value) := by
  unfold scalar
  split
  · exact .ok _
  · exact .error ⟨_, rfl⟩

theorem scalars_refuses (value : Json) : RefusesFor (Misshapen key) (scalars key value) := by
  unfold scalars
  split
  · exact .mapM scalar_refuses _
  · exact .ok _
  · exact (scalar_refuses _).map _

theorem variable_body_refuses (change : Change) (value : Json) :
    RefusesFor (Misshapen key) (variableBody key change value) := by
  unfold variableBody
  split
  · exact .ok _
  · split
    · exact .error ⟨_, rfl⟩
    · split
      · exact .error ⟨_, rfl⟩
      · split
        · exact .ok _
        · exact .ok _
        · exact .error ⟨_, rfl⟩
  · exact .error ⟨_, rfl⟩

theorem operation_refuses (value : Json) : (kind : StepKind) →
    RefusesFor (Misshapen key) (operationOf kind key value)
  | .labels _ | .assignees _ | .reviewers _ => (scalars_refuses value).map _
  | .comment | .milestoneSet | .projectAdd | .projectRemove => (scalar_refuses value).map _
  | .milestoneRemove => .ok _
  | .variable change => (variable_body_refuses change value).map _
  | .check | .predefined | .files _ => .error ⟨_, rfl⟩

theorem action_refuses (kind : StepKind) (value : Json) :
    RefusesFor (Misshapen key) (actionOf kind key value) := by
  unfold actionOf
  split
  · exact .ok _
  · exact (scalar_refuses value).map _
  · exact (operation_refuses value _).map _

/-- What is wrong with a key and the value behind it: the key is no word, or the value has not the
shape that the word asks for. -/
inductive Blames (key : String) : RuleError → Prop
  | spelling {error : RuleError} (unknown : ∀ kind : StepKind, key ∉ kind.words)
      (misspelled : Misspelled key error) : Blames key error
  | shape {kind : StepKind} {error : RuleError} (named : key ∈ kind.words)
      (misshapen : Misshapen key error) : Blames key error
  | steps {mode : FileMatch} (named : key ∈ (StepKind.files mode).words) :
      Blames key (.malformedStep .noSequence)

theorem key_blames (key : String) : RefusesFor (Blames key) (StepKind.ofKey key) := by
  intro error refused
  refine .spelling (fun kind named => ?_) (key_refuses key error refused)
  rw [StepKind.of_key_eq_ok_iff.2 named] at refused
  cases refused

theorem entry_blames (key : String) (value : Json) :
    RefusesFor (Blames (normalizeKey key)) (parseEntry key value) := by
  have actions {kind : StepKind} (found : StepKind.ofKey (normalizeKey key) = .ok kind) :
      RefusesFor (Blames (normalizeKey key))
        ((actionOf kind (normalizeKey key) value).map Step.action) :=
    ((action_refuses kind value).imp fun _ => .shape (StepKind.of_key_eq_ok_iff.1 found)).map _
  cases value with
  | object fields =>
      rw [parseEntry]
      refine (key_blames _).bind fun kind found => ?_
      split
      · rename_i mode
        have named : normalizeKey key ∈ (StepKind.files mode).words :=
          StepKind.of_key_eq_ok_iff.1 found
        split
        · exact .error (.shape named ⟨_, rfl⟩)
        · split
          · exact .error (.shape named ⟨_, rfl⟩)
          · rename_i held
            rw [steps_field_eq] at held
            obtain ⟨listed, _, rfl⟩ := Option.map_eq_some_iff.1 held
            refine RefusesFor.map ?_ _
            cases listed with
            | array items => exact .ok _
            | null | bool | int | float | string | object => exact .error (.steps named)
      · exact actions found
  | null | bool | int | float | string | array =>
      rw [parseEntry]
      · exact (key_blames _).bind fun kind found => actions found
      · simp

end Refusals

inductive Stands : Json → Step → Prop
  | list {items : List Json} {steps : List Step} (each : List.Forall₂ Stands items steps) :
      Stands (.array items) (.group steps)
  | action {key : String} {value : Json} {kind : StepKind} {action : Action}
      (named : normalizeKey key ∈ kind.words) (asks : Asks kind value action) :
      Stands (.object [(key, value)]) (.action action)
  | files {key : String} {mode : FileMatch} {fields : List (String × Json)} {pattern : String}
      {items : List Json} {body : List Step}
      (named : normalizeKey key ∈ (StepKind.files mode).words)
      (guards : Guards fields pattern items) (each : List.Forall₂ Stands items body) :
      Stands (.object [(key, .object fields)]) (.files mode pattern body)
  | refused {key : String} {value : Json} {error : RuleError} (bad : ¬WellFormed key value)
      (blames : Blames (normalizeKey key) error) :
      Stands (.object [(key, value)]) (.malformed key error)
  | crowded {fields : List (String × Json)} (several : fields.length ≠ 1) :
      Stands (.object fields) (.malformed (",".intercalate (fields.map Prod.fst))
        (.malformedStep (.keyCount (fields.map Prod.fst))))
  | other {value : Json} (noList : ∀ items, value ≠ .array items)
      (noMapping : ∀ fields, value ≠ .object fields) :
      Stands value (.malformed value.compact (.malformedStep (.noEntry value.compact)))

section Standing

theorem entry_stands {key : String} {value : Json}
    (inner : ∀ fields items, value = .object fields → fields.lookup "steps" = some (.array items) →
      List.Forall₂ Stands items (parseItems items)) :
    Stands (.object [(key, value)]) (parse (.object [(key, value)])) := by
  rw [parse]
  cases read : parseEntry key value with
  | ok step =>
      obtain ⟨kind, action, named, asks, rfl⟩ |
        ⟨mode, fields, pattern, items, named, rfl, guards, rfl⟩ := of_parse_entry read
      · exact .action named asks
      · exact .files named guards (inner fields items rfl guards.steps)
  | error error =>
      refine .refused (fun wellFormed => ?_) (entry_blames key value error read)
      obtain ⟨step, taken⟩ := well_formed_iff.1 wellFormed
      rw [read] at taken
      cases taken

mutual

theorem parse_stands : (item : Json) → Stands item (parse item)
  | .array items => by
      rw [parse]
      exact .list (parse_items_stand items)
  | .object [(_, .object fields)] =>
      entry_stands fun _ items same known => by
        cases same
        exact steps_stand fields items known
  | .object [(_, .null)] | .object [(_, .bool _)] | .object [(_, .int _)] | .object [(_, .float _)]
  | .object [(_, .string _)] | .object [(_, .array _)] =>
      entry_stands fun _ _ same => by cases same
  | .object [] => by
      rw [parse_crowded (by simp)]
      exact .crowded (by simp)
  | .object (_ :: _ :: _) => by
      rw [parse_crowded (by simp)]
      exact .crowded (by simp)
  | .null | .bool _ | .int _ | .float _ | .string _ => by
      rw [parse]
      · exact .other (by simp) (by simp)
      all_goals simp

/-- Each item of a list becomes one step, in the order of the items. -/
theorem parse_items_stand : (items : List Json) → List.Forall₂ Stands items (parseItems items)
  | [] => by
      rw [parseItems]
      exact .nil
  | item :: rest => by
      rw [parseItems]
      exact .cons (parse_stands item) (parse_items_stand rest)

theorem steps_stand : (fields : List (String × Json)) → (items : List Json) →
    fields.lookup "steps" = some (.array items) → List.Forall₂ Stands items (parseItems items)
  | [], _, known => by cases known
  | (name, value) :: rest, items, known => by
      rw [List.lookup_cons] at known
      split at known
      · exact value_stands value items (Option.some.inj known)
      · exact steps_stand rest items known

theorem value_stands : (value : Json) → (items : List Json) → value = .array items →
    List.Forall₂ Stands items (parseItems items)
  | .array items, _, same => by
      cases same
      exact parse_items_stand items
  | .null, _, same | .bool _, _, same | .int _, _, same | .float _, _, same | .string _, _, same
  | .object _, _, same => by cases same

end

/-- An entry becomes a step of its kind just if it has one key, and this key and the value behind it
are well-formed. -/
theorem entry_read_iff {fields : List (String × Json)} :
    (∀ key error, parse (.object fields) ≠ .malformed key error) ↔
      ∃ key value, fields = [(key, value)] ∧ WellFormed key value := by
  constructor
  · intro accepted
    have stands := parse_stands (.object fields)
    generalize parse (.object fields) = step at stands accepted
    cases stands with
    | action named asks => exact ⟨_, _, rfl, .action named asks⟩
    | files named guards _ => exact ⟨_, _, rfl, .files named guards⟩
    | refused _ _ => exact absurd rfl (accepted _ _)
    | crowded _ => exact absurd rfl (accepted _ _)
    | other _ noMapping => exact absurd rfl (noMapping fields)
  · rintro ⟨key, value, rfl, wellFormed⟩ other error refused
    cases wellFormed with
    | action named asks =>
        rw [parse, parse_entry_action named asks] at refused
        cases refused
    | files named guards =>
        rw [parse, parse_entry_files named guards] at refused
        cases refused

end Standing

/-- A list is read whatever it holds. Each of its items becomes one step, in the order of the items,
and so do the items of the lists inside it and of the bodies of `files` steps. An entry is kept as
malformed unless it has exactly one key, which is a word of the grammar, with a value that this word
takes. -/
theorem every_item_keeps_its_place :
    (∀ items, ∃ steps, parseSequence (.array items) = .ok steps ∧
      List.Forall₂ Stands items steps) ∧
    ∀ fields, (∀ key error, parse (.object fields) ≠ .malformed key error) ↔
      ∃ key value, fields = [(key, value)] ∧ WellFormed key value :=
  ⟨fun items => ⟨parseItems items, by rw [parseSequence], parse_items_stand items⟩,
    fun _ => entry_read_iff⟩

example : parse (.object [("milestone-add", .string "v2")]) =
    .malformed "milestone-add" (.invalidActionSubtype "milestone" "add") := by
  rfl

end Step

end RepoRules
