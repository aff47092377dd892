import Mathlib.Logic.Relation
import RepoRules.Proofs.Rules.Reading
import RepoRules.Rules.Condition

/-!
Groups of conditions. A group has parts inside it: the items of a list, what stands behind the keys
of a mapping, the alternatives of `any` and what `not` negates. A group is a condition just if each
part, at whatever depth, is well-formed for itself.
-/

namespace RepoRules

inductive Condition.Lists : Json → List String → Prop
  | alone (text : String) : Lists (.string text) [text]
  | list (texts : List String) : Lists (.array (texts.map .string)) texts

/-- What a key in lower case and a value say of the issue or pull request at hand. -/
inductive Fact.Named : String → Json → Fact → Prop
  | hasLabel {value : Json} {labels : List String} (listed : Condition.Lists value labels) :
      Named "has-label" value (.hasLabel labels)
  | missingLabel {value : Json} {labels : List String} (listed : Condition.Lists value labels) :
      Named "missing-label" value (.missingLabel labels)
  | titleMatches {source : String} {pattern : Pattern}
      (parsed : Pattern.parseIgnoringCase source = .ok pattern) :
      Named "title-matches" (.string source) (.titleMatches pattern)
  | bodyMatches {source : String} {pattern : Pattern}
      (parsed : Pattern.parseIgnoringCase source = .ok pattern) :
      Named "body-matches" (.string source) (.bodyMatches pattern)
  | commentMatches {source : String} {pattern : Pattern}
      (parsed : Pattern.parseIgnoringCase source = .ok pattern) :
      Named "comment-matches" (.string source) (.commentMatches pattern)
  | authorIn {value : Json} {logins : List String} (listed : Condition.Lists value logins) :
      Named "author-in" value (.authorIn logins)
  | isPullRequest (expected : Bool) :
      Named "is-pull-request" (.bool expected) (.isPullRequest expected)
  | variableEquals {fields : List (String × Json)} {name : String}
      (known : fields.lookup "name" = some (.string name)) :
      Named "variable-equals" (.object fields)
        (.variableEquals name (Condition.scalarText (fields.lookup "value")))

theorem Fact.Named.other {key : String} {value : Json} {fact : Fact}
    (named : Fact.Named key value fact) : key ≠ "any" ∧ key ≠ "not" ∧ key ≠ "expr" := by
  cases named <;> decide

namespace Condition

/-- A raw group, or what stands behind a key of a mapping. -/
inductive Part where
  | group (value : Json)
  | named (key : String) (value : Json)

def Part.read : Part → Except RuleError Condition
  | .group value => ofGroup value
  | .named key value =>
      Condition.named key value (fun _ => ofGroup value) (fun _ => ofList value)

inductive Part.Inside : Part → Part → Prop
  | item {items : List Json} {item : Json} (member : item ∈ items) :
      Inside (.group item) (.group (.array items))
  | field {fields : List (String × Json)} {key : String} {value : Json}
      (member : (key, value) ∈ fields) : Inside (.named key value) (.group (.object fields))
  | alternative {key : String} {items : List Json} {item : Json}
      (any : Text.asciiLower key = "any") (member : item ∈ items) :
      Inside (.group item) (.named key (.array items))
  | negated {key : String} {value : Json} (not : Text.asciiLower key = "not") :
      Inside (.group value) (.named key value)

/-- A part is in order, whatever stands inside it. -/
inductive Part.WellFormed : Part → Prop
  | flag (holds : Bool) : WellFormed (.group (.bool holds))
  | text {source : String} (compiles : Query.compiles source = true) :
      WellFormed (.group (.string source))
  | list {items : List Json} (filled : items ≠ []) : WellFormed (.group (.array items))
  | mapping {fields : List (String × Json)} (filled : fields ≠ []) :
      WellFormed (.group (.object fields))
  | any {key : String} (named : Text.asciiLower key = "any") (items : List Json) :
      WellFormed (.named key (.array items))
  | not {key : String} (named : Text.asciiLower key = "not") (value : Json) :
      WellFormed (.named key value)
  | expression {key source : String} (named : Text.asciiLower key = "expr")
      (compiles : Query.compiles source = true) : WellFormed (.named key (.string source))
  | fact {key : String} {value : Json} {fact : Fact}
      (named : Fact.Named (Text.asciiLower key) value fact) : WellFormed (.named key value)

/-- How a part is made into a condition, once the parts inside it have been. -/
inductive Part.Built : Part → Condition → Prop
  | flag (holds : Bool) : Built (.group (.bool holds)) (.fact (.constant holds))
  | text {source : String} (compiles : Query.compiles source = true) :
      Built (.group (.string source)) (.expression source)
  | list {items : List Json} {parts : List Condition} (filled : items ≠ [])
      (read : items.mapM ofGroup = .ok parts) : Built (.group (.array items)) (.all parts)
  | mapping {fields : List (String × Json)} {parts : List Condition} (filled : fields ≠ [])
      (read : (fields.mapM fun field => (Part.named field.1 field.2).read) = .ok parts) :
      Built (.group (.object fields)) (allOf parts)
  | any {key : String} {items : List Json} {parts : List Condition}
      (named : Text.asciiLower key = "any") (read : items.mapM ofGroup = .ok parts) :
      Built (.named key (.array items)) (.any parts)
  | not {key : String} {value : Json} {inner : Condition} (named : Text.asciiLower key = "not")
      (read : ofGroup value = .ok inner) : Built (.named key value) (.not inner)
  | expression {key source : String} (named : Text.asciiLower key = "expr")
      (compiles : Query.compiles source = true) :
      Built (.named key (.string source)) (.expression source)
  | fact {key : String} {value : Json} {fact : Fact}
      (named : Fact.Named (Text.asciiLower key) value fact) : Built (.named key value) (.fact fact)

section Facts

variable {key : String} {value : Json}

theorem text_eq_ok_iff {found : String} : text key value = .ok found ↔ value = .string found := by
  cases value with
  | string held => simp [text]
  | null | bool | int | float | array | object => simp [text, refuse]

theorem texts_eq_ok_iff {texts : List String} :
    Condition.texts key value = .ok texts ↔ Lists value texts := by
  have listed (items : List Json) :
      items.mapM (text key) = .ok texts ↔ items = texts.map .string := by
    simp only [mapM_eq_ok_iff, text_eq_ok_iff]
    rw [← List.forall₂_eq_eq_eq, List.forall₂_map_right_iff]
  constructor
  · intro read
    unfold Condition.texts at read
    split at read
    · cases read
      exact .alone _
    · rw [(listed _).1 read]
      exact .list texts
    · cases read
  · intro lists
    cases lists with
    | alone found => rfl
    | list => exact (listed _).2 rfl

theorem pattern_eq_ok_iff {found : Pattern} : Condition.pattern key value = .ok found ↔
    ∃ source, value = .string source ∧ Pattern.parseIgnoringCase source = .ok found := by
  constructor
  · intro read
    obtain ⟨source, taken, read⟩ := bind_eq_ok read
    exact ⟨source, text_eq_ok_iff.1 taken, map_error_eq_ok read⟩
  · rintro ⟨source, rfl, parsed⟩
    rw [Condition.pattern, text_eq_ok_iff.2 rfl]
    change (Pattern.parseIgnoringCase source).mapError _ = _
    rw [parsed]
    rfl

theorem fact_of_eq_ok_iff {fact : Fact} :
    factOf key value = .ok fact ↔ Fact.Named (Text.asciiLower key) value fact := by
  unfold factOf
  generalize Text.asciiLower key = word
  constructor
  · intro read
    split at read
    · obtain ⟨labels, taken, rfl⟩ := map_eq_ok read
      exact .hasLabel (texts_eq_ok_iff.1 taken)
    · obtain ⟨labels, taken, rfl⟩ := map_eq_ok read
      exact .missingLabel (texts_eq_ok_iff.1 taken)
    · obtain ⟨found, taken, rfl⟩ := map_eq_ok read
      obtain ⟨source, rfl, parsed⟩ := pattern_eq_ok_iff.1 taken
      exact .titleMatches parsed
    · obtain ⟨found, taken, rfl⟩ := map_eq_ok read
      obtain ⟨source, rfl, parsed⟩ := pattern_eq_ok_iff.1 taken
      exact .bodyMatches parsed
    · obtain ⟨found, taken, rfl⟩ := map_eq_ok read
      obtain ⟨source, rfl, parsed⟩ := pattern_eq_ok_iff.1 taken
      exact .commentMatches parsed
    · obtain ⟨logins, taken, rfl⟩ := map_eq_ok read
      exact .authorIn (texts_eq_ok_iff.1 taken)
    · split at read
      · cases read
        exact .isPullRequest _
      · cases read
    · unfold variableOf at read
      split at read
      · split at read
        · cases read
          exact .variableEquals (by assumption)
        · cases read
      · cases read
    · cases read
  · intro named
    cases named with
    | hasLabel listed | missingLabel listed | authorIn listed =>
        rw [texts_eq_ok_iff.2 listed]
        rfl
    | titleMatches parsed | bodyMatches parsed | commentMatches parsed =>
        rw [pattern_eq_ok_iff.2 ⟨_, rfl, parsed⟩]
        rfl
    | isPullRequest expected => rfl
    | variableEquals known =>
        change variableOf key _ = _
        rw [variableOf, known]

end Facts

section Reading

theorem of_groups_eq (items : List Json) : ofGroups items = items.mapM ofGroup := by
  induction items with
  | nil => rfl
  | cons item rest induction => rw [ofGroups, List.mapM_cons, induction]

theorem of_fields_eq (fields : List (String × Json)) :
    ofFields fields = fields.mapM fun field => (Part.named field.1 field.2).read := by
  induction fields with
  | nil => rfl
  | cons field rest induction =>
      rw [ofFields, List.mapM_cons, induction]
      rfl

theorem expression_of_eq_ok_iff {source : String} {condition : Condition} :
    expressionOf source = .ok condition ↔
      Query.compiles source = true ∧ condition = .expression source := by
  unfold expressionOf
  split
  · rename_i compiles
    simp [compiles, eq_comm]
  · rename_i refused
    simp [refused]

variable {part : Part} {condition : Condition}

theorem Part.built_of_group {value : Json} (read : ofGroup value = .ok condition) :
    Built (.group value) condition := by
  match value with
  | .array [] | .object [] =>
      rw [ofGroup] at read
      cases read
  | .array (item :: rest) =>
      rw [ofGroup] at read
      obtain ⟨parts, taken, rfl⟩ := map_eq_ok read
      exact .list (List.cons_ne_nil _ _) (of_groups_eq _ ▸ taken)
  | .object (field :: rest) =>
      rw [ofGroup] at read
      obtain ⟨parts, taken, rfl⟩ := map_eq_ok read
      exact .mapping (List.cons_ne_nil _ _) (of_fields_eq _ ▸ taken)
  | .string source =>
      rw [ofGroup] at read
      obtain ⟨compiles, rfl⟩ := expression_of_eq_ok_iff.1 read
      exact .text compiles
  | .bool holds =>
      rw [ofGroup] at read
      cases read
      exact .flag holds
  | .null | .int _ | .float _ =>
      rw [ofGroup] at read
      · cases read
      all_goals simp

theorem Part.built_of_named {key : String} {value : Json}
    (read : (Part.named key value).read = .ok condition) : Built (.named key value) condition := by
  simp only [Part.read, Condition.named] at read
  generalize word : Text.asciiLower key = lowered at read
  split at read
  · cases value with
    | array items =>
        simp only [ofList] at read
        obtain ⟨parts, taken, rfl⟩ := map_eq_ok read
        exact .any word (of_groups_eq _ ▸ taken)
    | null | bool | int | float | string | object =>
        simp only [ofList] at read
        cases read
  · obtain ⟨inner, taken, rfl⟩ := map_eq_ok read
    exact .not word taken
  · obtain ⟨source, taken, read⟩ := bind_eq_ok read
    obtain rfl := text_eq_ok_iff.1 taken
    obtain ⟨compiles, rfl⟩ := expression_of_eq_ok_iff.1 read
    exact .expression word compiles
  · obtain ⟨fact, taken, rfl⟩ := map_eq_ok read
    exact .fact (fact_of_eq_ok_iff.1 taken)

section Words

variable {key : String} {value : Json}

theorem Part.read_any (named : Text.asciiLower key = "any") (items : List Json) :
    (Part.named key (.array items)).read = (items.mapM ofGroup).map .any := by
  simp only [Part.read, Condition.named, named, ofList, of_groups_eq]

theorem Part.read_not (named : Text.asciiLower key = "not") (value : Json) :
    (Part.named key value).read = (ofGroup value).map .not := by
  simp only [Part.read, Condition.named, named]

theorem Part.read_expression (named : Text.asciiLower key = "expr") (source : String) :
    (Part.named key (.string source)).read = expressionOf source := by
  simp only [Part.read, Condition.named, named]
  rfl

theorem Part.read_fact {fact : Fact} (named : Fact.Named (Text.asciiLower key) value fact) :
    (Part.named key value).read = .ok (.fact fact) := by
  obtain ⟨noAny, noNot, noExpression⟩ := named.other
  simp only [Part.read, Condition.named, fact_of_eq_ok_iff.2 named]
  rfl

end Words

theorem Part.read_of_built (built : Built part condition) : part.read = .ok condition := by
  cases built with
  | flag holds => rfl
  | text compiles => exact expression_of_eq_ok_iff.2 ⟨compiles, rfl⟩
  | @list items parts filled read =>
      obtain ⟨item, rest, rfl⟩ := List.exists_cons_of_ne_nil filled
      rw [Part.read, ofGroup, of_groups_eq, read]
      rfl
  | @mapping fields parts filled read =>
      obtain ⟨field, rest, rfl⟩ := List.exists_cons_of_ne_nil filled
      rw [Part.read, ofGroup, of_fields_eq, read]
      rfl
  | any named read =>
      rw [read_any named, read]
      rfl
  | not named read =>
      rw [read_not named, read]
      rfl
  | expression named compiles =>
      rw [read_expression named]
      exact expression_of_eq_ok_iff.2 ⟨compiles, rfl⟩
  | fact named => exact read_fact named

theorem Part.read_eq_ok_iff : part.read = .ok condition ↔ Built part condition := by
  refine ⟨fun read => ?_, read_of_built⟩
  cases part with
  | group value => exact built_of_group read
  | named key value => exact built_of_named read

end Reading

section Validity

variable {part : Part}

/-- A part is a condition just if it is well-formed and the parts right inside it are conditions. -/
theorem Part.is_read_iff : (∃ condition, part.read = .ok condition) ↔
    part.WellFormed ∧ ∀ inner, Inside inner part → ∃ condition, inner.read = .ok condition := by
  constructor
  · rintro ⟨condition, read⟩
    cases read_eq_ok_iff.1 read with
    | flag holds => exact ⟨.flag holds, nofun⟩
    | text compiles => exact ⟨.text compiles, nofun⟩
    | list filled taken =>
        refine ⟨.list filled, ?_⟩
        rintro _ (⟨member⟩)
        exact exists_mapM_eq_ok_iff.1 ⟨_, taken⟩ _ member
    | mapping filled taken =>
        have each := exists_mapM_eq_ok_iff.1 ⟨_, taken⟩
        refine ⟨.mapping filled, ?_⟩
        rintro _ (⟨⟩ | @⟨_, key, value, member⟩)
        exact each (key, value) member
    | any named taken =>
        refine ⟨.any named _, ?_⟩
        intro inner inside
        cases inside with
        | alternative _ member => exact exists_mapM_eq_ok_iff.1 ⟨_, taken⟩ _ member
        | negated not => exact absurd (named.symm.trans not) (by decide)
    | not named taken =>
        refine ⟨.not named _, ?_⟩
        intro inner inside
        cases inside with
        | alternative any _ => exact absurd (named.symm.trans any) (by decide)
        | negated _ => exact ⟨_, taken⟩
    | expression named compiles =>
        refine ⟨.expression named compiles, ?_⟩
        intro inner inside
        cases inside with
        | negated not => exact absurd (named.symm.trans not) (by decide)
    | fact named =>
        refine ⟨.fact named, ?_⟩
        intro inner inside
        cases inside with
        | alternative any _ => exact absurd any named.other.1
        | negated not => exact absurd not named.other.2.1
  · rintro ⟨wellFormed, parts⟩
    cases wellFormed with
    | flag holds => exact ⟨_, read_of_built (.flag holds)⟩
    | text compiles => exact ⟨_, read_of_built (.text compiles)⟩
    | list filled =>
        obtain ⟨_, taken⟩ := exists_mapM_eq_ok_iff.2 fun item member => parts _ (.item member)
        exact ⟨_, read_of_built (.list filled taken)⟩
    | mapping filled =>
        obtain ⟨_, taken⟩ := exists_mapM_eq_ok_iff.2 fun (field : String × Json) member =>
          parts (.named field.1 field.2) (.field member)
        exact ⟨_, read_of_built (.mapping filled taken)⟩
    | any named items =>
        obtain ⟨_, taken⟩ := exists_mapM_eq_ok_iff.2 fun item member =>
          parts _ (.alternative named member)
        exact ⟨_, read_of_built (.any named taken)⟩
    | not named value =>
        obtain ⟨_, taken⟩ := parts _ (.negated named)
        exact ⟨_, read_of_built (.not named taken)⟩
    | expression named compiles => exact ⟨_, read_of_built (.expression named compiles)⟩
    | fact named => exact ⟨_, read_of_built (.fact named)⟩

/-- What stands behind a key is smaller than the mapping and larger than what it negates. -/
noncomputable def Part.size : Part → Nat
  | .group value => 2 * sizeOf value
  | .named _ value => 2 * sizeOf value + 1

theorem Part.Inside.size_lt {inner : Part} (inside : Inside inner part) :
    inner.size < part.size := by
  cases inside with
  | item member | alternative _ member =>
      have smaller := List.sizeOf_lt_of_mem member
      simp only [Part.size, Json.array.sizeOf_spec]
      omega
  | field member =>
      have smaller := List.sizeOf_lt_of_mem member
      simp only [Part.size, Json.object.sizeOf_spec, Prod.mk.sizeOf_spec] at smaller ⊢
      omega
  | negated _ =>
      simp only [Part.size]
      omega

theorem Part.Inside.wellFounded : WellFounded Part.Inside :=
  Subrelation.wf (fun inside => Part.Inside.size_lt inside) (measure Part.size).wf

theorem Part.is_read_iff_all : (∃ condition, part.read = .ok condition) ↔
    ∀ inner, Relation.ReflTransGen Inside inner part → inner.WellFormed := by
  constructor
  · intro read inner path
    have inside : ∃ condition, inner.read = .ok condition := by
      induction path using Relation.ReflTransGen.head_induction_on with
      | refl => exact read
      | head inside _ induction => exact (is_read_iff.1 induction).2 _ inside
    exact (is_read_iff.1 inside).1
  · induction part using Part.Inside.wellFounded.induction with
    | _ part induction =>
        intro all
        refine is_read_iff.2 ⟨all part .refl, fun inner inside => ?_⟩
        exact induction inner inside fun other path => all other (path.tail inside)

end Validity

end Condition

end RepoRules
