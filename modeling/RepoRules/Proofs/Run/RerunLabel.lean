import RepoRules.Proofs.Run.Beginning
import RepoRules.Proofs.Run.Clearing
import RepoRules.Proofs.Run.Interpreter
import RepoRules.Proofs.Text.Ascii

/-!
Which label a rerun follows. It is the first one that has anything behind the prefix, and whether
that names an action is asked only afterwards: a label with blanks behind the prefix hides every
label behind it. If no such label stands in front, the first label that names an action is followed.
-/

namespace RepoRules

open Effects

theorem Text.lower_eq_empty_iff (text : String) : lower text = "" ↔ text = "" := by
  rw [lower, String.ofList_eq_empty_iff]
  constructor
  · intro lowered
    cases characters : text.toList with
    | nil => exact String.toList_eq_nil_iff.1 characters
    | cons character rest =>
        rw [characters, lower_from_cons] at lowered
        exact absurd (List.append_eq_nil_iff.1 lowered).1 (lower_at_ne_nil _ _ _)
  · rintro rfl
    rfl

namespace Rerun

/-- A label that starts with the prefix, whatever the case of its letters, and what stands behind
it. -/
def Asks (label suffix : String) : Prop :=
  ∃ head, label = head ++ suffix ∧ Text.sameAsciiCase head labelPrefix = true ∧ suffix ≠ ""

def Names (label suffix : String) : Prop :=
  Asks label suffix ∧ Text.isBlankText suffix = false

section Labels

variable {label suffix : String}

theorem suffix_eq_some_iff : suffix? label = some suffix ↔ Asks label suffix := by
  unfold suffix?
  dsimp only
  constructor
  · intro found
    split at found
    · next fits =>
        cases found
        rw [Bool.and_eq_true, decide_eq_true_eq] at fits
        obtain ⟨longer, same⟩ := fits
        refine ⟨_, ?_, same, ?_⟩
        · rw [← String.ofList_append, List.take_append_drop, String.ofList_toList]
        · rw [ne_eq, String.ofList_eq_empty_iff, List.drop_eq_nil_iff]
          omega
    · cases found
  · rintro ⟨head, rfl, same, filled⟩
    have long : head.toList.length = labelPrefix.length := by
      have lengths := congrArg List.length (Text.sameAsciiCase_iff.1 same)
      rwa [List.length_map, List.length_map, String.length_toList] at lengths
    have behind : 0 < suffix.toList.length :=
      List.length_pos_iff.2 (mt String.toList_eq_nil_iff.1 filled)
    have front : (head ++ suffix).toList.take labelPrefix.length = head.toList := by
      rw [String.toList_append, List.take_left' long]
    have back : (head ++ suffix).toList.drop labelPrefix.length = suffix.toList := by
      rw [String.toList_append, List.drop_left' long]
    have longer : labelPrefix.length < (head ++ suffix).toList.length := by
      rw [String.toList_append, List.length_append]
      omega
    rw [front, back, String.ofList_toList, String.ofList_toList, same, Bool.and_true,
      if_pos (decide_eq_true longer)]

theorem suffix_eq_none_iff : suffix? label = none ↔ ∀ suffix, ¬ Asks label suffix := by
  simp only [Option.eq_none_iff_forall_ne_some, ne_eq, suffix_eq_some_iff]

/-- A label that asks is cut behind the bytes of the prefix, where one of its characters begins. -/
theorem valid_of_asks (asks : Asks label suffix) :
    String.Pos.Raw.IsValid label labelPrefix.rawEndPos := by
  obtain ⟨head, rfl, same, _⟩ := asks
  refine String.Pos.Raw.isValid_iff_exists_append.2 ⟨head, suffix, rfl, ?_⟩
  rw [String.rawEndPos, String.rawEndPos, Text.utf8_byte_size_of_same_case same]

theorem action_eq_empty_iff (suffix : String) :
    actionOf suffix = "" ↔ Text.isBlankText suffix = true := by
  rw [actionOf, Text.lower_eq_empty_iff, Text.trim_eq_empty_iff]

end Labels

/-- The first of some labels that has anything behind the prefix. -/
def Leads (labels : List String) (label suffix : String) : Prop :=
  ∃ before rest, labels = before ++ label :: rest ∧ (∀ other ∈ before, ∀ tail, ¬ Asks other tail) ∧
    Asks label suffix

variable {labels : List String} {label action : String}

theorem find_eq_some_iff :
    find? labels = some (label, action) ↔ ∃ suffix, Leads labels label suffix ∧
      actionOf suffix = action := by
  unfold find?
  rw [List.findSome?_eq_some_iff]
  constructor
  · rintro ⟨before, label, rest, split, found, others⟩
    obtain ⟨suffix, asked, same⟩ := Option.map_eq_some_iff.1 found
    cases same
    refine ⟨suffix, ⟨before, rest, split, fun other member => ?_, suffix_eq_some_iff.1 asked⟩, rfl⟩
    exact suffix_eq_none_iff.1 (Option.map_eq_none_iff.1 (others other member))
  · rintro ⟨suffix, ⟨before, rest, split, others, asks⟩, rfl⟩
    refine ⟨before, label, rest, split, ?_, fun other member => ?_⟩
    · rw [suffix_eq_some_iff.2 asks]
      rfl
    · rw [suffix_eq_none_iff.2 (others other member)]
      rfl

/-- If there is a label that asks for a rerun, there is a first one. -/
theorem exists_leads {suffix : String} (member : label ∈ labels) (asks : Asks label suffix) :
    ∃ first tail, Leads labels first tail := by
  cases found : find? labels with
  | none =>
      have none := List.findSome?_eq_none_iff.1 found label member
      rw [suffix_eq_some_iff.2 asks] at none
      cases none
  | some asked =>
      obtain ⟨tail, leads, _⟩ := find_eq_some_iff.1 found
      exact ⟨_, tail, leads⟩

theorem Leads.append {suffix : String} (leads : Leads labels label suffix) (others : List String) :
    Leads (labels ++ others) label suffix := by
  obtain ⟨before, rest, rfl, silent, asks⟩ := leads
  exact ⟨before, rest ++ others, by rw [List.append_assoc, List.cons_append], silent, asks⟩

theorem Leads.mem {suffix : String} (leads : Leads labels label suffix) : label ∈ labels := by
  obtain ⟨before, rest, rfl, _⟩ := leads
  exact List.mem_append_right _ List.mem_cons_self

theorem Leads.asks {suffix : String} (leads : Leads labels label suffix) : Asks label suffix := by
  obtain ⟨_, _, _, _, asks⟩ := leads
  exact asks

end Rerun

namespace Context

open Rerun (Leads)

def labels (context : Context) : List String :=
  (context.target.map Item.labels).getD []

variable {context : Context} {label suffix : String}

/-- The first label with anything behind the prefix is followed if that names an action. -/
theorem rerun_of_leads (labeled : context.rawAction = "labeled")
    (leads : Leads context.labels label suffix) :
    context.rerun? =
      if Text.isBlankText suffix then none else some (label, Rerun.actionOf suffix) := by
  have found := Rerun.find_eq_some_iff.2 ⟨suffix, leads, rfl⟩
  unfold labels at found
  rw [rerun?, if_pos labeled, found, Option.filter_some]
  have blank := Rerun.action_eq_empty_iff suffix
  rw [← String.isEmpty_iff] at blank
  cases empty : (Rerun.actionOf suffix).isEmpty with
  | true => simp [blank.1 empty]
  | false =>
      have visible : Text.isBlankText suffix = false := by
        rw [← Bool.not_eq_true, ← blank, empty]
        exact Bool.false_ne_true
      simp [visible]

theorem rerun_of_silent (silent : ∀ label ∈ context.labels, ∀ suffix, ¬ Rerun.Asks label suffix) :
    context.rerun? = none := by
  have nothing : Rerun.find? ((context.target.map Item.labels).getD []) = none := by
    refine List.findSome?_eq_none_iff.2 fun label member => ?_
    rw [Rerun.suffix_eq_none_iff.2 (silent label member)]
    rfl
  rw [rerun?, nothing, Option.filter_none, ite_self]

end Context

namespace Run

section Following

variable {σ : Type} (services : Services σ)

/-- The rerun that a label asks for. The label is marked to come off, everything is read anew, and
the action is installed; a reading that fails stops it. -/
def rerunFor (label action : String) (state : RunState σ Context) :
    Except Failure (Option String) × RunState σ Context :=
  let marked := { state.context with operations := state.context.operations.removeLabel label }
  match (refresh services).run.run { state with context := marked } with
  | (.ok (), fresh) => (.ok (some action), { fresh with context := fresh.context.setAction action })
  | (.error failure, stopped) => (.error failure, stopped)

variable {services} {state : RunState σ Context}

theorem run_apply_rerun : (applyRerun services).run.run state =
    match state.context.rerun? with
    | none => (.ok none, state)
    | some (label, action) => rerunFor services label action state := by
  rw [apply_rerun_eq, run_bind_ok (run_context state)]
  rcases state.context.rerun? with _ | ⟨label, action⟩
  · rfl
  · dsimp only
    rw [run_bind_ok (run_modify_context _ state), run_bind, rerunFor]
    rcases (refresh services).run.run _ with ⟨failure | _, fresh⟩
    · rfl
    · rfl

theorem apply_rerun_of_leads (labeled : state.context.rawAction = "labeled") {label suffix : String}
    (leads : Rerun.Leads state.context.labels label suffix) :
    (applyRerun services).run.run state =
      if Text.isBlankText suffix then (.ok none, state)
      else rerunFor services label (Rerun.actionOf suffix) state := by
  rw [run_apply_rerun, Context.rerun_of_leads labeled leads]
  cases Text.isBlankText suffix with
  | true => rfl
  | false => rfl

/-- A label without a name hides what stands behind it. -/
theorem apply_rerun_of_hidden (labeled : state.context.rawAction = "labeled")
    {before rest : List String} (split : state.context.labels = before ++ rest)
    (unnamed : ∀ other ∈ before, ∀ tail, ¬ Rerun.Names other tail) {other tail : String}
    (member : other ∈ before) (asks : Rerun.Asks other tail) :
    (applyRerun services).run.run state = (.ok none, state) := by
  obtain ⟨first, suffix, leads⟩ := Rerun.exists_leads member asks
  have blank : Text.isBlankText suffix = true := by
    by_contra visible
    exact unnamed first leads.mem suffix ⟨leads.asks, Bool.eq_false_iff.2 visible⟩
  have whole := leads.append rest
  rw [← split] at whole
  rw [apply_rerun_of_leads labeled whole, if_pos blank]

/-- A rerun applies if a label names an action, unless a label with nothing but blanks behind the
prefix stands in front of the first such label: then nothing at all is done. -/
theorem first_prefixed_label_decides (services : Services σ) (state : RunState σ Context)
    (labeled : state.context.rawAction = "labeled") :
    (∀ label ∈ state.context.labels, ∀ suffix, Rerun.suffix? label = some suffix →
      Rerun.Asks label suffix ∧ String.Pos.Raw.IsValid label Rerun.labelPrefix.rawEndPos) ∧
    ((∀ label ∈ state.context.labels, ∀ suffix, ¬ Rerun.Names label suffix) →
      (applyRerun services).run.run state = (.ok none, state)) ∧
    ∀ before label rest suffix, state.context.labels = before ++ label :: rest →
      (∀ other ∈ before, ∀ tail, ¬ Rerun.Names other tail) → Rerun.Names label suffix →
      ((∀ other ∈ before, ∀ tail, ¬ Rerun.Asks other tail) →
        (applyRerun services).run.run state =
          rerunFor services label (Rerun.actionOf suffix) state) ∧
      ((∃ other ∈ before, ∃ tail, Rerun.Asks other tail) →
        (applyRerun services).run.run state = (.ok none, state)) := by
  refine ⟨?cut, ?unnamed, ?named⟩
  case cut =>
    intro label _ suffix found
    have asks := Rerun.suffix_eq_some_iff.1 found
    exact ⟨asks, Rerun.valid_of_asks asks⟩
  case unnamed =>
    intro unnamed
    by_cases asked : ∃ label ∈ state.context.labels, ∃ suffix, Rerun.Asks label suffix
    · obtain ⟨label, member, suffix, asks⟩ := asked
      exact apply_rerun_of_hidden labeled (List.append_nil _).symm unnamed member asks
    · push Not at asked
      rw [run_apply_rerun, Context.rerun_of_silent asked]
  case named =>
    intro before label rest suffix split unnamed names
    constructor
    · intro silent
      rw [apply_rerun_of_leads labeled ⟨before, rest, split, silent, names.1⟩, names.2,
        if_neg Bool.false_ne_true]
    · rintro ⟨other, member, tail, asks⟩
      exact apply_rerun_of_hidden labeled split unnamed member asks

end Following

def labeledWith (labels : List String) : RunState OfflineStore Context where
  context := { Interpreter.idleContext (.onReopened []) with
    rawAction := "labeled"
    issue := some { Item.blank with number := 7, labels } }
  store := OfflineStore.empty.seedIssue { Item.blank with number := 7, labels }
  journal := []

/-- The first of two labels is followed, whatever the case of its letters. -/
theorem opened_label_is_followed :
    let start := labeledWith ["bug", "Rerun-Action- Opened ", "rerun-action-closed"]
    start.context.rawAction = "labeled" ∧
      ∃ fresh, (applyRerun Interpreter.idleServices).run.run start = (.ok (some "opened"), fresh) ∧
        fresh.context.action = "opened" := by
  intro start
  refine ⟨rfl, ?_⟩
  obtain ⟨_, _, decides⟩ := first_prefixed_label_decides Interpreter.idleServices start rfl
  have silent : ∀ other ∈ ["bug"], ∀ tail, ¬ Rerun.Asks other tail := by
    intro other member
    obtain rfl := List.mem_singleton.1 member
    exact Rerun.suffix_eq_none_iff.1 (by decide)
  have names : Rerun.Names "Rerun-Action- Opened " " Opened " :=
    ⟨Rerun.suffix_eq_some_iff.1 (by decide), by decide⟩
  have followed := (decides ["bug"] "Rerun-Action- Opened " ["rerun-action-closed"] " Opened " rfl
    (fun other member tail named => silent other member tail named.1) names).1 silent
  have computed :
      ((rerunFor Interpreter.idleServices "Rerun-Action- Opened " (Rerun.actionOf " Opened ")
          start).1.toOption,
        (rerunFor Interpreter.idleServices "Rerun-Action- Opened " (Rerun.actionOf " Opened ")
          start).2.context.action) = (some (some "opened"), "opened") := by decide +kernel
  rcases ended : rerunFor Interpreter.idleServices "Rerun-Action- Opened "
      (Rerun.actionOf " Opened ") start with ⟨failure | answer, fresh⟩
  · rw [ended] at computed
    cases computed
  · rw [ended] at computed followed
    simp only [Except.toOption, Prod.mk.injEq, Option.some.injEq] at computed
    obtain ⟨rfl, action⟩ := computed
    exact ⟨fresh, followed, action⟩

/-- Blanks behind the prefix hide a label that names an action. -/
theorem blank_label_hides_opened :
    ¬ ∀ (services : Services OfflineStore) (state : RunState OfflineStore Context),
      state.context.rawAction = "labeled" → ∀ label ∈ state.context.labels, ∀ suffix,
      Rerun.Names label suffix →
      (rerunFor services label (Rerun.actionOf suffix) state).1.isOk = true →
      ∃ action fresh, (applyRerun services).run.run state = (.ok (some action), fresh) := by
  intro applies
  have names : Rerun.Names "rerun-action-opened" "opened" :=
    ⟨Rerun.suffix_eq_some_iff.1 (by decide), by decide⟩
  obtain ⟨action, fresh, applied⟩ := applies Interpreter.idleServices
    (labeledWith ["rerun-action- ", "rerun-action-opened"]) rfl "rerun-action-opened"
    (by decide) "opened" names (by decide +kernel)
  have nothing : ((applyRerun Interpreter.idleServices).run.run
      (labeledWith ["rerun-action- ", "rerun-action-opened"])).1.toOption = some none := by
    decide +kernel
  rw [applied] at nothing
  cases nothing

end Run

end RepoRules
