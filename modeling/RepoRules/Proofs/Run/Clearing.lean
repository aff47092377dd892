import Mathlib.Data.List.TakeWhile
import RepoRules.Proofs.Rules.Variables
import RepoRules.Proofs.Run.Milestone
import RepoRules.Proofs.Text.Case

/-!
Titles that fade. A removal of a milestone is meant for the one that it names, but takes a title
that has come out empty for none given, and then clears whichever milestone there is. A title comes
out empty if a query fails or answers nothing, or if all that is visible of it are tokens of
variables that are blank.
-/

namespace RepoRules

open Effects

namespace VariableTable

/-- A template of which nothing can be seen once its tokens are replaced. -/
inductive Fades (table : VariableTable) : List Char → Prop
  | nil : Fades table []
  | blank {character : Char} {rest : List Char} (invisible : Text.isBlank character = true)
      (behind : Fades table rest) : Fades table (character :: rest)
  | token {name rest : List Char} {value : String}
      (named : (table.tokenNames.find? fun name => closes name rest) = some name)
      (held : table.get? (String.ofList (rest.take name.length)) = some value)
      (invisible : Text.isBlankText value = true)
      (behind : Fades table (rest.drop (name.length + 1))) : Fades table ('$' :: rest)

variable (table : VariableTable)

/-- A dollar sign can be seen, so that it has to open a token. -/
theorem fades_of_dollar {rest : List Char} : table.Fades ('$' :: rest) ↔
    ∃ name value, (table.tokenNames.find? fun name => closes name rest) = some name ∧
      table.get? (String.ofList (rest.take name.length)) = some value ∧
      Text.isBlankText value = true ∧ table.Fades (rest.drop (name.length + 1)) := by
  constructor
  · intro fades
    cases fades with
    | blank invisible _ => exact absurd invisible (by decide)
    | token named held invisible behind => exact ⟨_, _, named, held, invisible, behind⟩
  · rintro ⟨name, value, named, held, invisible, behind⟩
    exact .token named held invisible behind

theorem fades_iff (characters : List Char) :
    (table.substituteChars characters).all Text.isBlank = true ↔ table.Fades characters := by
  fun_induction substituteChars table characters with
  | case1 => exact iff_of_true rfl .nil
  | case2 rest name named written replacement induction =>
      rw [List.all_append, Bool.and_eq_true, induction, fades_of_dollar]
      constructor
      · rintro ⟨invisible, behind⟩
        cases held : table.get? (String.ofList written) with
        | none =>
            simp only [replacement, held] at invisible
            exact absurd invisible (by simp [Text.isBlank])
        | some value =>
            simp only [replacement, held] at invisible
            exact ⟨name, value, named, held, invisible, behind⟩
      · rintro ⟨other, value, found, held, invisible, behind⟩
        obtain rfl := Option.some.inj (named.symm.trans found)
        have put : replacement = value.toList := by
          simp only [replacement, written, held]
        exact ⟨by rw [put]; exact invisible, behind⟩
  | case3 rest unnamed induction =>
      -- a dollar sign that opens no token stays, and is seen
      refine iff_of_false (by simp [Text.isBlank]) fun fades => ?_
      obtain ⟨name, _, named, _⟩ := table.fades_of_dollar.1 fades
      rw [unnamed] at named
      cases named
  | case4 character rest other induction =>
      rw [List.all_cons, Bool.and_eq_true, induction]
      constructor
      · rintro ⟨invisible, behind⟩
        exact .blank invisible behind
      · intro fades
        cases fades with
        | blank invisible behind => exact ⟨invisible, behind⟩
        | token _ _ _ _ => exact absurd rfl other

/-- Nothing can be seen of a template if it fades and its tokens can be replaced. -/
theorem blank_substitute_iff (template : String) :
    Text.isBlankText (table.substitute template) = true ↔
      ('$' ∈ template.toList → table.hasPattern = true) ∧ table.Fades template.toList := by
  rw [Text.isBlankText]
  cases found : table.hasPattern with
  | true =>
      rw [table.substitute_of_pattern found, String.toList_ofList, fades_iff]
      exact (and_iff_right fun _ => rfl).symm
  | false =>
      rw [table.substitute_of_no_pattern found]
      by_cases dollar : '$' ∈ template.toList
      · refine iff_of_false (fun invisible => ?_) fun held => Bool.false_ne_true (held.1 dollar)
        exact absurd (List.all_eq_true.1 invisible '$' dollar) (by decide)
      · have plain : table.substituteChars template.toList = template.toList := by
          rw [← List.append_nil template.toList, table.substitute_chars_plain dollar,
            substituteChars, List.append_nil]
        rw [← fades_iff, plain]
        exact (and_iff_right fun held => absurd held dollar).symm

end VariableTable

theorem Template.dollar_of_query {template source : String}
    (query : queryBody? template = some source) : '$' ∈ template.toList := by
  obtain ⟨body, found, _⟩ := Option.map_eq_some_iff.1 query
  have opened : Text.trimStart template = queryPrefix ++ body :=
    Text.stripPrefix?_eq_some_iff.1 found
  have member : '$' ∈ (Text.trimStart template).toList := by
    rw [opened, String.toList_append]
    exact List.mem_append_left _ (by decide)
  rw [Text.trimStart, String.toList_ofList] at member
  exact (List.dropWhile_suffix Text.isBlank).subset member

namespace Context

variable (context : Context) {template : String}

inductive Fades (template : String) : Prop
  | unanswered {source : String} {error : Query.Error}
      (query : Template.queryBody? template = some source)
      (failed : context.answer source = .error error) : Fades template
  | answered {source : String} {value : Json}
      (query : Template.queryBody? template = some source)
      (found : context.answer source = .ok value)
      (invisible : Text.isBlankText (Template.renderResult value) = true) : Fades template
  | replaced (plain : Template.queryBody? template = none)
      (replaces : '$' ∈ template.toList → context.variableTable.hasPattern = true)
      (invisible : context.variableTable.Fades template.toList) : Fades template

theorem text_fades_iff (template : String) :
    Text.trim (context.textOf template) = "" ↔ context.Fades template := by
  rw [Text.trim_eq_empty_iff, textOf]
  cases query : Template.queryBody? template with
  | none =>
      dsimp only
      rw [VariableTable.blank_substitute_iff]
      constructor
      · exact fun ⟨replaces, invisible⟩ => .replaced query replaces invisible
      · rintro (⟨found, _⟩ | ⟨found, _, _⟩ | ⟨_, replaces, invisible⟩)
        · rw [query] at found
          cases found
        · rw [query] at found
          cases found
        · exact ⟨replaces, invisible⟩
  | some source =>
      dsimp only
      cases ran : context.answer source with
      | error error => exact iff_of_true rfl (.unanswered query ran)
      | ok value =>
          constructor
          · exact fun invisible => .answered query ran invisible
          · rintro (⟨found, failed⟩ | ⟨found, answered, invisible⟩ | ⟨plain, _, _⟩)
            · obtain rfl := Option.some.inj (query.symm.trans found)
              rw [ran] at failed
              cases failed
            · obtain rfl := Option.some.inj (query.symm.trans found)
              obtain rfl := Except.ok.inj (ran.symm.trans answered)
              exact invisible
            · rw [query] at plain
              cases plain

theorem text_of_plain (plain : '$' ∉ template.toList) : context.textOf template = template := by
  have direct : Template.queryBody? template = none :=
    Option.eq_none_iff_forall_ne_some.2 fun source query => plain (Template.dollar_of_query query)
  rw [textOf, direct]
  exact context.variableTable.substitute_of_plain plain

/-- What a removal of a milestone sends, where `value` is what it has for a title. -/
structure Clears (value : String) (sent : List Mutation) : Prop where
  clearing : ∀ mutation ∈ sent, ∃ item, context.target = some item ∧
    mutation = .setMilestone item.number none
  sends : sent ≠ [] ↔ ∃ item current, context.target = some item ∧ item.milestone = some current ∧
    (context.Fades value ∨ Text.trim (context.textOf value) = current)
  /-- Whichever milestone there is goes if the title has faded, and only then. -/
  other : (sent ≠ [] ∧ ∀ item, context.target = some item →
      item.milestone ≠ some (Text.trim (context.textOf value))) ↔
    context.Fades value ∧ ∃ item current, context.target = some item ∧
      item.milestone = some current ∧ current ≠ ""
  /-- A title that is written out cannot fade. -/
  plain : '$' ∉ value.toList → Text.trim value ≠ "" → sent ≠ [] →
    ∃ item, context.target = some item ∧ item.milestone = some (Text.trim value)

variable {context} {value : String} {sent : List Mutation}

theorem Clears.of_sends
    (clearing : ∀ mutation ∈ sent, ∃ item, context.target = some item ∧
      mutation = .setMilestone item.number none)
    (sends : sent ≠ [] ↔ ∃ item current, context.target = some item ∧
      item.milestone = some current ∧
      (context.Fades value ∨ Text.trim (context.textOf value) = current)) :
    context.Clears value sent := by
  refine ⟨clearing, sends, ⟨?_, ?_⟩, ?_⟩
  · rintro ⟨sending, unnamed⟩
    obtain ⟨item, current, target, milestone, fades | named⟩ := sends.1 sending
    · refine ⟨fades, item, current, target, milestone, ?_⟩
      rintro rfl
      rw [← context.text_fades_iff value] at fades
      exact unnamed item target (by rw [milestone, fades])
    · exact absurd (by rw [milestone, named]) (unnamed item target)
  · rintro ⟨fades, item, current, target, milestone, filled⟩
    refine ⟨sends.2 ⟨item, current, target, milestone, .inl fades⟩, ?_⟩
    intro other here
    obtain rfl := Option.some.inj (target.symm.trans here)
    rw [(context.text_fades_iff value).2 fades, milestone]
    exact fun empty => filled (Option.some.inj empty)
  · intro plain filled sending
    have same := context.text_of_plain plain
    obtain ⟨item, current, target, milestone, fades | named⟩ := sends.1 sending
    · rw [← context.text_fades_iff value, same] at fades
      exact absurd fades filled
    · rw [same] at named
      exact ⟨item, target, by rw [milestone, named]⟩

theorem writes_of_removal (context : Context) (value : String) :
    (Operation.milestone .remove value).writes context =
      match context.target with
      | none => []
      | some item =>
          ((Change.remove.milestone? (Text.trim (context.textOf value)) item.milestone).map
            (Mutation.setMilestone item.number)).toList := by
  rw [Operation.writes]
  exact List.append_nil _

theorem clears_writes (context : Context) (value : String) :
    context.Clears value ((Operation.milestone .remove value).writes context) := by
  rw [writes_of_removal]
  cases target : context.target with
  | none => exact .of_sends (List.forall_mem_nil _) (iff_of_false (absurd rfl) (by simp [target]))
  | some item =>
      have faded := context.text_fades_iff value
      dsimp only [Change.milestone?]
      refine .of_sends ?_ ?_
      · split
        · intro mutation member
          exact ⟨item, target, List.mem_singleton.1 member⟩
        · exact List.forall_mem_nil _
      · rw [← faded, target]
        cases milestone : item.milestone with
        | none => simp [milestone]
        | some current =>
            simpa [milestone, eq_comm (a := current)] using or_iff_not_imp_left.symm

end Context

namespace Run

variable {σ : Type} {services : Services σ} {operation : Operation} {state : RunState σ Context}

/-- Evaluations write nothing. -/
theorem writes_evaluating (state : RunState σ Context) (evaluations : List Evaluation) :
    Event.writes (state.evaluating evaluations).journal = Event.writes state.journal := by
  refine eq_of_steps (fun reached => Event.writes reached.journal) (fun _ _ evaluates => ?_)
    (state.steps_evaluating evaluations)
  cases evaluates with
  | noted source => exact Event.writes_append_silent rfl
  | failed message => rfl

/-- A step that makes one write at most makes it, whether or not it succeeds. -/
theorem writes_of_single (single : (operation.writes state.context).length ≤ 1) :
    Event.writes ((operate services operation).run.run state).2.journal =
      Event.writes state.journal ++ operation.writes state.context := by
  have acts : ActsAs services operation (operate services operation) state :=
    acts_operate operation state
  obtain ⟨result, store, sent, going, early, complete, failed⟩ :=
    writes_go_out services.client (operation.writes state.context)
      (state.evaluating (operation.evaluations state.context))
  have whole : sent = operation.writes state.context := by
    cases result with
    | ok value => exact complete value rfl
    | error failure =>
        -- the write that failed went out, and there is no other one
        obtain ⟨last, _, ends, _⟩ := failed failure rfl
        refine early.eq_of_length_le (single.trans ?_)
        exact List.length_pos_of_mem (List.mem_of_getLast? ends)
  change ((operation.writes state.context).forM (write services)).run.run _ = _ at going
  rw [acts, run_bind, going]
  cases result with
  | error failure =>
      rw [Event.writes_append, Event.writes_of_mutations, writes_evaluating, whole]
  | ok value =>
      change Event.writes (_ ++ _) = _
      rw [Event.writes_append, Event.writes_of_mutations, writes_evaluating, whole]

/-- A removal of a milestone clears the one that it names, or any if its title has faded. -/
theorem faded_title_clears_any_milestone (services : Services σ) (value : String)
    (state : RunState σ Context) :
    ∃ sent, Event.writes ((operate services (.milestone .remove value)).run.run state).2.journal =
        Event.writes state.journal ++ sent ∧
      state.context.Clears value sent := by
  refine ⟨_, writes_of_single ?_, state.context.clears_writes value⟩
  rw [Context.writes_of_removal]
  cases state.context.target with
  | none => exact Nat.zero_le 1
  | some item => exact Option.length_toList_le

end Run

namespace OfflineRun

def authorless : OfflineRun where
  repository := ⟨"octo", "docs"⟩
  page _ := none
  rules := .fixed (.onOpened [.action (.operation (.milestone .remove "$author$"))])
  delivery := planned
  seeded := planned.seeded
  ends := by decide +kernel

/-- A removal with a value that is not blank clears a milestone that it does not name. -/
theorem unnamed_milestone_is_cleared :
    ¬ ∀ (run : OfflineRun), ∀ step ∈ run.course.steps, ∀ value item,
      step.operation = .milestone .remove value → Text.trim value ≠ "" →
      step.context.target = some item → .setMilestone item.number none ∈ step.writes →
      item.milestone = some (Text.trim (step.context.textOf value)) := by
  intro named
  have member : ∃ step ∈ authorless.course.steps,
      step.operation = .milestone .remove "$author$" ∧
      step.context.target = some { Item.blank with number := 7, milestone := some "B" } ∧
      .setMilestone 7 none ∈ step.writes ∧
      Text.trim (step.context.textOf "$author$") = "" := by decide +kernel
  obtain ⟨step, ran, operation, target, written, title⟩ := member
  have same := named authorless step ran "$author$" _ operation (by decide) target written
  rw [title] at same
  exact absurd same (by decide)

end OfflineRun

end RepoRules
