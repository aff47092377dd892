import RepoRules.Proofs.Rules.Groups
import RepoRules.Proofs.Run.Failures
import RepoRules.Proofs.Run.Gates

/-!
What a group of conditions means. Its parts are judged from left to right and only as far as needed:
lists and mappings hold if all of their parts do, `any` if one does, `not` if its part does not. An
expression without an answer leaves the whole group without one. The condition that a group is read
as is judged just so, and a gate opens only for a group that holds.
-/

namespace RepoRules

namespace Condition

section Runs

variable {α β : Type} {steps : Judge α} {next : α → Judge β} {seen after : List String}

theorem judge_bind_ok {value : α} (ran : steps.run.run seen = (.ok value, after)) :
    (steps >>= next).run.run seen = (next value).run.run after := by
  rw [ExceptT.run_bind, StateT.run_bind, ran]
  rfl

theorem judge_bind_error {error : RuleError} (ran : steps.run.run seen = (.error error, after)) :
    (steps >>= next).run.run seen = (.error error, after) := by
  rw [ExceptT.run_bind, StateT.run_bind, ran]
  rfl

def Appends (steps : Judge α) : Prop :=
  ∀ seen, steps.run.run seen = ((steps.run.run []).1, seen ++ (steps.run.run []).2)

theorem appends_pure (value : α) : Appends (pure value : Judge α) := by
  intro seen
  change (Except.ok value, seen) = (Except.ok value, seen ++ [])
  rw [List.append_nil]

theorem Appends.bind (first : Appends steps) (others : ∀ value, Appends (next value)) :
    Appends (steps >>= next) := by
  intro seen
  rcases ran : steps.run.run [] with ⟨error | value, noted⟩
  · have here := first seen
    rw [ran] at here
    rw [judge_bind_error here, judge_bind_error ran]
  · have here := first seen
    rw [ran] at here
    rw [judge_bind_ok here, judge_bind_ok ran, others value (seen ++ noted), others value noted,
      List.append_assoc]

end Runs

variable (context : Context)

def answerTo (source : String) : Except RuleError Bool :=
  match context.answer source with
  | .ok value => .ok value.isTruthy
  | .error fault => .error (.query (.evaluation source fault))

theorem run_judge_query (source : String) (seen : List String) :
    (judgeQuery context source).run.run seen = (answerTo context source, seen ++ [source]) := by
  have noted : (modify (· ++ [source]) : Judge PUnit).run.run seen = (.ok ⟨⟩, seen ++ [source]) :=
    rfl
  rw [judgeQuery, judge_bind_ok noted, answerTo]
  cases context.answer source with
  | ok value => rfl
  | error fault => rfl

mutual

theorem appends_judge : (condition : Condition) → Appends (judge context condition)
  | .fact _ => appends_pure _
  | .expression source => fun seen => by
      rw [judge, run_judge_query, run_judge_query, List.nil_append]
  | .all parts => appends_judge_all parts
  | .any parts => appends_judge_any parts
  | .not inner => (appends_judge inner).bind fun _ => appends_pure _

theorem appends_judge_all : (parts : List Condition) → Appends (judgeAll context parts)
  | [] => appends_pure _
  | part :: rest => by
      rw [judgeAll]
      refine (appends_judge part).bind fun holds => ?_
      cases holds with
      | true => exact appends_judge_all rest
      | false => exact appends_pure _

theorem appends_judge_any : (parts : List Condition) → Appends (judgeAny context parts)
  | [] => appends_pure _
  | part :: rest => by
      rw [judgeAny]
      refine (appends_judge part).bind fun holds => ?_
      cases holds with
      | true => exact appends_pure _
      | false => exact appends_judge_any rest

end

def evaluateAll (parts : List Condition) : Except RuleError Bool × List String :=
  (judgeAll context parts).run.run []

def evaluateAny (parts : List Condition) : Except RuleError Bool × List String :=
  (judgeAny context parts).run.run []

section Parts

variable {context} {part : Condition} {rest : List Condition} {trace : List String}

theorem evaluate_all_of_true (held : part.evaluate context = (.ok true, trace)) :
    evaluateAll context (part :: rest) =
      ((evaluateAll context rest).1, trace ++ (evaluateAll context rest).2) := by
  rw [evaluateAll, judgeAll, judge_bind_ok held]
  exact appends_judge_all context rest trace

theorem evaluate_all_of_false (missed : part.evaluate context = (.ok false, trace)) :
    evaluateAll context (part :: rest) = (.ok false, trace) := by
  rw [evaluateAll, judgeAll, judge_bind_ok missed]
  rfl

theorem evaluate_all_of_error {error : RuleError}
    (failed : part.evaluate context = (.error error, trace)) :
    evaluateAll context (part :: rest) = (.error error, trace) := by
  rw [evaluateAll, judgeAll, judge_bind_error failed]

theorem evaluate_any_of_true (held : part.evaluate context = (.ok true, trace)) :
    evaluateAny context (part :: rest) = (.ok true, trace) := by
  rw [evaluateAny, judgeAny, judge_bind_ok held]
  rfl

theorem evaluate_any_of_false (missed : part.evaluate context = (.ok false, trace)) :
    evaluateAny context (part :: rest) =
      ((evaluateAny context rest).1, trace ++ (evaluateAny context rest).2) := by
  rw [evaluateAny, judgeAny, judge_bind_ok missed]
  exact appends_judge_any context rest trace

theorem evaluate_any_of_error {error : RuleError}
    (failed : part.evaluate context = (.error error, trace)) :
    evaluateAny context (part :: rest) = (.error error, trace) := by
  rw [evaluateAny, judgeAny, judge_bind_error failed]

theorem evaluate_all_of (parts : List Condition) :
    (allOf parts).evaluate context = evaluateAll context parts := by
  unfold allOf
  split
  · rename_i part
    rcases judged : part.evaluate context with ⟨error | holds, trace⟩
    · rw [evaluate_all_of_error judged]
    · cases holds with
      | true =>
          rw [evaluate_all_of_true judged]
          change _ = (Except.ok true, trace ++ [])
          rw [List.append_nil]
      | false => rw [evaluate_all_of_false judged]
  · rfl

theorem evaluate_expression (source : String) :
    (Condition.expression source).evaluate context = (answerTo context source, [source]) := by
  rw [evaluate, judge, run_judge_query, List.nil_append]

theorem evaluate_not (inner : Condition) : (Condition.not inner).evaluate context =
    ((inner.evaluate context).1.map (!·), (inner.evaluate context).2) := by
  rcases judged : inner.evaluate context with ⟨error | holds, trace⟩
  · rw [evaluate, judge, judge_bind_error judged]
    rfl
  · rw [evaluate, judge, judge_bind_ok judged]
    rfl

end Parts

mutual

/-- Judging a part: the expressions that are evaluated, in order, and the answer. -/
inductive Judges : Part → List String → Except RuleError Bool → Prop
  | flag (holds : Bool) : Judges (.group (.bool holds)) [] (.ok holds)
  | text (source : String) :
      Judges (.group (.string source)) [source] (answerTo context source)
  | list {items : List Json} {trace : List String} {answer : Except RuleError Bool}
      (all : JudgesAll (items.map .group) trace answer) :
      Judges (.group (.array items)) trace answer
  | mapping {fields : List (String × Json)} {trace : List String}
      {answer : Except RuleError Bool}
      (all : JudgesAll (fields.map fun field => .named field.1 field.2) trace answer) :
      Judges (.group (.object fields)) trace answer
  | any {key : String} {items : List Json} {trace : List String}
      {answer : Except RuleError Bool} (named : Text.asciiLower key = "any")
      (any : JudgesAny (items.map .group) trace answer) :
      Judges (.named key (.array items)) trace answer
  | not {key : String} {value : Json} {trace : List String} {answer : Except RuleError Bool}
      (named : Text.asciiLower key = "not") (inner : Judges (.group value) trace answer) :
      Judges (.named key value) trace (answer.map (!·))
  | expression {key : String} (named : Text.asciiLower key = "expr") (source : String) :
      Judges (.named key (.string source)) [source] (answerTo context source)
  | fact {key : String} {value : Json} {fact : Fact}
      (named : Fact.Named (Text.asciiLower key) value fact) :
      Judges (.named key value) [] (.ok (holds context fact))

inductive JudgesAll : List Part → List String → Except RuleError Bool → Prop
  | nil : JudgesAll [] [] (.ok true)
  | holds {part : Part} {rest : List Part} {trace others : List String}
      {answer : Except RuleError Bool} (first : Judges part trace (.ok true))
      (behind : JudgesAll rest others answer) : JudgesAll (part :: rest) (trace ++ others) answer
  | misses {part : Part} {trace : List String} (first : Judges part trace (.ok false))
      (rest : List Part) : JudgesAll (part :: rest) trace (.ok false)
  | fails {part : Part} {trace : List String} {error : RuleError}
      (first : Judges part trace (.error error)) (rest : List Part) :
      JudgesAll (part :: rest) trace (.error error)

inductive JudgesAny : List Part → List String → Except RuleError Bool → Prop
  | nil : JudgesAny [] [] (.ok false)
  | holds {part : Part} {trace : List String} (first : Judges part trace (.ok true))
      (rest : List Part) : JudgesAny (part :: rest) trace (.ok true)
  | misses {part : Part} {rest : List Part} {trace others : List String}
      {answer : Except RuleError Bool} (first : Judges part trace (.ok false))
      (behind : JudgesAny rest others answer) : JudgesAny (part :: rest) (trace ++ others) answer
  | fails {part : Part} {trace : List String} {error : RuleError}
      (first : Judges part trace (.error error)) (rest : List Part) :
      JudgesAny (part :: rest) trace (.error error)

end

section Meaning

variable {context}

def JudgedAs (context : Context) (part : Part) (condition : Condition) : Prop :=
  Judges context part (condition.evaluate context).2 (condition.evaluate context).1

theorem judges_all_of_each {parts : List Part} {conditions : List Condition}
    (each : List.Forall₂ (JudgedAs context) parts conditions) :
    JudgesAll context parts (evaluateAll context conditions).2
      (evaluateAll context conditions).1 := by
  induction each with
  | nil => exact .nil
  | @cons part condition rest others first _ induction =>
      unfold JudgedAs at first
      rcases judged : condition.evaluate context with ⟨error | held, trace⟩
      · rw [judged] at first
        rw [evaluate_all_of_error judged]
        exact .fails first rest
      · rw [judged] at first
        cases held with
        | true =>
            rw [evaluate_all_of_true judged]
            exact .holds first induction
        | false =>
            rw [evaluate_all_of_false judged]
            exact .misses first rest

theorem judges_any_of_each {parts : List Part} {conditions : List Condition}
    (each : List.Forall₂ (JudgedAs context) parts conditions) :
    JudgesAny context parts (evaluateAny context conditions).2
      (evaluateAny context conditions).1 := by
  induction each with
  | nil => exact .nil
  | @cons part condition rest others first _ induction =>
      unfold JudgedAs at first
      rcases judged : condition.evaluate context with ⟨error | held, trace⟩
      · rw [judged] at first
        rw [evaluate_any_of_error judged]
        exact .fails first rest
      · rw [judged] at first
        cases held with
        | true =>
            rw [evaluate_any_of_true judged]
            exact .holds first rest
        | false =>
            rw [evaluate_any_of_false judged]
            exact .misses first induction

theorem judged_each {α : Type} {items : List α} (part : α → Part) {conditions : List Condition}
    (read : (items.mapM fun item => (part item).read) = .ok conditions)
    (judged : ∀ item ∈ items, ∀ condition, (part item).read = .ok condition →
      JudgedAs context (part item) condition) :
    List.Forall₂ (JudgedAs context) (items.map part) conditions := by
  have each := mapM_eq_ok_iff.1 read
  clear read
  induction each with
  | nil => exact .nil
  | cons first _ induction =>
      obtain ⟨here, behind⟩ := List.forall_mem_cons.1 judged
      exact .cons (here _ first) (induction behind)

/-- What a part is read as is judged as the part is. -/
theorem judged_of_read {part : Part} {condition : Condition} (read : part.read = .ok condition) :
    JudgedAs context part condition := by
  induction part using Part.Inside.wellFounded.induction generalizing condition with
  | _ part induction =>
      cases Part.read_eq_ok_iff.1 read with
      | flag holds => exact .flag holds
      | text _ =>
          rw [JudgedAs, evaluate_expression]
          exact .text _
      | list _ taken =>
          exact .list (judges_all_of_each (judged_each .group taken fun item member _ =>
            induction _ (.item member)))
      | mapping _ taken =>
          rw [JudgedAs, evaluate_all_of]
          exact .mapping (judges_all_of_each (judged_each _ taken fun field member _ =>
            induction _ (.field member)))
      | any named taken =>
          exact .any named (judges_any_of_each (judged_each .group taken fun item member _ =>
            induction _ (.alternative named member)))
      | not named taken =>
          rw [JudgedAs, evaluate_not]
          exact .not named (induction _ (.negated named) taken)
      | expression named _ =>
          rw [JudgedAs, evaluate_expression]
          exact .expression named _
      | fact named => exact .fact named

mutual

/-- Judging a part ends in one way: as the condition that it is read as is judged. -/
theorem Judges.evaluate_eq {part : Part} {trace : List String} {answer : Except RuleError Bool} :
    Judges context part trace answer → ∀ condition, part.read = .ok condition →
      condition.evaluate context = (answer, trace)
  | .flag holds, condition, read => by
      cases read
      rfl
  | .text source, condition, read => by
      obtain ⟨_, rfl⟩ := expression_of_eq_ok_iff.1 read
      exact evaluate_expression source
  | .list parts, condition, read => by
      cases Part.built_of_group read with
      | list _ taken =>
          exact parts.evaluate_eq _ (List.forall₂_map_left_iff.2 (mapM_eq_ok_iff.1 taken))
  | .mapping parts, condition, read => by
      cases Part.built_of_group read with
      | mapping _ taken =>
          rw [evaluate_all_of]
          exact parts.evaluate_eq _ (List.forall₂_map_left_iff.2 (mapM_eq_ok_iff.1 taken))
  | .any named parts, condition, read => by
      rw [Part.read_any named] at read
      obtain ⟨conditions, taken, rfl⟩ := map_eq_ok read
      exact parts.evaluate_eq _ (List.forall₂_map_left_iff.2 (mapM_eq_ok_iff.1 taken))
  | .not named inner, condition, read => by
      rw [Part.read_not named] at read
      obtain ⟨condition, taken, rfl⟩ := map_eq_ok read
      rw [evaluate_not, inner.evaluate_eq condition taken]
  | .expression named source, condition, read => by
      rw [Part.read_expression named] at read
      obtain ⟨_, rfl⟩ := expression_of_eq_ok_iff.1 read
      exact evaluate_expression source
  | .fact named, condition, read => by
      rw [Part.read_fact named] at read
      cases read
      rfl

theorem JudgesAll.evaluate_eq {parts : List Part} {trace : List String}
    {answer : Except RuleError Bool} :
    JudgesAll context parts trace answer → ∀ conditions,
      List.Forall₂ (fun part condition => part.read = .ok condition) parts conditions →
      evaluateAll context conditions = (answer, trace)
  | .nil, _, .nil => rfl
  | .holds first behind, _, .cons read others => by
      rw [evaluate_all_of_true (first.evaluate_eq _ read), behind.evaluate_eq _ others]
  | .misses first _, _, .cons read _ => evaluate_all_of_false (first.evaluate_eq _ read)
  | .fails first _, _, .cons read _ => evaluate_all_of_error (first.evaluate_eq _ read)

theorem JudgesAny.evaluate_eq {parts : List Part} {trace : List String}
    {answer : Except RuleError Bool} :
    JudgesAny context parts trace answer → ∀ conditions,
      List.Forall₂ (fun part condition => part.read = .ok condition) parts conditions →
      evaluateAny context conditions = (answer, trace)
  | .nil, _, .nil => rfl
  | .holds first _, _, .cons read _ => evaluate_any_of_true (first.evaluate_eq _ read)
  | .misses first behind, _, .cons read others => by
      rw [evaluate_any_of_false (first.evaluate_eq _ read), behind.evaluate_eq _ others]
  | .fails first _, _, .cons read _ => evaluate_any_of_error (first.evaluate_eq _ read)

end

/-- How judging ends. All expressions that were reached have answers, unless there is no answer:
then this is for want of an answer to the last expression. -/
def Ends (context : Context) (trace : List String) : Except RuleError Bool → Prop
  | .ok _ => ∀ source ∈ trace, ∃ value, context.answer source = .ok value
  | .error error => ∃ earlier source fault, trace = earlier ++ [source] ∧
      (∀ other ∈ earlier, ∃ value, context.answer other = .ok value) ∧
      context.answer source = .error fault ∧
      error = .query (.evaluation source fault)

theorem ends_answer_to (source : String) : Ends context [source] (answerTo context source) := by
  unfold answerTo
  cases ran : context.answer source with
  | ok value =>
      intro other member
      rw [List.mem_singleton.1 member]
      exact ⟨value, ran⟩
  | error fault => exact ⟨[], source, fault, rfl, List.forall_mem_nil _, ran, rfl⟩

theorem Ends.append {trace others : List String} {holds : Bool} {answer : Except RuleError Bool}
    (first : Ends context trace (.ok holds)) (behind : Ends context others answer) :
    Ends context (trace ++ others) answer := by
  cases answer with
  | ok last => exact List.forall_mem_append.2 ⟨first, behind⟩
  | error error =>
      obtain ⟨earlier, source, fault, rfl, answered, failed, told⟩ := behind
      exact ⟨trace ++ earlier, source, fault, (List.append_assoc _ _ _).symm,
        List.forall_mem_append.2 ⟨first, answered⟩, failed, told⟩

theorem Ends.not {trace : List String} {answer : Except RuleError Bool}
    (ends : Ends context trace answer) : Ends context trace (answer.map (!·)) := by
  cases answer with
  | ok holds => exact ends
  | error error => exact ends

mutual

theorem Judges.ends {part : Part} {trace : List String} {answer : Except RuleError Bool} :
    Judges context part trace answer → Ends context trace answer
  | .flag _ | .fact _ => List.forall_mem_nil _
  | .text source | .expression _ source => ends_answer_to source
  | .list parts | .mapping parts => parts.ends
  | .any _ parts => parts.ends
  | .not _ inner => inner.ends.not

theorem JudgesAll.ends {parts : List Part} {trace : List String}
    {answer : Except RuleError Bool} :
    JudgesAll context parts trace answer → Ends context trace answer
  | .nil => List.forall_mem_nil _
  | .holds first behind => first.ends.append behind.ends
  | .misses first _ | .fails first _ => first.ends

theorem JudgesAny.ends {parts : List Part} {trace : List String}
    {answer : Except RuleError Bool} :
    JudgesAny context parts trace answer → Ends context trace answer
  | .nil => List.forall_mem_nil _
  | .misses first behind => first.ends.append behind.ends
  | .holds first _ | .fails first _ => first.ends

end

end Meaning

/-- What a walk comes to behind a gate whose group was judged: only if the group holds, the rest of
the sequence is walked through. -/
def behindGate {σ : Type} (services : Services σ) (rest : List Tree.Node)
    (state : RunState σ Context) (trace : List String) :
    Except RuleError Bool → Except Failure Unit × RunState σ Context
  | .ok true => (Run.walkNodes services rest).run.run (state.evaluating [⟨trace, none⟩])
  | .ok false => (.ok (), state.evaluating [⟨trace, none⟩])
  | .error error => (.ok (), state.evaluating
      [⟨trace, some ("check failed to evaluate: " ++ error.message)⟩])

/-- What it is for a group to be read as a condition. -/
structure Means (group : Json) (condition : Condition) : Prop where
  /-- The condition answers, and evaluates the expressions, that judging the group does. -/
  judged : ∀ context trace answer, condition.evaluate context = (answer, trace) ↔
    Judges context (.group group) trace answer
  /-- There is no answer just if an expression without one was reached, which then was the last. -/
  ends : ∀ context trace answer, Judges context (.group group) trace answer →
    Ends context trace answer
  /-- A check of the group is compiled to a gate with the condition. -/
  gate : ∀ key, Step.normalizeKey key = "check" → ∀ expand builder,
    (Tree.stepNodes expand (Step.parse (.object [(key, group)]))).run builder =
      ([.gate (some condition)], builder)
  /-- The sequence of the gate goes on behind it just if the group holds. -/
  goesOn : ∀ {σ : Type} (services : Services σ) (rest : List Tree.Node)
    (state : RunState σ Context) trace answer,
    Judges state.context (.group group) trace answer →
      (Run.walkNodes services (.gate (some condition) :: rest)).run.run state =
        behindGate services rest state trace answer

section Groups

variable {group : Json} {condition : Condition}

theorem evaluate_eq_iff (read : ofGroup group = .ok condition) {context : Context}
    {trace : List String} {answer : Except RuleError Bool} :
    condition.evaluate context = (answer, trace) ↔
      Judges context (.group group) trace answer := by
  constructor
  · intro evaluated
    have judged : JudgedAs context (.group group) condition := judged_of_read read
    rwa [JudgedAs, evaluated] at judged
  · intro judges
    exact judges.evaluate_eq condition read

theorem run_gate_nodes {σ : Type} (services : Services σ) (rest : List Tree.Node)
    {state : RunState σ Context} {trace : List String} {answer : Except RuleError Bool}
    (evaluated : condition.evaluate state.context = (answer, trace)) :
    (Run.walkNodes services (.gate (some condition) :: rest)).run.run state =
      behindGate services rest state trace answer := by
  rw [Run.walkNodes, Run.walkNode, Effects.run_bind_ok (Run.run_pass_gate (some condition) state)]
  simp only [flow, evaluation, evaluated, Option.map_some, Option.toList_some]
  cases answer with
  | error error => rfl
  | ok holds =>
      cases holds with
      | true => rfl
      | false => rfl

theorem means_of_read (read : ofGroup group = .ok condition) : Means group condition where
  judged _ _ _ := evaluate_eq_iff read
  ends _ _ _ judges := judges.ends
  gate key named expand builder := by
    rw [Step.parse_check named, Tree.stepNodes, Tree.actionNodes, Tree.gateOf, read]
    rfl
  goesOn services rest _ _ _ judges :=
    run_gate_nodes services rest ((evaluate_eq_iff read).2 judges)

/-- A group can be read just if every part of it, at whatever depth, is well-formed, and what it is
read as means what the group says. -/
theorem groups_mean_what_they_say (group : Json) :
    ((∃ condition, ofGroup group = .ok condition) ↔
      ∀ part, Relation.ReflTransGen Part.Inside part (.group group) → part.WellFormed) ∧
    ∀ condition, ofGroup group = .ok condition → Means group condition :=
  ⟨@Part.is_read_iff_all (.group group), fun _ => means_of_read⟩

/-- Neither `not` nor the other alternative gives the division an answer. -/
theorem division_leaves_group_unanswered :
    let group := Json.object [("any", .array [.object [("not", .string "1/0")], .bool true])]
    let condition := Condition.any [.not (.expression "1/0"), .fact (.constant true)]
    let context := Interpreter.idleContext .welcoming
    ofGroup group = .ok condition ∧ Means group condition ∧
      (condition.evaluate context).2 = ["1/0"] ∧
      (condition.evaluate context).1.toOption = none := by
  intro group condition context
  have compiles : Query.compiles "1/0" = true := by decide +kernel
  have read : ofGroup group = .ok condition := by
    simp only [group, ofGroup, ofFields, named, ofList, ofGroups, expressionOf, compiles]
    rfl
  refine ⟨read, (groups_mean_what_they_say group).2 condition read, ?_, ?_⟩
  · decide +kernel
  · decide +kernel

end Groups

end Condition

end RepoRules
