import RepoRules.Proofs.Run.Steps

/-!
What operations do. An operation expands its templates, then writes, and then enters names in the
pool or changes a variable. What it writes and what it enters is settled by the state in front of
it.
-/

namespace RepoRules

namespace Context

def textOf (context : Context) (template : String) : String :=
  match Template.queryBody? template with
  | none => context.variableTable.substitute template
  | some source =>
      match context.answer source with
      | .ok value => Template.renderResult value
      | .error _ => ""

def textsOf (context : Context) (templates : List String) : List String :=
  (templates.map fun template => Text.trim (context.textOf template)).filter fun text =>
    !text.isEmpty

end Context

/-- Something that was evaluated: the queries in it, and the failure if there was no answer. -/
structure Evaluation where
  sources : List String
  failure : Option String

namespace Context

def evaluation? (context : Context) (template : String) : Option Evaluation :=
  (Template.queryBody? template).map fun source =>
    { sources := [source]
      failure := match context.answer source with
        | .ok _ => none
        | .error error =>
            some ("query failed: " ++ (RuleError.query (.evaluation source error)).message) }

def evaluationsOf (context : Context) (templates : List String) : List Evaluation :=
  templates.filterMap context.evaluation?

end Context

def RunState.evaluating {σ : Type} (state : RunState σ Context) (evaluations : List Evaluation) :
    RunState σ Context :=
  { state with
    context := { state.context with
      failures := state.context.failures ++ evaluations.filterMap Evaluation.failure }
    journal := state.journal ++ (evaluations.flatMap Evaluation.sources).map Event.evaluated }

inductive Pool.Batch where
  | labelsToAdd
  | labelsToRemove
  | assignees
  | reviewers
deriving DecidableEq

namespace Pool

def names (pool : Pool) : Batch → NameSet
  | .labelsToAdd => pool.labelsToAdd
  | .labelsToRemove => pool.labelsToRemove
  | .assignees => pool.assignees
  | .reviewers => pool.reviewers

def enter (pool : Pool) : Batch → String → Pool
  | .labelsToAdd, text => pool.addLabel text
  | .labelsToRemove, text => pool.removeLabel text
  | .assignees, text => pool.addAssignee text
  | .reviewers, text => pool.addReviewer text

def enterAll (pool : Pool) (entries : List (Batch × String)) : Pool :=
  entries.foldl (fun pool entry => pool.enter entry.1 entry.2) pool

theorem enter_all_append (pool : Pool) (entries others : List (Batch × String)) :
    (pool.enterAll entries).enterAll others = pool.enterAll (entries ++ others) :=
  List.foldl_append.symm

theorem enter_all_flushed (pool : Pool) (entries : List (Batch × String)) :
    (pool.enterAll entries).flushed = pool.flushed := by
  induction entries generalizing pool with
  | nil => rfl
  | cons entry rest induction =>
      obtain ⟨batch, text⟩ := entry
      refine (induction (pool.enter batch text)).trans ?_
      cases batch <;> simp only [enter, addLabel, removeLabel, addAssignee, addReviewer]

end Pool

def Change.milestone? (change : Change) (title : String) (current : Option String) :
    Option (Option String) :=
  match change with
  | .set => if !title.isEmpty && current != some title then some (some title) else none
  | .add | .remove =>
      if current.isSome && (title.isEmpty || current == some title) then some none else none

namespace Operation

/-- The templates that are expanded: those for reviewers on a pull request only, and that for a new
variable only if there is none of its name. -/
def expanded (context : Context) : Operation → List String
  | .labels _ values | .assignees _ values => values
  | .reviewers _ values => if context.isPullRequest then values else []
  | .milestone _ template | .project _ template | .comment template
  | .variable .set _ template => [template]
  | .variable .add name template => if context.variableTable.contains name then [] else [template]
  | .variable .remove _ _ => []

def evaluations (context : Context) (operation : Operation) : List Evaluation :=
  context.evaluationsOf (operation.expanded context)

def additions (change : Change) (named : List String) : List String :=
  if change = .remove then [] else named

def entries (context : Context) : Operation → List (Pool.Batch × String)
  | .labels change values =>
      let labels := context.textsOf values
      let current := (context.target.map Item.labels).getD []
      (Run.removals change current labels).map (.labelsToRemove, ·) ++
        (additions change labels).map (.labelsToAdd, ·)
  | .assignees change values =>
      if context.target.isSome then
        (additions change (context.textsOf values)).map (.assignees, ·)
      else []
  | .reviewers change values =>
      if context.isPullRequest then
        (additions change (context.textsOf values)).map (.reviewers, ·)
      else []
  | .milestone _ _ | .project _ _ | .comment _ | .variable _ _ _ => []

def writesTo (context : Context) (item : Item) : Operation → List Mutation
  | .assignees change values =>
      let gone := Run.removals change item.assignees (context.textsOf values)
      if gone.isEmpty then [] else [.removeAssignees item.number gone]
  | .reviewers change values =>
      let gone := Run.removals change item.requestedReviewers (context.textsOf values)
      if !item.isPullRequest || gone.isEmpty then [] else [.removeReviewers item.number gone]
  | .milestone change value =>
      ((change.milestone? (Text.trim (context.textOf value)) item.milestone).map
        (Mutation.setMilestone item.number)).toList
  | .comment template =>
      let body := context.textOf template
      if Text.isBlankText body then [] else [.postComment item.number body]
  | .labels _ _ | .project _ _ | .variable _ _ _ => []

def writesToProject (context : Context) : Operation → List Mutation
  | .project change value =>
      let project := Text.trim (context.textOf value)
      match context.contentNode with
      | none => []
      | some content =>
          if project.isEmpty then []
          else if change = .remove then [.removeFromProject content project]
          else [.addToProject content project]
  | .labels _ _ | .assignees _ _ | .reviewers _ _ | .milestone _ _ | .comment _
  | .variable _ _ _ => []

def writes (context : Context) (operation : Operation) : List Mutation :=
  (match context.target with
    | none => []
    | some item => operation.writesTo context item) ++ operation.writesToProject context

def assign (context : Context) : Operation → VariableTable → VariableTable
  | .variable .set name template, table => table.set name (context.textOf template)
  | .variable .add name template, table =>
      if table.contains name then table else table.set name (context.textOf template)
  | .variable .remove name _, table => table.remove name
  | .labels _ _, table | .assignees _ _, table | .reviewers _ _, table | .milestone _ _, table
  | .project _ _, table | .comment _, table => table

end Operation

def Context.entering (context : Context) (entries : List (Pool.Batch × String)) : Context :=
  { context with operations := context.operations.enterAll entries }

/-- What an operation makes of a state, where `context` is the one in front of it. -/
def Operation.change (context : Context) (operation : Operation) (current : Context) : Context :=
  { current.entering (operation.entries context) with
    variableTable := operation.assign context current.variableTable }

section Evaluations

variable {σ : Type} (state : RunState σ Context)

theorem RunState.evaluating_nil : state.evaluating [] = state := by
  simp [evaluating]

theorem RunState.evaluating_append (evaluations others : List Evaluation) :
    (state.evaluating evaluations).evaluating others =
      state.evaluating (evaluations ++ others) := by
  simp [evaluating]

theorem RunState.target_evaluating (evaluations : List Evaluation) :
    (state.evaluating evaluations).context.target = state.context.target := rfl

theorem RunState.content_node_evaluating (evaluations : List Evaluation) :
    (state.evaluating evaluations).context.contentNode = state.context.contentNode := rfl

theorem RunState.texts_of_evaluating (evaluations : List Evaluation) :
    (state.evaluating evaluations).context.textsOf = state.context.textsOf := rfl

theorem RunState.evaluations_of_evaluating (evaluations : List Evaluation) :
    (state.evaluating evaluations).context.evaluationsOf = state.context.evaluationsOf := rfl

theorem RunState.steps_evaluating (evaluations : List Evaluation) :
    Relation.ReflTransGen Evaluates state (state.evaluating evaluations) := by
  have noted (sources : List String) (state : RunState σ Context) :
      Relation.ReflTransGen Evaluates state
        { state with journal := state.journal ++ sources.map Event.evaluated } := by
    induction sources generalizing state with
    | nil =>
        rw [List.map_nil, List.append_nil]
    | cons source rest induction =>
        have others := induction { state with journal := state.journal ++ [.evaluated source] }
        rw [List.append_assoc] at others
        exact .head (.noted state source) others
  induction evaluations generalizing state with
  | nil => rw [evaluating_nil]
  | cons evaluation rest induction =>
      have first : Relation.ReflTransGen Evaluates state (state.evaluating [evaluation]) := by
        obtain ⟨sources, failure⟩ := evaluation
        cases failure with
        | none =>
            have silent : state.evaluating [⟨sources, none⟩] =
                { state with journal := state.journal ++ sources.map Event.evaluated } := by
              simp [evaluating]
            rw [silent]
            exact noted sources state
        | some message =>
            have failing : state.evaluating [⟨sources, some message⟩] =
                { state with
                  context := state.context.addFailure message
                  journal := state.journal ++ sources.map Event.evaluated } := by
              simp [evaluating, Context.addFailure]
            rw [failing]
            exact .tail (noted sources state) (.failed _ message)
      have others := induction (state.evaluating [evaluation])
      rw [evaluating_append] at others
      exact first.trans others

end Evaluations

namespace Run

open Effects

variable {σ : Type} {services : Services σ}

theorem run_expand (template : String) (state : RunState σ Context) :
    (expand template : Run σ String).run.run state =
      (.ok (state.context.textOf template),
        state.evaluating (state.context.evaluationsOf [template])) := by
  unfold expand Context.textOf
  rw [run_bind_ok (run_context state)]
  cases body : Template.queryBody? template with
  | none =>
      have none : state.context.evaluationsOf [template] = [] := by
        simp [Context.evaluationsOf, Context.evaluation?, body]
      rw [none, RunState.evaluating_nil]
      rfl
  | some source =>
      simp only
      rw [run_bind_ok (run_note _ _)]
      cases answer : state.context.answer source with
      | ok value =>
          have answered : state.context.evaluationsOf [template] = [⟨[source], none⟩] := by
            simp [Context.evaluationsOf, Context.evaluation?, body, answer]
          have noted : state.evaluating [⟨[source], none⟩] =
              { state with journal := state.journal ++ [.evaluated source] } := by
            simp [RunState.evaluating]
          rw [answered, noted]
          rfl
      | error error =>
          let message := "query failed: " ++ (RuleError.query (.evaluation source error)).message
          have failed : state.context.evaluationsOf [template] = [⟨[source], some message⟩] := by
            simp [Context.evaluationsOf, Context.evaluation?, body, answer, message]
          rw [failed]
          rfl

theorem run_expand_all (templates : List String) (state : RunState σ Context) :
    (expandAll templates : Run σ (List String)).run.run state =
      (.ok (state.context.textsOf templates),
        state.evaluating (state.context.evaluationsOf templates)) := by
  induction templates generalizing state with
  | nil =>
      have none : state.context.evaluationsOf [] = [] := rfl
      rw [none, RunState.evaluating_nil]
      rfl
  | cons template rest induction =>
      have both : state.context.evaluationsOf (template :: rest) =
          state.context.evaluationsOf [template] ++ state.context.evaluationsOf rest :=
        @List.filterMap_append _ _ [template] rest _
      unfold expandAll
      rw [run_bind_ok (run_expand template state), run_bind_ok (induction _),
        RunState.evaluations_of_evaluating, RunState.texts_of_evaluating,
        RunState.evaluating_append, both]
      simp only [Context.textsOf, List.map_cons, List.filter_cons]
      cases (Text.trim (state.context.textOf template)).isEmpty with
      | true => rfl
      | false => rfl

/-- Steps that do what is said of an operation: its evaluations, then its writes, and if these
succeed its change of the state. -/
def ActsAs (services : Services σ) (operation : Operation) (steps : Run σ Unit)
    (state : RunState σ Context) : Prop :=
  steps.run.run state =
    ((operation.writes state.context).forM (write services) >>= fun _ =>
      modifyContext (operation.change state.context)).run.run
        (state.evaluating (operation.evaluations state.context))

/-- Most operations leave the variables alone. -/
theorem acts_of {operation : Operation} {steps : Run σ Unit} {state : RunState σ Context}
    {evaluations : List Evaluation} {mutations : List Mutation}
    {entries : List (Pool.Batch × String)}
    (evaluated : operation.evaluations state.context = evaluations)
    (writes : operation.writes state.context = mutations)
    (pooled : operation.entries state.context = entries)
    (assign : operation.assign state.context = id)
    (taken : steps.run.run state = (mutations.forM (write services) >>= fun _ =>
      modifyContext fun context => context.entering entries).run.run
        (state.evaluating evaluations)) :
    ActsAs services operation steps state := by
  unfold ActsAs Operation.change
  rw [evaluated, writes, pooled, assign]
  exact taken

/-- Many operations write and leave their own state alone. -/
theorem acts_of_writes {operation : Operation} {steps : Run σ Unit} {state : RunState σ Context}
    {evaluations : List Evaluation} {mutations : List Mutation}
    (evaluated : operation.evaluations state.context = evaluations)
    (writes : operation.writes state.context = mutations)
    (idle : operation.entries state.context = [])
    (assign : operation.assign state.context = id)
    (taken : steps.run.run state =
      (mutations.forM (write services)).run.run (state.evaluating evaluations)) :
    ActsAs services operation steps state := by
  refine acts_of evaluated writes idle assign ?_
  rw [taken]
  change _ = (mutations.forM (write services) >>= fun _ => pure PUnit.unit).run.run _
  rw [bind_pure_unit]

theorem single_write (mutation : Mutation) :
    ([mutation].forM (write services) : Run σ Unit) = write services mutation := by
  change (write services mutation >>= fun _ => pure PUnit.unit) = _
  exact bind_pure_unit

theorem run_pool_all (batch : Pool.Batch) (texts : List String) (state : RunState σ Context) :
    (poolAll (fun pool text => pool.enter batch text) texts : Run σ Unit).run.run state =
      (.ok (), { state with context := state.context.entering (texts.map (batch, ·)) }) := by
  simp only [poolAll, run_modify_context, Context.entering, Pool.enterAll, List.foldl_map]

theorem acts_labels (change : Change) (values : List String) (state : RunState σ Context) :
    ActsAs services (.labels change values) (labels change values) state := by
  have expanded := run_expand_all values state
  have silent : (Operation.labels change values).writes state.context = [] := by
    unfold Operation.writes
    cases state.context.target with
    | none => rfl
    | some item => rfl
  have removed (texts : List String) (state : RunState σ Context) :
      (poolAll Pool.removeLabel texts : Run σ Unit).run.run state =
        (.ok (),
          { state with context := state.context.entering (texts.map (.labelsToRemove, ·)) }) :=
    run_pool_all .labelsToRemove texts state
  have added (texts : List String) (state : RunState σ Context) :
      (poolAll Pool.addLabel texts : Run σ Unit).run.run state =
        (.ok (), { state with context := state.context.entering (texts.map (.labelsToAdd, ·)) }) :=
    run_pool_all .labelsToAdd texts state
  unfold labels
  cases change with
  | add => exact acts_of rfl silent rfl rfl ((run_bind_ok expanded).trans (added _ _))
  | remove =>
      refine acts_of rfl silent (List.append_nil _) rfl ?_
      exact (run_bind_ok expanded).trans (removed _ _)
  | set =>
      refine acts_of rfl silent rfl rfl ?_
      rw [run_bind_ok expanded]
      simp only
      rw [run_bind_ok (run_context _), RunState.target_evaluating, run_bind_ok (removed _ _), added]
      simp only [Context.entering, Pool.enter_all_append]
      rfl

theorem run_people (batch : Pool.Batch) (change : Change) (gone logins : List String)
    (removal : Mutation) (state : RunState σ Context) :
    (do
      if !gone.isEmpty then write services removal
      if change ≠ .remove then poolAll (fun pool text => pool.enter batch text) logins :
        Run σ Unit).run.run state =
      ((if gone.isEmpty then [] else [removal]).forM (write services) >>= fun _ =>
        modifyContext fun context =>
          context.entering ((Operation.additions change logins).map (batch, ·))).run.run state := by
  have pooled (state : RunState σ Context) :
      (if change ≠ .remove then poolAll (fun pool text => pool.enter batch text) logins
        else pure () : Run σ Unit).run.run state =
        (.ok (), { state with
          context := state.context.entering
            ((Operation.additions change logins).map (batch, ·)) }) := by
    unfold Operation.additions
    by_cases removing : change = .remove
    · rw [if_neg (not_not_intro removing), if_pos removing]
      rfl
    · rw [if_pos removing, if_neg removing]
      exact run_pool_all batch logins state
  cases gone.isEmpty with
  | true => exact pooled state
  | false =>
      simp only [Bool.not_false, if_true, Bool.false_eq_true, if_false, single_write]
      rw [run_bind, run_bind]
      rcases (write services removal).run.run state with ⟨failure | _, after⟩
      · rfl
      · exact pooled after

theorem acts_assignees (change : Change) (values : List String) (state : RunState σ Context) :
    ActsAs services (.assignees change values) (assignees services change values) state := by
  have expanded := run_expand_all values state
  unfold assignees
  cases here : state.context.target with
  | none =>
      have silent : (Operation.assignees change values).writes state.context = [] := by
        simp only [Operation.writes, here]
        rfl
      have idle : (Operation.assignees change values).entries state.context = [] := by
        simp only [Operation.entries, here]
        rfl
      refine acts_of rfl silent idle rfl ?_
      rw [run_bind_ok expanded, run_bind_ok (run_context _), RunState.target_evaluating, here]
      rfl
  | some item =>
      have writes : (Operation.assignees change values).writes state.context =
          (Operation.assignees change values).writesTo state.context item := by
        simp only [Operation.writes, here]
        exact List.append_nil _
      have entries : (Operation.assignees change values).entries state.context =
          (Operation.additions change (state.context.textsOf values)).map (.assignees, ·) := by
        simp only [Operation.entries, here]
        rfl
      refine acts_of rfl writes entries rfl ?_
      rw [run_bind_ok expanded, run_bind_ok (run_context _), RunState.target_evaluating, here]
      exact run_people .assignees change _ _ _ _

theorem acts_reviewers (change : Change) (values : List String) (state : RunState σ Context) :
    ActsAs services (.reviewers change values) (reviewers services change values) state := by
  have filtered : state.context.isPullRequest =
      (state.context.target.filter Item.isPullRequest).isSome := by
    unfold Context.isPullRequest
    cases state.context.target with
    | none => rfl
    | some item => cases here : item.isPullRequest <;> simp [here]
  unfold reviewers
  cases found : state.context.target.filter Item.isPullRequest with
  | none =>
      have silent : (Operation.reviewers change values).writes state.context = [] := by
        cases here : state.context.target with
        | none =>
            simp only [Operation.writes, here]
            rfl
        | some item =>
            rw [here, Option.filter_eq_none_iff] at found
            simp only [Operation.writes, here, Operation.writesTo]
            rw [Bool.eq_false_iff.2 (found item rfl)]
            rfl
      have idle : (Operation.reviewers change values).entries state.context = [] := by
        simp only [Operation.entries, filtered, found]
        rfl
      have unexpanded : (Operation.reviewers change values).evaluations state.context = [] := by
        simp only [Operation.evaluations, Operation.expanded, filtered, found]
        rfl
      refine acts_of unexpanded silent idle rfl ?_
      rw [run_bind_ok (run_context state), found, RunState.evaluating_nil]
      rfl
  | some item =>
      have expanded := run_expand_all values state
      obtain ⟨here, proposed⟩ := Option.filter_eq_some_iff.1 found
      have writes : (Operation.reviewers change values).writes state.context =
          let gone := Run.removals change item.requestedReviewers (state.context.textsOf values)
          if gone.isEmpty then [] else [.removeReviewers item.number gone] := by
        simp only [Operation.writes, here, Operation.writesTo, proposed, Bool.not_true,
          Bool.false_or]
        exact List.append_nil _
      have entries : (Operation.reviewers change values).entries state.context =
          (Operation.additions change (state.context.textsOf values)).map (.reviewers, ·) := by
        simp only [Operation.entries, filtered, found]
        rfl
      have evaluated : (Operation.reviewers change values).evaluations state.context =
          state.context.evaluationsOf values := by
        simp only [Operation.evaluations, Operation.expanded, filtered, found]
        rfl
      refine acts_of evaluated writes entries rfl ?_
      rw [run_bind_ok (run_context state), found]
      simp only
      rw [run_bind_ok expanded]
      exact run_people .reviewers change _ _ _ _

theorem acts_milestone (change : Change) (value : String) (state : RunState σ Context) :
    ActsAs services (.milestone change value) (milestone services change value) state := by
  have expanded := run_expand value state
  have evaluated : (Operation.milestone change value).evaluations state.context =
      state.context.evaluationsOf [value] := rfl
  unfold milestone
  cases here : state.context.target with
  | none =>
      have silent : (Operation.milestone change value).writes state.context = [] := by
        simp only [Operation.writes, here]
        rfl
      refine acts_of_writes evaluated silent rfl rfl ?_
      rw [run_bind_ok expanded, run_bind_ok (run_context _), RunState.target_evaluating, here]
      rfl
  | some item =>
      have writes : (Operation.milestone change value).writes state.context =
          (Operation.milestone change value).writesTo state.context item := by
        simp only [Operation.writes, here]
        exact List.append_nil _
      refine acts_of_writes evaluated writes rfl rfl ?_
      rw [run_bind_ok expanded, run_bind_ok (run_context _), RunState.target_evaluating, here]
      cases change with
      | set =>
          simp only [Operation.writesTo, Change.milestone?]
          split
          · simp only [Option.map_some, Option.toList_some, single_write]
          · rfl
      | add | remove =>
          simp only [Operation.writesTo, Change.milestone?]
          split
          · simp only [Option.map_some, Option.toList_some, single_write]
          · rfl

theorem acts_project (change : Change) (value : String) (state : RunState σ Context) :
    ActsAs services (.project change value) (project services change value) state := by
  have expanded := run_expand value state
  have writes : (Operation.project change value).writes state.context =
      (Operation.project change value).writesToProject state.context := by
    unfold Operation.writes
    cases state.context.target with
    | none => rfl
    | some item => rfl
  have evaluated : (Operation.project change value).evaluations state.context =
      state.context.evaluationsOf [value] := rfl
  refine acts_of_writes evaluated writes rfl rfl ?_
  unfold project Operation.writesToProject
  rw [run_bind_ok expanded, run_bind_ok (run_context _), RunState.content_node_evaluating]
  cases state.context.contentNode with
  | none => rfl
  | some content =>
      simp only
      split
      · rfl
      · split
        · rw [single_write]
        · rw [single_write]

theorem acts_comment (template : String) (state : RunState σ Context) :
    ActsAs services (.comment template) (comment services template) state := by
  have expanded := run_expand template state
  have writes : (Operation.comment template).writes state.context =
      match state.context.target with
      | none => []
      | some item => (Operation.comment template).writesTo state.context item :=
    List.append_nil _
  have evaluated : (Operation.comment template).evaluations state.context =
      state.context.evaluationsOf [template] := rfl
  refine acts_of_writes evaluated writes rfl rfl ?_
  unfold comment
  rw [run_bind_ok expanded]
  cases here : state.context.target with
  | none =>
      split
      · rfl
      · rw [run_bind_ok (run_context _), RunState.target_evaluating, here]
        rfl
  | some item =>
      simp only [Operation.writesTo]
      split
      · rfl
      · rw [run_bind_ok (run_context _), RunState.target_evaluating, here, single_write]

theorem acts_variable (change : Change) (name template : String) (state : RunState σ Context) :
    ActsAs services (.variable change name template) (changeVariable change name template)
      state := by
  have silent : (Operation.variable change name template).writes state.context = [] := by
    unfold Operation.writes
    cases state.context.target with
    | none => rfl
    | some item => rfl
  have expanded := run_expand template state
  unfold ActsAs
  rw [silent]
  cases change with
  | set => exact run_bind_ok expanded
  | remove =>
      have unexpanded : (Operation.variable .remove name template).evaluations state.context = [] :=
        rfl
      rw [unexpanded, RunState.evaluating_nil]
      rfl
  | add =>
      unfold changeVariable
      rw [run_bind_ok (run_context state)]
      cases known : state.context.variableTable.contains name with
      | true =>
          have unexpanded : (Operation.variable .add name template).evaluations state.context =
              [] := by
            simp only [Operation.evaluations, Operation.expanded, known, if_true]
            rfl
          have kept : (Operation.variable .add name template).change state.context state.context =
              state.context := by
            simp only [Operation.change, Operation.assign, Context.entering, known, if_true]
            rfl
          rw [unexpanded, RunState.evaluating_nil]
          change _ = (Except.ok (), { state with
            context := (Operation.variable .add name template).change state.context state.context })
          rw [kept]
          rfl
      | false =>
          have evaluated : (Operation.variable .add name template).evaluations state.context =
              state.context.evaluationsOf [template] := by
            simp only [Operation.evaluations, Operation.expanded, known, Bool.false_eq_true,
              if_false]
          let middle := state.evaluating (state.context.evaluationsOf [template])
          have assigned : (Operation.variable .add name template).change state.context
              middle.context = { middle.context with
                variableTable :=
                  middle.context.variableTable.set name (state.context.textOf template) } := by
            have unknown : middle.context.variableTable.contains name = false := known
            simp only [Operation.change, Operation.assign, Context.entering, unknown,
              Bool.false_eq_true, if_false]
            rfl
          rw [evaluated]
          refine (run_bind_ok expanded).trans ?_
          change _ = (Except.ok (), { middle with
            context :=
              (Operation.variable .add name template).change state.context middle.context })
          rw [assigned]
          rfl

/-- Every operation does what is said of it. -/
theorem acts_operate : (operation : Operation) → (state : RunState σ Context) →
    ActsAs services operation (operate services operation) state
  | .labels change values, state => acts_labels change values state
  | .assignees change values, state => acts_assignees change values state
  | .reviewers change values, state => acts_reviewers change values state
  | .milestone change value, state => acts_milestone change value state
  | .project change value, state => acts_project change value state
  | .comment template, state => acts_comment template state
  | .variable change name value, state => acts_variable change name value state

/-- What holds after the evaluations and the writes of an operation holds after the operation, if
its own change keeps it. -/
theorem holds_after_operate {holds : RunState σ Context → Prop} {operation : Operation}
    {state : RunState σ Context}
    (written : holds (((operation.writes state.context).forM (write services)).run.run
      (state.evaluating (operation.evaluations state.context))).2)
    (changed : ∀ after, holds after →
      holds { after with context := operation.change state.context after.context }) :
    holds ((operate services operation).run.run state).2 := by
  have acts : ActsAs services operation (operate services operation) state :=
    acts_operate operation state
  rw [acts, run_bind]
  rcases taken : ((operation.writes state.context).forM (write services)).run.run
      (state.evaluating (operation.evaluations state.context)) with ⟨failure | _, after⟩
  · rw [taken] at written
    exact written
  · rw [taken] at written
    exact changed after written

end Run

end RepoRules
