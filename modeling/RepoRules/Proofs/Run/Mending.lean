import RepoRules.Proofs.Run.Failures

/-!
Walks beside others in which nothing fails. In the place of a template whose query fails there may
as well stand one that gives the empty text, and in the place of a check that fails one that is
false: everything else is the same, but for the failures and the queries that are noted.
-/

namespace RepoRules

open Effects

def Context.unfailing (context : Context) : Context :=
  { context with failures := [] }

section Blindness

variable (context : Context)

@[simp]
theorem Context.answer_unfailing : context.unfailing.answer = context.answer := rfl

@[simp]
theorem Context.target_unfailing : context.unfailing.target = context.target := rfl

@[simp]
theorem Context.content_node_unfailing : context.unfailing.contentNode = context.contentNode := rfl

@[simp]
theorem Context.is_pull_request_unfailing :
    context.unfailing.isPullRequest = context.isPullRequest := rfl

@[simp]
theorem Context.variable_table_unfailing :
    context.unfailing.variableTable = context.variableTable := rfl

@[simp]
theorem Context.text_of_unfailing : context.unfailing.textOf = context.textOf := by
  funext template
  simp only [textOf, answer_unfailing, variable_table_unfailing]

@[simp]
theorem Context.texts_of_unfailing : context.unfailing.textsOf = context.textsOf := by
  funext templates
  simp only [textsOf, text_of_unfailing]

theorem Operation.writes_unfailing (operation : Operation) :
    operation.writes context.unfailing = operation.writes context := by
  cases operation <;> simp [writes, writesTo, writesToProject]

theorem Operation.change_unfailing (operation : Operation) (current : Context) :
    operation.change context.unfailing current.unfailing =
      (operation.change context current).unfailing := by
  have entries : operation.entries context.unfailing = operation.entries context := by
    cases operation <;> simp [entries]
  have assign : operation.assign context.unfailing = operation.assign context := by
    funext table
    cases operation with
    | labels | assignees | reviewers | milestone | project | comment => rfl
    | «variable» change name template =>
        cases change <;> simp only [assign, Context.text_of_unfailing]
  unfold change Context.entering
  rw [entries, assign]
  rfl

theorem Condition.holds_unfailing (fact : Fact) :
    Condition.holds context.unfailing fact = Condition.holds context fact := by
  cases fact <;> rfl

mutual

theorem Condition.judge_unfailing : (condition : Condition) →
    judge context.unfailing condition = judge context condition
  | .fact seen => by rw [judge, judge, holds_unfailing]
  | .expression source => rfl
  | .all parts => by rw [judge, judge, judge_all_unfailing parts]
  | .any parts => by rw [judge, judge, judge_any_unfailing parts]
  | .not inner => by rw [judge, judge, judge_unfailing inner]

theorem Condition.judge_all_unfailing : (parts : List Condition) →
    judgeAll context.unfailing parts = judgeAll context parts
  | [] => rfl
  | part :: rest => by rw [judgeAll, judgeAll, judge_unfailing part, judge_all_unfailing rest]

theorem Condition.judge_any_unfailing : (parts : List Condition) →
    judgeAny context.unfailing parts = judgeAny context parts
  | [] => rfl
  | part :: rest => by rw [judgeAny, judgeAny, judge_unfailing part, judge_any_unfailing rest]

end

theorem Condition.flow_unfailing (condition : Option Condition) :
    Condition.flow context.unfailing condition = Condition.flow context condition := by
  cases condition with
  | none => rfl
  | some condition => rw [flow, flow, evaluate, evaluate, judge_unfailing]

end Blindness

def Event.deeds (journal : List Event) : List Event :=
  journal.filter fun
    | .called _ | .fetched _ => true
    | .evaluated _ => false

theorem Event.deeds_append (journal events : List Event) :
    deeds (journal ++ events) = deeds journal ++ deeds events :=
  List.filter_append _ _

theorem Event.deeds_of_sources (sources : List String) :
    deeds (sources.map Event.evaluated) = [] := by
  unfold deeds
  rw [List.filter_map]
  simp [Function.comp_def]

/-- Two states that differ in failures and evaluations only. -/
structure Like {σ : Type} (here there : RunState σ Context) : Prop where
  context : here.context.unfailing = there.context.unfailing
  store : here.store = there.store
  deeds : Event.deeds here.journal = Event.deeds there.journal

namespace Like

variable {σ : Type} {here middle there : RunState σ Context}

theorem symm (like : Like here there) : Like there here :=
  ⟨like.context.symm, like.store.symm, like.deeds.symm⟩

theorem trans (first : Like here middle) (second : Like middle there) : Like here there :=
  ⟨first.context.trans second.context, first.store.trans second.store,
    first.deeds.trans second.deeds⟩

theorem evaluating (state : RunState σ Context) (evaluations : List Evaluation) :
    Like (state.evaluating evaluations) state := by
  refine ⟨rfl, rfl, ?_⟩
  unfold RunState.evaluating
  rw [Event.deeds_append, Event.deeds_of_sources, List.append_nil]

/-- Whatever is blind to failures is equal in both. -/
theorem view {α : Type} (like : Like here there) (view : Context → α)
    (blind : ∀ context : Context, view context.unfailing = view context) :
    view here.context = view there.context := by
  rw [← blind here.context, like.context, blind]

end Like

section Runs

variable {σ α β : Type}

def Alike (here there : Run σ α) (state other : RunState σ Context) : Prop :=
  (here.run.run state).1 = (there.run.run other).1 ∧
    Like (here.run.run state).2 (there.run.run other).2

variable {here there : Run σ α} {next following : α → Run σ β} {state other : RunState σ Context}

theorem alike_pure (value : α) (like : Like state other) :
    Alike (pure value) (pure value) state other :=
  ⟨rfl, like⟩

theorem Alike.bind (first : Alike here there state other)
    (others : ∀ value after last, here.run.run state = (.ok value, after) → Like after last →
      Alike (next value) (following value) after last) :
    Alike (here >>= next) (there >>= following) state other := by
  unfold Alike at first ⊢
  rw [run_bind, run_bind]
  rcases left : here.run.run state with ⟨result, after⟩
  rcases right : there.run.run other with ⟨answer, last⟩
  rw [left, right] at first
  obtain ⟨rfl, like⟩ := first
  cases result with
  | error failure => exact ⟨rfl, like⟩
  | ok value => exact others value after last left like

theorem alike_context {next following : Context → Run σ α}
    (others : Alike (next state.context) (following other.context) state other) :
    Alike (Run.context >>= next) (Run.context >>= following) state other := by
  unfold Alike
  rw [run_bind_ok (Run.run_context state), run_bind_ok (Run.run_context other)]
  exact others

theorem alike_modify {change exchange : Context → Context} (like : Like state other)
    (same : (change state.context).unfailing = (exchange other.context).unfailing) :
    Alike (Run.modifyContext change) (Run.modifyContext exchange) state other :=
  ⟨rfl, same, like.store, like.deeds⟩

theorem alike_call (client : Client σ) (request : Call) (like : Like state other) :
    Alike (call client request) (call client request) state other := by
  unfold Alike
  rw [run_call, run_call, like.store]
  refine ⟨rfl, like.context, rfl, ?_⟩
  rw [Event.deeds_append, Event.deeds_append, like.deeds]

theorem alike_writes (services : Services σ) (mutations : List Mutation) (like : Like state other) :
    Alike (mutations.forM (Run.write services)) (mutations.forM (Run.write services)) state
      other := by
  induction mutations generalizing state other with
  | nil => exact alike_pure _ like
  | cons mutation rest induction =>
      exact (alike_call services.client (.write mutation) like).bind fun _ _ _ _ => induction

end Runs

section Steps

variable {σ : Type} {services : Services σ} {state other : RunState σ Context}

theorem alike_files_accepted (mode : FileMatch) (pattern : Pattern) (like : Like state other) :
    Alike (Run.filesAccepted services mode pattern) (Run.filesAccepted services mode pattern) state
      other := by
  have keep (files : List String) {state other : RunState σ Context} (like : Like state other) :
      Alike (do
        Run.modifyContext fun context => { context with changedFiles := some files }
        return files) (do
        Run.modifyContext fun context => { context with changedFiles := some files }
        return files) state other := by
    refine (alike_modify like ?_).bind fun _ _ _ _ => alike_pure files
    exact congrArg (fun context : Context => { context with changedFiles := some files })
      like.context
  have kind := like.view Context.isPullRequest fun _ => rfl
  have known := like.view Context.changedFiles fun _ => rfl
  have target := like.view Context.target fun _ => rfl
  unfold Run.filesAccepted
  apply alike_context
  rw [kind]
  split
  · exact alike_pure _ like
  · refine Alike.bind ?_ fun files _ _ _ => alike_pure _
    unfold Run.changedFiles
    apply alike_context
    rw [known, target]
    cases other.context.changedFiles with
    | some files => exact alike_pure files like
    | none =>
        cases other.context.target with
        | none => exact keep [] like
        | some item =>
            dsimp only
            split
            · exact (alike_call services.client _ like).bind fun files _ _ _ => keep files
            · exact keep [] like

theorem alike_flush (like : Like state other) :
    Alike (Run.flush services) (Run.flush services) state other := by
  have pool := like.view Context.operations fun _ => rfl
  have target := like.view Context.target fun _ => rfl
  have keep (pool : Pool) : Alike
      (Run.modifyContext fun context => { context with operations := pool })
      (Run.modifyContext fun context => { context with operations := pool }) state other :=
    alike_modify like (congrArg (fun context : Context => { context with operations := pool })
      like.context)
  unfold Run.flush Pool.flush
  apply alike_context
  rw [pool, target]
  dsimp only
  split
  · exact alike_pure _ like
  · cases other.context.target with
    | none => exact (keep _).bind fun _ _ _ _ => alike_pure _
    | some item =>
        exact (keep _).bind fun _ _ _ _ like =>
          (alike_writes services _ like).bind fun _ _ _ _ => alike_pure _

end Steps

/-- A template in whose place another one stands: a query that fails, in the place of which there
is something that gives the empty text. -/
inductive Context.Mends (context : Context) : String → String → Prop
  | kept (template : String) : Mends context template template
  | emptied {template other : String} {evaluation : Evaluation}
      (evaluated : context.evaluation? template = some evaluation)
      (failed : evaluation.failure ≠ none)
      (empty : context.textOf other = "")
      (answered : ∀ evaluation ∈ context.evaluation? other, evaluation.failure = none) :
      Mends context template other

inductive Operation.Mends (context : Context) : Operation → Operation → Prop
  | labels (change : Change) {values others : List String}
      (mended : List.Forall₂ context.Mends values others) :
      Mends context (.labels change values) (.labels change others)
  | assignees (change : Change) {values others : List String}
      (mended : List.Forall₂ context.Mends values others) :
      Mends context (.assignees change values) (.assignees change others)
  | reviewers (change : Change) {values others : List String}
      (mended : List.Forall₂ context.Mends values others) :
      Mends context (.reviewers change values) (.reviewers change others)
  | milestone (change : Change) {value other : String} (mended : context.Mends value other) :
      Mends context (.milestone change value) (.milestone change other)
  | project (change : Change) {value other : String} (mended : context.Mends value other) :
      Mends context (.project change value) (.project change other)
  | comment {template other : String} (mended : context.Mends template other) :
      Mends context (.comment template) (.comment other)
  | assignment (change : Change) (name : String) {value other : String}
      (mended : context.Mends value other) :
      Mends context (.variable change name value) (.variable change name other)

inductive Condition.Mends (context : Context) : Option Condition → Option Condition → Prop
  | kept (condition : Option Condition) : Mends context condition condition
  | refused {condition other : Condition}
      (failed : (condition.evaluation context).failure ≠ none)
      (refuses : (other.evaluate context).1 = .ok false) :
      Mends context (some condition) (some other)

namespace Run

mutual

inductive MendsNode {σ : Type} (services : Services σ) :
    RunState σ Context → Tree.Node → Tree.Node → Prop
  | gate {state : RunState σ Context} {condition other : Option Condition}
      (mended : Condition.Mends state.context condition other) :
      MendsNode services state (.gate condition) (.gate other)
  | operation {state : RunState σ Context} {operation other : Operation}
      (mended : operation.Mends state.context other) :
      MendsNode services state (.operation operation) (.operation other)
  | files {state : RunState σ Context} (mode : FileMatch) (source : String) (pattern : Pattern)
      {body others : List Tree.Node}
      (mended : ∀ after, (filesAccepted services mode pattern).run.run state = (.ok true, after) →
        MendsNodes services after body others) :
      MendsNode services state (.files mode source pattern body) (.files mode source pattern others)
  | sequence {state : RunState σ Context} {children others : List Tree.Node}
      (mended : MendsNodes services state children others) :
      MendsNode services state (.sequence children) (.sequence others)

/-- Nodes that stand in the places of others, so that each is judged in the state in which a walk
through the others comes to its place. -/
inductive MendsNodes {σ : Type} (services : Services σ) :
    RunState σ Context → List Tree.Node → List Tree.Node → Prop
  | nil (state : RunState σ Context) : MendsNodes services state [] []
  | cons {state : RunState σ Context} {node other : Tree.Node} {rest others : List Tree.Node}
      (first : MendsNode services state node other)
      (mended : ∀ after, (walkNode services node).run.run state = (.ok .proceed, after) →
        MendsNodes services after rest others) :
      MendsNodes services state (node :: rest) (other :: others)

end

end Run

section Mending

variable {context : Context}

theorem Context.Mends.text_eq {template other : String} (mends : context.Mends template other) :
    context.textOf template = context.textOf other := by
  cases mends with
  | kept => rfl
  | emptied evaluated failed empty answered =>
      obtain ⟨source, body, rfl⟩ := Option.map_eq_some_iff.1 evaluated
      rw [empty, textOf, body]
      cases answer : context.answer source with
      | ok value =>
          rw [answer] at failed
          exact absurd rfl failed
      | error error => simp only [answer]

theorem Context.texts_of_mends {values others : List String}
    (mended : List.Forall₂ context.Mends values others) :
    context.textsOf values = context.textsOf others := by
  have trimmed (templates : List String) : context.textsOf templates =
      ((templates.map context.textOf).map Text.trim).filter fun text => !text.isEmpty := by
    rw [List.map_map]
    rfl
  have same : values.map context.textOf = others.map context.textOf := by
    induction mended with
    | nil => rfl
    | cons first _ induction => rw [List.map_cons, List.map_cons, first.text_eq, induction]
  rw [trimmed, trimmed, same]

theorem Operation.Mends.writes_eq {operation other : Operation}
    (mends : operation.Mends context other) : operation.writes context = other.writes context := by
  cases mends with
  | labels change mended => rfl
  | assignees change mended | reviewers change mended =>
      simp only [writes, writesTo, writesToProject, Context.texts_of_mends mended]
  | milestone change mended | project change mended | comment mended =>
      simp only [writes, writesTo, writesToProject, mended.text_eq]
  | assignment change name mended => rfl

theorem Operation.Mends.change_eq {operation other : Operation}
    (mends : operation.Mends context other) : operation.change context = other.change context := by
  have entries : operation.entries context = other.entries context := by
    cases mends with
    | labels change mended | assignees change mended | reviewers change mended =>
        simp only [entries, Context.texts_of_mends mended]
    | milestone change mended | project change mended => rfl
    | comment mended => rfl
    | assignment change name mended => rfl
  have assign : operation.assign context = other.assign context := by
    cases mends with
    | labels change mended | assignees change mended | reviewers change mended => rfl
    | milestone change mended | project change mended => rfl
    | comment mended => rfl
    | assignment change name mended =>
        funext table
        cases change <;> simp only [assign, mended.text_eq]
  funext current
  rw [change, change, entries, assign]

theorem Condition.Mends.flow_eq {condition other : Option Condition}
    (mends : Condition.Mends context condition other) :
    flow context condition = flow context other := by
  cases mends with
  | kept => rfl
  | @refused condition other failed refuses =>
      rw [flow, flow, refuses]
      unfold evaluation at failed
      cases answer : (condition.evaluate context).1 with
      | ok holds =>
          rw [answer] at failed
          exact absurd rfl failed
      | error error => rfl

end Mending

section Walks

variable {σ : Type} {services : Services σ} {state other : RunState σ Context}

theorem alike_pass_gate {condition check : Option Condition} (like : Like state other)
    (mends : Condition.Mends state.context condition check) :
    Alike (Run.passGate condition : Run σ Flow) (Run.passGate check) state other := by
  unfold Alike
  rw [Run.run_pass_gate, Run.run_pass_gate]
  refine ⟨congrArg Except.ok ?_, ?_⟩
  · -- first to the other condition in this state, then to the other state
    rw [mends.flow_eq]
    exact like.view (Condition.flow · check) fun context => Condition.flow_unfailing context check
  · exact (Like.evaluating _ _).trans (like.trans (Like.evaluating _ _).symm)

theorem alike_operate {operation instead : Operation} (like : Like state other)
    (mends : operation.Mends state.context instead) :
    Alike (Run.operate services operation) (Run.operate services instead) state other := by
  have left : Run.ActsAs services operation (Run.operate services operation) state :=
    Run.acts_operate operation state
  have right : Run.ActsAs services instead (Run.operate services instead) other :=
    Run.acts_operate instead other
  have writes : instead.writes state.context = instead.writes other.context :=
    like.view instead.writes fun context => instead.writes_unfailing context
  have evaluated : Like (state.evaluating (operation.evaluations state.context))
      (other.evaluating (instead.evaluations other.context)) :=
    (Like.evaluating _ _).trans (like.trans (Like.evaluating _ _).symm)
  unfold Alike
  -- both write and change the same, each as the state in front of it tells but for failures
  rw [left, right, mends.writes_eq, mends.change_eq, writes]
  refine (alike_writes services _ evaluated).bind fun _ _ _ _ ended => ?_
  refine alike_modify ended ?_
  rw [← Operation.change_unfailing, ← Operation.change_unfailing, like.context, ended.context]

mutual

theorem alike_walk_node : {node instead : Tree.Node} → {state other : RunState σ Context} →
    Run.MendsNode services state node instead → Like state other →
    Alike (Run.walkNode services node) (Run.walkNode services instead) state other
  | _, _, _, _, .gate mended, like => by
      rw [Run.walkNode, Run.walkNode]
      exact alike_pass_gate like mended
  | _, _, _, _, .operation mended, like => by
      rw [Run.walkNode, Run.walkNode]
      exact (alike_operate like mended).bind fun _ _ _ _ => alike_pure _
  | _, _, _, _, .files mode source pattern mended, like => by
      rw [Run.walkNode, Run.walkNode]
      refine (alike_files_accepted mode pattern like).bind fun accepted after last taken like => ?_
      cases accepted with
      | false => exact alike_pure _ like
      | true =>
          exact (alike_walk_nodes (mended after taken) like).bind fun _ _ _ _ => alike_pure _
  | _, _, _, _, .sequence mended, like => by
      rw [Run.walkNode, Run.walkNode]
      exact (alike_walk_nodes mended like).bind fun _ _ _ _ => alike_pure _

theorem alike_walk_nodes : {nodes instead : List Tree.Node} → {state other : RunState σ Context} →
    Run.MendsNodes services state nodes instead → Like state other →
    Alike (Run.walkNodes services nodes) (Run.walkNodes services instead) state other
  | _, _, _, _, .nil _, like => alike_pure _ like
  | _, _, _, _, .cons first mended, like => by
      rw [Run.walkNodes, Run.walkNodes]
      refine (alike_walk_node first like).bind fun flow after last taken like => ?_
      cases flow with
      | halt => exact alike_pure _ like
      | proceed => exact alike_walk_nodes (mended after taken) like

end

end Walks

def Outcome.unfailing (outcome : Outcome) : Outcome :=
  { outcome with status := .completed, failure := none }

/-- Two ends of a delivery that differ in the failures they tell of and in evaluations only. -/
structure EndsLike {σ κ : Type} (here there : Except Failure Outcome × RunState σ κ) : Prop where
  outcome : here.1.map Outcome.unfailing = there.1.map Outcome.unfailing
  store : here.2.store = there.2.store
  deeds : Event.deeds here.2.journal = Event.deeds there.2.journal

def Plan.walking (rerun : Bool) (action : String) (tree : ActionTree) (nodes : List Tree.Node) :
    Plan :=
  ⟨rerun, some (action, { tree with children := nodes })⟩

section Ends

variable {σ : Type} {services : Services σ} {rerun : Bool} {action : String} {tree : ActionTree}
  {nodes others : List Tree.Node}

theorem ends_conclude {state other : RunState σ Context} (like : Like state other) :
    EndsLike ((Run.conclude services (.walking rerun action tree nodes)).run.run state)
      ((Run.conclude services (.walking rerun action tree others)).run.run other) := by
  have flushed : Alike (Run.flush services) (Run.flush services) state other := alike_flush like
  unfold Alike at flushed
  unfold Run.conclude
  rw [run_bind, run_bind]
  rcases left : (Run.flush services).run.run state with ⟨result, after⟩
  rcases right : (Run.flush services).run.run other with ⟨answer, last⟩
  rw [left, right] at flushed
  obtain ⟨rfl, like⟩ := flushed
  cases result with
  | error failure => exact ⟨rfl, like.store, like.deeds⟩
  | ok operations =>
      refine ⟨?_, like.store, like.deeds⟩
      refine congrArg Except.ok ?_
      exact like.view (fun context =>
        (Engine.outcomeOf context action rerun tree operations).unfailing) fun _ => rfl

theorem ends_walk {state other : RunState σ Context}
    (mends : Run.MendsNodes services state nodes others) (like : Like state other) :
    EndsLike
      ((do
        Run.walkPlan services (.walking rerun action tree nodes)
        Run.conclude services (.walking rerun action tree nodes)).run.run state)
      ((do
        Run.walkPlan services (.walking rerun action tree others)
        Run.conclude services (.walking rerun action tree others)).run.run other) := by
  obtain ⟨same, like⟩ :
      Alike (Run.walkNodes services nodes) (Run.walkNodes services others) state other :=
    alike_walk_nodes mends like
  rcases left : (Run.walkNodes services nodes).run.run state with ⟨result, after⟩
  rcases right : (Run.walkNodes services others).run.run other with ⟨answer, last⟩
  rw [left, right] at same like
  obtain rfl : result = answer := same
  have walking : (Run.walkPlan services (.walking rerun action tree nodes)).run.run state =
      (result, after) := left
  have beside : (Run.walkPlan services (.walking rerun action tree others)).run.run other =
      (result, last) := right
  cases result with
  | error failure =>
      rw [run_bind_error walking, run_bind_error beside]
      exact ⟨rfl, like.store, like.deeds⟩
  | ok _ =>
      rw [run_bind_ok walking, run_bind_ok beside]
      exact ends_conclude like

theorem Engine.run_carry_out (plan : Plan) (start : Context) (ready : RunState σ Unit) :
    (carryOut services plan start).run.run ready =
      let (result, last) := (do
        Run.walkPlan services plan
        Run.conclude services plan).run.run ⟨start, ready.store, ready.journal⟩
      (result, { ready with store := last.store, journal := last.journal }) := by
  unfold carryOut
  simp only [run_bind, run_within]
  rcases (Run.walkPlan services plan).run.run ⟨start, ready.store, ready.journal⟩ with
    ⟨failure | _, walked⟩
  · rfl
  · simp only
    rcases (Run.conclude services plan).run.run walked with ⟨failure | outcome, ended⟩
    · rfl
    · rfl

/-- Nodes in the places of others bring a delivery to the same end. -/
theorem ends_carry_out {start : Context} {ready : RunState σ Unit}
    (mends : Run.MendsNodes services ⟨start, ready.store, ready.journal⟩ nodes others) :
    EndsLike ((Engine.carryOut services (.walking rerun action tree nodes) start).run.run ready)
      ((Engine.carryOut services (.walking rerun action tree others) start).run.run ready) := by
  rw [Engine.run_carry_out, Engine.run_carry_out]
  obtain ⟨outcome, store, deeds⟩ :=
    @ends_walk σ services rerun action tree nodes others _ _ mends ⟨rfl, rfl, rfl⟩
  exact ⟨outcome, store, deeds⟩

end Ends

namespace Engine

/-- The failures of a walk are recorded completely, and nothing else is. If a delivery comes to its
end, it has failed just if some query of a template or some check that was evaluated on the way had
no answer, and then it tells of all of these in order. Apart from this, a template whose query fails
acts as one that gives the empty text, and a check that fails as one that is false: with these in
their places a delivery comes to the same end, even if that is a failed call. -/
theorem failures_are_recorded {σ : Type} (engine : Engine σ) (delivery : Delivery)
    {before ready : RunState σ Unit} {rerun : Bool} {action : String} {tree : ActionTree}
    {start : Context}
    (prepared : (engine.withServices delivery
      (prepare engine.rules engine.queries delivery)).run.run before =
      (.ok (⟨rerun, some (action, tree)⟩, start), ready)) :
    ∃ client repository delivered loaded,
      engine.Prepares delivery before client repository delivered loaded
        ⟨rerun, some (action, tree)⟩ start ready ∧
      let services : Services σ := ⟨client, engine.page⟩
      let entered : RunState σ Context := ⟨start, ready.store, ready.journal⟩
      let evaluations := Run.evaluations services tree.children entered
      Accounts entered evaluations ((Run.walk services tree).run.run entered).2 ∧
      (∀ outcome last, (engine.handle delivery).run.run before = (.ok outcome, last) →
        outcome.Tells evaluations) ∧
      ∀ others, Run.MendsNodes services entered tree.children others →
        EndsLike ((engine.handle delivery).run.run before)
          ((carryOut services (.walking rerun action tree others) start).run.run ready) := by
  obtain ⟨client, repository, delivered, loaded, prepares⟩ := exists_prepares prepared
  refine ⟨client, repository, delivered, loaded, prepares, ?_⟩
  intro services entered evaluations
  have accounts : Accounts entered evaluations ((Run.walk services tree).run.run entered).2 :=
    Run.accounts_walk tree.children entered
  refine ⟨accounts, ?_, ?_⟩
  · intro outcome last handled
    rw [prepares.continued] at handled
    obtain ⟨walked, ended, walking, concluded, _⟩ := carry_out_eq_ok handled
    have walking : (Run.walk services tree).run.run entered = (.ok (), walked) := walking
    rw [walking] at accounts
    have failures : walked.context.failures = evaluations.filterMap Evaluation.failure := by
      rw [accounts.failures, prepares.unfailed, List.nil_append]
    refine Run.tells_of_conclude rfl failures ?_ concluded
    rw [failures]
    exact fun message => Run.filled_of_evaluations
  · intro others mends
    rw [prepares.continued]
    exact ends_carry_out mends

end Engine

theorem Query.run_of_quotient (snapshot : Json) :
    ∃ error, Query.run "1/0" snapshot = .error error := by
  have missing : (Query.run "1/0" snapshot).toOption = none := by with_unfolding_all rfl
  cases answer : Query.run "1/0" snapshot with
  | error error => exact ⟨error, rfl⟩
  | ok value =>
      rw [answer] at missing
      cases missing

def RuleDocument.dividing : RuleDocument :=
  .onOpened
    [.action (.operation (.comment "$expr: 1/0")),
      .action (.operation (.labels .add ["seen"])),
      .action (.check (.ofFields [("expr", .string "1/0")])),
      .action (.operation (.comment "never"))]

def Tree.undivided : List Tree.Node :=
  [.operation (.comment ""), .operation (.labels .add ["seen"]),
    .gate (some (.fact (.constant false))), .operation (.comment "never")]

/-- A state in which a division by zero has no answer. -/
theorem Context.answer_of_quotient {context : Context} (evaluates : context.queries = Query.run) :
    ∃ error, context.answer "1/0" = .error error := by
  rw [answer, evaluates]
  exact Query.run_of_quotient context.snapshot

theorem Tree.undivided_mends {σ : Type} (services : Services σ) {state : RunState σ Context}
    (evaluates : state.context.queries = Query.run) :
    Run.MendsNodes services state
      [.operation (.comment "$expr: 1/0"), .operation (.labels .add ["seen"]),
        .gate (some (.expression "1/0")), .operation (.comment "never")] undivided := by
  have body : Template.queryBody? "$expr: 1/0" = some "1/0" := by decide +kernel
  have plain : Template.queryBody? "" = none := by decide +kernel
  have kept {node : Node} {before after : RunState σ Context}
      (walked : (Run.walkNode services node).run.run before = (.ok .proceed, after)) :
      after.context.queries = before.context.queries := by
    have stands := (@Run.stands_law σ services).walk_node node before
    rw [walked] at stands
    exact stands.queries
  refine .cons (.operation (.comment ?_)) fun commented first =>
    .cons (.operation (.labels _ ?_)) fun labeled second => .cons (.gate ?_) fun checked _ =>
      .cons (.operation (.comment (.kept _))) fun after _ => .nil after
  · obtain ⟨error, answer⟩ := Context.answer_of_quotient evaluates
    have evaluated : ∃ message, state.context.evaluation? "$expr: 1/0" =
        some ⟨["1/0"], some message⟩ := by
      rw [Context.evaluation?, body, Option.map_some, answer]
      exact ⟨_, rfl⟩
    obtain ⟨message, evaluated⟩ := evaluated
    have unevaluated : state.context.evaluation? "" = none := by
      rw [Context.evaluation?, plain, Option.map_none]
    refine .emptied evaluated (Option.some_ne_none _) ?_ ?_
    · rw [Context.textOf, plain]
      with_unfolding_all rfl
    · rw [unevaluated]
      intro evaluation member
      cases member
  · exact .cons (.kept _) .nil
  · obtain ⟨error, answer⟩ :=
      Context.answer_of_quotient ((kept second).trans ((kept first).trans evaluates))
    refine .refused ?_ rfl
    have unanswered : ((Condition.expression "1/0").evaluate labeled.context).1 =
        .error (.query (.evaluation "1/0" error)) := by
      unfold Condition.evaluate
      rw [Condition.judge, Condition.judgeQuery, answer]
      rfl
    rw [Condition.evaluation, unanswered]
    exact Option.some_ne_none _

namespace Engine

/-- Both divisions are told of, in order, and the label is added as it is without them. -/
theorem divisions_are_recorded :
    let engine : Engine OfflineStore :=
      fixed (OfflineStore.client ⟨"octo", "docs"⟩) (fun _ => none) (.fixed .dividing)
    let delivery := Delivery.opened .issues "issue" [("number", .int 7)]
    let handled := (engine.handle delivery).run.run ⟨(), delivery.seeded, []⟩
    ∃ start tree ready outcome last client,
      (engine.withServices delivery (prepare engine.rules engine.queries delivery)).run.run
        ⟨(), delivery.seeded, []⟩ = (.ok (⟨false, some ("opened", tree)⟩, start), ready) ∧
      handled = (.ok outcome, last) ∧
      outcome.status = .failed ∧
      outcome.failure = some ("query failed: query failed: '1/0': Division by zero: 1 / 0 " ++
        "(line 1, position 2); check failed to evaluate: query failed: '1/0': " ++
        "Division by zero: 1 / 0 (line 1, position 2)") ∧
      outcome.operations.labelsAdded = ["seen"] ∧
      EndsLike handled ((carryOut ⟨client, engine.page⟩
        (.walking false "opened" tree Tree.undivided) start).run.run ready) := by
  intro engine delivery handled
  have planned : ((engine.withServices delivery
      (prepare engine.rules engine.queries delivery)).run.run
      ⟨(), delivery.seeded, []⟩).1.toOption.map (fun made =>
        (made.1.rerun, made.1.work.map fun work => (work.1, work.2.children))) =
      some (false, some ("opened",
        [.operation (.comment "$expr: 1/0"), .operation (.labels .add ["seen"]),
          .gate (some (.expression "1/0")), .operation (.comment "never")])) := by
    with_unfolding_all rfl
  have ended : handled.1.toOption.map (fun outcome =>
      (outcome.status, outcome.failure, outcome.operations.labelsAdded)) =
      some (.failed, some ("query failed: query failed: '1/0': Division by zero: 1 / 0 " ++
        "(line 1, position 2); check failed to evaluate: query failed: '1/0': " ++
        "Division by zero: 1 / 0 (line 1, position 2)"), ["seen"]) := by
    decide +kernel
  rcases made : (engine.withServices delivery
      (prepare engine.rules engine.queries delivery)).run.run
      ⟨(), delivery.seeded, []⟩ with ⟨failure | ⟨⟨rerun, work⟩, start⟩, ready⟩
  · rw [made] at planned
    cases planned
  rcases going : handled with ⟨failure | outcome, last⟩
  · rw [going] at ended
    cases ended
  rw [made] at planned
  rw [going] at ended
  simp only [Except.toOption, Option.map_some, Option.some.injEq, Prod.mk.injEq,
    Option.map_eq_some_iff] at planned ended
  obtain ⟨rfl, ⟨_, tree⟩, rfl, rfl, children⟩ := planned
  obtain ⟨failed, told, added⟩ := ended
  obtain ⟨client, repository, delivered, loaded, prepares, _, _, mended⟩ :=
    failures_are_recorded engine delivery made
  rw [children] at mended
  have ends := mended Tree.undivided (Tree.undivided_mends _ prepares.queries_eq)
  exact ⟨start, tree, ready, outcome, last, client, rfl, rfl, failed, told, added, going ▸ ends⟩

end Engine

end RepoRules
