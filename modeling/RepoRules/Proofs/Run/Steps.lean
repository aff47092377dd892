import Mathlib.Logic.Relation
import RepoRules.Proofs.Run.Agreement
import RepoRules.Run.Walk

/-!
The steps that a walk is made of. A gate evaluates queries and does nothing else, and looking at the
changed files lists them at most; everything else is done by operations. What holds of all of these
holds of a walk, as the walk carries out its operations one after the other.
-/

namespace RepoRules

section States

variable {σ κ α β : Type}

def RunState.called (client : Client σ) (request : Call) (state : RunState σ κ) : RunState σ κ :=
  { state with
    store := (client.answer request state.store).2
    journal := state.journal ++ [.called request] }

namespace Effects

theorem run_bind_eq_ok {steps : Effects σ κ α} {next : α → Effects σ κ β} {value : β}
    {state after : RunState σ κ} (taken : (steps >>= next).run.run state = (.ok value, after)) :
    ∃ found middle, steps.run.run state = (.ok found, middle) ∧
      (next found).run.run middle = (.ok value, after) := by
  rw [run_bind] at taken
  rcases first : steps.run.run state with ⟨failure | found, middle⟩
  · rw [first] at taken
    cases taken
  · rw [first] at taken
    exact ⟨found, middle, rfl, taken⟩

theorem run_within_eq_ok {steps : Effects σ κ α} {context last : κ} {value : α}
    {state after : RunState σ Unit}
    (taken : (within context steps).run.run state = (.ok (value, last), after)) :
    ∃ inner, steps.run.run ⟨context, state.store, state.journal⟩ = (.ok value, inner) ∧
      inner.context = last ∧
      after = { state with store := inner.store, journal := inner.journal } := by
  rw [run_within] at taken
  rcases inside : steps.run.run ⟨context, state.store, state.journal⟩ with ⟨failure | found, inner⟩
  · rw [inside] at taken
    cases taken
  · rw [inside] at taken
    cases taken
    exact ⟨inner, rfl, rfl, rfl⟩

/-- How steps end: with a failure, if one has stopped them, and in a state. -/
def ending (steps : Effects σ κ α) (state : RunState σ κ) : Option Failure × RunState σ κ :=
  (match (steps.run.run state).1 with
    | .ok _ => none
    | .error failure => some failure,
  (steps.run.run state).2)

theorem ending_ok {steps : Effects σ κ α} {state after : RunState σ κ} {value : α}
    (taken : steps.run.run state = (.ok value, after)) : ending steps state = (none, after) := by
  rw [ending, taken]

theorem ending_error {steps : Effects σ κ α} {state after : RunState σ κ} {failure : Failure}
    (taken : steps.run.run state = (.error failure, after)) :
    ending steps state = (some failure, after) := by
  rw [ending, taken]

theorem ending_bind_ok {steps : Effects σ κ α} {next : α → Effects σ κ β}
    {state after : RunState σ κ} {value : α}
    (taken : steps.run.run state = (.ok value, after)) :
    ending (steps >>= next) state = ending (next value) after := by
  rw [ending, run_bind_ok taken, ending]

theorem ending_bind_pure (steps : Effects σ κ α) (value : β) (state : RunState σ κ) :
    ending (steps >>= fun _ => pure value) state = ending steps state := by
  rcases taken : steps.run.run state with ⟨failure | found, after⟩
  · rw [ending_error taken, ending_error (run_bind_error taken)]
  · rw [ending_ok taken, ending_bind_ok taken]
    rfl

/-- From a state, steps end in one that a number of single steps lead to. -/
def Moves (step : RunState σ κ → RunState σ κ → Prop) (steps : Effects σ κ α)
    (state : RunState σ κ) : Prop :=
  Relation.ReflTransGen step state (steps.run.run state).2

variable {step : RunState σ κ → RunState σ κ → Prop} {state : RunState σ κ}

theorem moves_pure (value : α) : Moves step (pure value : Effects σ κ α) state := .refl

theorem Moves.bind {steps : Effects σ κ α} {next : α → Effects σ κ β}
    (first : Moves step steps state)
    (others : ∀ value after, steps.run.run state = (.ok value, after) →
      Moves step (next value) after) :
    Moves step (steps >>= next) state := by
  unfold Moves at first others ⊢
  rw [run_bind]
  rcases taken : steps.run.run state with ⟨failure | value, after⟩
  · rw [taken] at first
    exact first
  · rw [taken] at first
    exact first.trans (others value after taken)

theorem moves_note {event : Event}
    (single : step state { state with journal := state.journal ++ [event] }) :
    Moves step (note event) state :=
  .single single

theorem moves_call {client : Client σ} {request : Call}
    (single : step state (state.called client request)) :
    Moves step (call client request) state := by
  unfold Moves
  rw [run_call]
  exact .single single

end Effects

end States

section Relations

variable {σ : Type}

/-- What the evaluation of a query leaves behind: a note, and perhaps a failure. -/
inductive Evaluates : RunState σ Context → RunState σ Context → Prop
  | noted (state : RunState σ Context) (source : String) :
      Evaluates state { state with journal := state.journal ++ [.evaluated source] }
  | failed (state : RunState σ Context) (message : String) :
      Evaluates state { state with context := state.context.addFailure message }

inductive Lists (services : Services σ) : RunState σ Context → RunState σ Context → Prop
  | called (state : RunState σ Context) (number : Nat) :
      Lists services state (state.called services.client (.changedFiles number))
  | kept (state : RunState σ Context) (files : List String) :
      Lists services state
        { state with context := { state.context with changedFiles := some files } }

/-- What every step keeps, any number of them keeps. -/
theorem holds_of_steps {step : RunState σ Context → RunState σ Context → Prop}
    (holds : RunState σ Context → Prop)
    (keeps : ∀ before after, step before after → holds before → holds after)
    {before after : RunState σ Context} (steps : Relation.ReflTransGen step before after)
    (begins : holds before) : holds after := by
  induction steps with
  | refl => exact begins
  | tail _ last induction => exact keeps _ _ last induction

theorem eq_of_steps {α : Type} {step : RunState σ Context → RunState σ Context → Prop}
    (view : RunState σ Context → α)
    (same : ∀ before after, step before after → view after = view before)
    {before after : RunState σ Context} (steps : Relation.ReflTransGen step before after) :
    view after = view before :=
  holds_of_steps (fun state => view state = view before)
    (fun _ _ last earlier => (same _ _ last).trans earlier) steps rfl

end Relations

namespace Run

open Effects

variable {σ : Type} {services : Services σ} {state : RunState σ Context}

theorem moves_context {α : Type} {step : RunState σ Context → RunState σ Context → Prop}
    {next : Context → Run σ α} (moves : Moves step (next state.context) state) :
    Moves step (context >>= next) state := by
  unfold Moves
  rw [run_bind_ok (run_context state)]
  exact moves

theorem run_write (mutation : Mutation) (state : RunState σ Context) :
    (write services mutation).run.run state =
      ((services.client.answer (.write mutation) state.store).1,
        state.called services.client (.write mutation)) :=
  run_call services.client (.write mutation) state

theorem moves_pass_gate (condition : Option Condition) :
    Moves Evaluates (passGate condition : Run σ Flow) state := by
  cases condition with
  | none => exact moves_pure _
  | some condition =>
      have noted (sources : List String) (state : RunState σ Context) :
          Moves Evaluates (sources.forM fun source => note (.evaluated source) : Run σ Unit)
            state := by
        induction sources generalizing state with
        | nil => exact moves_pure _
        | cons source rest induction =>
            exact (moves_note (.noted _ _)).bind fun _ after _ => induction after
      unfold passGate
      refine Moves.bind ?_ fun answer after _ => ?_
      · unfold judge
        apply moves_context
        exact (noted _ _).bind fun _ _ _ => moves_pure _
      · match answer with
        | .ok true => exact moves_pure _
        | .ok false => exact moves_pure _
        | .error error => exact .single (.failed _ _)

/-- Looking at the changed files lists them, unless that was done before. -/
theorem moves_files_accepted (mode : FileMatch) (pattern : Pattern) :
    Moves (Lists services) (filesAccepted services mode pattern) state := by
  have listed (state : RunState σ Context) :
      Moves (Lists services) (changedFiles services) state := by
    unfold changedFiles
    apply moves_context
    cases state.context.changedFiles with
    | some files => exact moves_pure _
    | none =>
        have kept (files : List String) (state : RunState σ Context) : Moves (Lists services)
            (do
              modifyContext fun context => { context with changedFiles := some files }
              return files) state :=
          .single (.kept state files)
        cases state.context.target with
        | none => exact kept [] state
        | some item =>
            simp only
            split
            · exact (moves_call (.called _ _)).bind fun files after _ => kept files after
            · exact kept [] state
  unfold filesAccepted
  apply moves_context
  split
  · exact moves_pure _
  · exact (listed state).bind fun _ _ _ => moves_pure _

/-- A node that a walk comes to, and the state in which it does. Of a sequence only the nodes in it
count. -/
structure Turn (σ : Type) where
  node : Tree.Node
  state : RunState σ Context

mutual

def turnsAt (services : Services σ) : Tree.Node → RunState σ Context → List (Turn σ)
  | .gate condition, state => [⟨.gate condition, state⟩]
  | .operation operation, state => [⟨.operation operation, state⟩]
  | .files mode source pattern body, state =>
      ⟨.files mode source pattern body, state⟩ ::
        match (filesAccepted services mode pattern).run.run state with
        | (.ok true, after) => turns services body after
        | _ => []
  | .sequence children, state => turns services children state

def turns (services : Services σ) : List Tree.Node → RunState σ Context → List (Turn σ)
  | [], _ => []
  | node :: rest, state =>
      turnsAt services node state ++
        match (walkNode services node).run.run state with
        | (.ok .proceed, after) => turns services rest after
        | _ => []

end

/-- Something that holds between the state before a walk, the nodes that the walk comes to and how it
ends, because it holds of single nodes. Nothing follows a failure. A files node counts without its
body. -/
structure EndLaw (services : Services σ)
    (law : RunState σ Context → List (Turn σ) → Option Failure × RunState σ Context → Prop) :
    Prop where
  idle : ∀ state, law state [] (none, state)
  chain : ∀ {before middle first others ended},
    law before first (none, middle) → law middle others ended → law before (first ++ others) ended
  gate : ∀ condition state, law state [⟨.gate condition, state⟩]
    (ending (passGate condition : Run σ Flow) state)
  operation : ∀ operation state, law state [⟨.operation operation, state⟩]
    (ending (operate services operation) state)
  files : ∀ mode source pattern body state, law state [⟨.files mode source pattern body, state⟩]
    (ending (filesAccepted services mode pattern) state)

section EndLaws

variable {law : RunState σ Context → List (Turn σ) → Option Failure × RunState σ Context → Prop}

mutual

theorem EndLaw.walk_node (laws : EndLaw services law) :
    (node : Tree.Node) → (state : RunState σ Context) →
      law state (turnsAt services node state) (ending (walkNode services node) state)
  | .gate condition, state => by
      rw [turnsAt, walkNode]
      exact laws.gate condition state
  | .operation operation, state => by
      rw [turnsAt, walkNode, ending_bind_pure]
      exact laws.operation operation state
  | .files mode source pattern body, state => by
      have looked := laws.files mode source pattern body state
      rw [turnsAt, walkNode]
      rcases taken : (filesAccepted services mode pattern).run.run state with
        ⟨failure | accepted, after⟩
      · rw [ending_error taken] at looked
        rw [ending_error (run_bind_error taken)]
        exact looked
      · rw [ending_ok taken] at looked
        rw [ending_bind_ok taken]
        cases accepted with
        | false => exact looked
        | true =>
            simp only [if_true]
            rw [ending_bind_pure]
            exact laws.chain looked (laws.walk_nodes body after)
  | .sequence children, state => by
      rw [turnsAt, walkNode, ending_bind_pure]
      exact laws.walk_nodes children state

theorem EndLaw.walk_nodes (laws : EndLaw services law) :
    (nodes : List Tree.Node) → (state : RunState σ Context) →
      law state (turns services nodes state) (ending (walkNodes services nodes) state)
  | [], state => laws.idle state
  | node :: rest, state => by
      have first := laws.walk_node node state
      rw [turns, walkNodes]
      rcases taken : (walkNode services node).run.run state with ⟨failure | flow, after⟩
      · rw [ending_error taken] at first
        rw [ending_error (run_bind_error taken), List.append_nil]
        exact first
      · rw [ending_ok taken] at first
        rw [ending_bind_ok taken]
        cases flow with
        | halt =>
            rw [List.append_nil]
            exact first
        | proceed => exact laws.chain first (laws.walk_nodes rest after)

end

end EndLaws

/-- A law of walks for which it makes no difference whether a failure has ended the walk. -/
structure TurnLaw (services : Services σ)
    (law : RunState σ Context → List (Turn σ) → RunState σ Context → Prop) : Prop where
  idle : ∀ state, law state [] state
  chain : ∀ {before middle after first others},
    law before first middle → law middle others after → law before (first ++ others) after
  gate : ∀ condition state, law state [⟨.gate condition, state⟩]
    ((passGate condition : Run σ Flow).run.run state).2
  operation : ∀ operation state, law state [⟨.operation operation, state⟩]
    ((operate services operation).run.run state).2
  files : ∀ mode source pattern body state, law state [⟨.files mode source pattern body, state⟩]
    ((filesAccepted services mode pattern).run.run state).2

section TurnLaws

variable {law : RunState σ Context → List (Turn σ) → RunState σ Context → Prop}

theorem TurnLaw.ends (laws : TurnLaw services law) :
    EndLaw services fun before turns ended => law before turns ended.2 where
  idle := laws.idle
  chain := laws.chain
  gate := laws.gate
  operation := laws.operation
  files := laws.files

theorem TurnLaw.walk_node (laws : TurnLaw services law) (node : Tree.Node)
    (state : RunState σ Context) :
    law state (turnsAt services node state) ((walkNode services node).run.run state).2 :=
  laws.ends.walk_node node state

theorem TurnLaw.walk_nodes (laws : TurnLaw services law) (nodes : List Tree.Node)
    (state : RunState σ Context) :
    law state (turns services nodes state) ((walkNodes services nodes).run.run state).2 :=
  laws.ends.walk_nodes nodes state

end TurnLaws

/-- What no gate, no operation and no look at the changed files alters is the same at every turn, and
after the walk. -/
theorem TurnLaw.of_view {α : Type} (view : RunState σ Context → α)
    (gate : ∀ condition state,
      view ((passGate condition : Run σ Flow).run.run state).2 = view state)
    (operation : ∀ operation state,
      view ((operate services operation).run.run state).2 = view state)
    (files : ∀ mode pattern state,
      view ((filesAccepted services mode pattern).run.run state).2 = view state) :
    TurnLaw services fun before turns after =>
      view after = view before ∧ ∀ turn ∈ turns, view turn.state = view before where
  idle _ := ⟨rfl, List.forall_mem_nil _⟩
  chain early late := by
    refine ⟨late.1.trans early.1, List.forall_mem_append.2 ⟨early.2, fun turn member => ?_⟩⟩
    exact (late.2 turn member).trans early.1
  gate condition state := ⟨gate condition state, List.forall_mem_singleton.2 rfl⟩
  operation taken state := ⟨operation taken state, List.forall_mem_singleton.2 rfl⟩
  files mode _ pattern _ state := ⟨files mode pattern state, List.forall_mem_singleton.2 rfl⟩

structure Executed where
  operation : Operation
  context : Context

mutual

def executedAt (services : Services σ) : Tree.Node → RunState σ Context → List Executed
  | .gate _, _ => []
  | .operation operation, state => [⟨operation, state.context⟩]
  | .files mode _ pattern body, state =>
      match (filesAccepted services mode pattern).run.run state with
      | (.ok true, after) => executed services body after
      | _ => []
  | .sequence children, state => executed services children state

def executed (services : Services σ) : List Tree.Node → RunState σ Context → List Executed
  | [], _ => []
  | node :: rest, state =>
      executedAt services node state ++
        match (walkNode services node).run.run state with
        | (.ok .proceed, after) => executed services rest after
        | _ => []

end

/-- Something that holds between the state before a walk, the operations that the walk carries out
and the state after it, because it holds of gates, of listings and of single operations. -/
structure WalkLaw (services : Services σ)
    (law : RunState σ Context → List Executed → RunState σ Context → Prop) : Prop where
  idle : ∀ state, law state [] state
  chain : ∀ {before middle after first others},
    law before first middle → law middle others after → law before (first ++ others) after
  evaluated : ∀ {before after}, Relation.ReflTransGen Evaluates before after → law before [] after
  listed : ∀ {before after}, Relation.ReflTransGen (Lists services) before after →
    law before [] after
  operated : ∀ operation state, law state [⟨operation, state.context⟩]
    ((operate services operation).run.run state).2

def Turn.executed? (turn : Turn σ) : Option Executed :=
  match turn.node with
  | .operation operation => some ⟨operation, turn.state.context⟩
  | .gate _ | .files _ _ _ _ | .sequence _ => none

mutual

theorem executed_at_eq : (node : Tree.Node) → (state : RunState σ Context) →
    executedAt services node state = (turnsAt services node state).filterMap Turn.executed?
  | .gate condition, state => rfl
  | .operation operation, state => rfl
  | .files mode source pattern body, state => by
      rw [executedAt, turnsAt]
      split
      · next after taken =>
          rw [List.filterMap_cons_none rfl, executed_eq body after]
      · rfl
  | .sequence children, state => by
      rw [executedAt, turnsAt, executed_eq children state]

theorem executed_eq : (nodes : List Tree.Node) → (state : RunState σ Context) →
    executed services nodes state = (turns services nodes state).filterMap Turn.executed?
  | [], state => rfl
  | node :: rest, state => by
      rw [executed, turns, List.filterMap_append, executed_at_eq node state]
      split
      · next after taken => rw [executed_eq rest after]
      · rfl

end

theorem WalkLaw.turns {law : RunState σ Context → List Executed → RunState σ Context → Prop}
    (laws : WalkLaw services law) :
    TurnLaw services fun before turns after =>
      law before (turns.filterMap Turn.executed?) after where
  idle := laws.idle
  chain first others := by
    rw [List.filterMap_append]
    exact laws.chain first others
  gate condition _ := laws.evaluated (moves_pass_gate condition)
  operation := laws.operated
  files mode _ pattern _ _ := laws.listed (moves_files_accepted mode pattern)

theorem WalkLaw.walk_node {law : RunState σ Context → List Executed → RunState σ Context → Prop}
    (laws : WalkLaw services law) (node : Tree.Node) (state : RunState σ Context) :
    law state (executedAt services node state) ((walkNode services node).run.run state).2 := by
  rw [executed_at_eq]
  exact laws.turns.walk_node node state

/-- What holds of the parts of walks holds of walks. -/
theorem WalkLaw.walk_nodes {law : RunState σ Context → List Executed → RunState σ Context → Prop}
    (laws : WalkLaw services law) (nodes : List Tree.Node) (state : RunState σ Context) :
    law state (executed services nodes state) ((walkNodes services nodes).run.run state).2 := by
  rw [executed_eq]
  exact laws.turns.walk_nodes nodes state

end Run

end RepoRules
