import RepoRules.Proofs.Run.Agreement
import RepoRules.Proofs.Tree.Expansion
import RepoRules.Repository.Offline
import RepoRules.Run.Walk

/-!
Steps run as they are written, without a tree. A reference runs the steps of its sequence in its own
place; a list inside a list and the body of a files step are sequences of their own. Where no
sequence leads back to itself, the tree that is built for steps does what the steps do.
-/

namespace RepoRules

abbrev Interpreter (σ : Type) := ExceptT Failure (StateT (RunState σ Context) Option)

namespace Interpreter

variable {σ α β : Type}

def ofRun (run : Run σ α) : Interpreter σ α :=
  ExceptT.mk fun state => some (run.run.run state)

def check (group : Json) : Interpreter σ Flow :=
  match Condition.ofGroup group with
  | .error _ => return .halt
  | .ok condition =>
      ofRun do
        match ← Run.judge condition with
        | .ok true => return .proceed
        | .ok false => return .halt
        | .error error =>
            Run.addFailure ("check failed to evaluate: " ++ error.message)
            return .halt

mutual

-- `apply` keeps the source positions of the recursive calls out of the fixpoint
def interpretStep (document : RuleDocument) (services : Services σ) (step : Step) :
    Interpreter σ Flow :=
  match step with
  | .malformed _ _ => return .proceed
  | .action (.check group) => check group
  | .action (.operation operation) => do
      ofRun (Run.operate services operation)
      return .proceed
  | .action (.predefined name) =>
      match document.predefined.get? name with
      | none => return .proceed
      | some steps => by apply interpret; exacts [document, services, steps]
  | .group steps => do
      let _ : Flow ← by apply interpret; exacts [document, services, steps]
      return .proceed
  | .files mode source body =>
      match Pattern.parse source with
      | .error _ => return .proceed
      | .ok pattern => do
          if ← ofRun (Run.filesAccepted services mode pattern) then
            let _ : Flow ← by apply interpret; exacts [document, services, body]
          return .proceed
partial_fixpoint

def interpret (document : RuleDocument) (services : Services σ) (steps : List Step) :
    Interpreter σ Flow :=
  match steps with
  | [] => return .proceed
  | step :: rest => do
      let flow : Flow ← by apply interpretStep; exacts [document, services, step]
      match flow with
      | .proceed => by apply interpret; exacts [document, services, rest]
      | .halt => return .halt
partial_fixpoint

end

def walk (document : RuleDocument) (services : Services σ) (steps : List Step) :
    Interpreter σ Unit := do
  let _ ← interpret document services steps
  return

def execute (document : RuleDocument) (services : Services σ) (steps : List Step) :
    Interpreter σ FlushReport := do
  walk document services steps
  ofRun (Run.flush services)

theorem run_of_run (run : Run σ α) (state : RunState σ Context) :
    (ofRun run).run.run state = some (run.run.run state) := rfl

theorem of_run_bind (run : Run σ α) (next : α → Run σ β) :
    ofRun (run >>= next) = ofRun run >>= fun value => ofRun (next value) := by
  apply ExceptT.ext
  apply StateT.ext
  intro state
  rw [run_of_run, Effects.run_bind, ExceptT.run_bind, StateT.run_bind, run_of_run]
  rcases run.run.run state with ⟨failure | value, after⟩
  · rfl
  · rfl

end Interpreter

def Flow.goOn {m : Type → Type} [Monad m] (first rest : m Flow) : m Flow := do
  match ← first with
  | .proceed => rest
  | .halt => return .halt

namespace Flow

variable {m : Type → Type} [Monad m] [LawfulMonad m]

theorem go_on_proceed (rest : m Flow) : goOn (pure .proceed) rest = rest := by
  simp only [goOn, pure_bind]

theorem go_on_assoc (first middle rest : m Flow) :
    goOn (goOn first middle) rest = goOn first (goOn middle rest) := by
  simp only [goOn, bind_assoc]
  refine bind_congr fun flow => ?_
  cases flow with
  | proceed => rfl
  | halt => simp only [pure_bind]

end Flow

theorem Interpreter.of_run_go_on {σ : Type} (first rest : Run σ Flow) :
    ofRun (Flow.goOn first rest) = Flow.goOn (ofRun first) (ofRun rest) := by
  unfold Flow.goOn
  rw [of_run_bind]
  refine bind_congr fun flow => ?_
  cases flow with
  | proceed => rfl
  | halt => rfl

namespace Run

variable {σ : Type} (services : Services σ)

def sequenceFlow : List Tree.Node → Run σ Flow
  | [] => return .proceed
  | node :: rest => Flow.goOn (walkNode services node) (sequenceFlow rest)

theorem sequence_flow_append (nodes others : List Tree.Node) :
    sequenceFlow services (nodes ++ others) =
      Flow.goOn (sequenceFlow services nodes) (sequenceFlow services others) := by
  induction nodes with
  | nil => exact (Flow.go_on_proceed _).symm
  | cons node rest induction =>
      rw [List.cons_append, sequenceFlow, induction, sequenceFlow, Flow.go_on_assoc]

theorem walk_nodes_eq (nodes : List Tree.Node) :
    walkNodes services nodes = (sequenceFlow services nodes >>= fun _ => pure ()) := by
  induction nodes with
  | nil => rfl
  | cons node rest induction =>
      rw [walkNodes, sequenceFlow, Flow.goOn, bind_assoc]
      refine bind_congr fun flow => ?_
      cases flow with
      | proceed => exact induction
      | halt => rfl

end Run

namespace Interpreter

variable {σ : Type} (document : RuleDocument) (services : Services σ)

theorem interpret_nil : interpret document services [] = pure .proceed := by
  rw [interpret]

theorem interpret_cons (step : Step) (rest : List Step) :
    interpret document services (step :: rest) =
      Flow.goOn (interpretStep document services step) (interpret document services rest) := by
  rw [interpret]
  rfl

theorem step_check_read {group : Json} {condition : Condition}
    (read : Condition.ofGroup group = .ok condition) :
    interpretStep document services (.action (.check group)) =
      ofRun (Run.walkNode services (.gate (some condition))) := by
  rw [interpretStep, check, read]
  rfl

theorem step_check_refused {group : Json} {error : RuleError}
    (refused : Condition.ofGroup group = .error error) :
    interpretStep document services (.action (.check group)) =
      ofRun (Run.walkNode services (.gate none)) := by
  rw [interpretStep, check, refused]
  rfl

theorem step_operation (operation : Operation) :
    interpretStep document services (.action (.operation operation)) =
      ofRun (Run.walkNode services (.operation operation)) := by
  rw [interpretStep, Run.walkNode, of_run_bind]
  rfl

variable {document services} {step : Step} {steps rest : List Step}
  {nodes others : List Tree.Node} {node : Tree.Node}

theorem step_group
    (inside : interpret document services steps = ofRun (Run.sequenceFlow services nodes)) :
    interpretStep document services (.group steps) =
      ofRun (Run.walkNode services (.sequence nodes)) := by
  rw [interpretStep, inside, Run.walkNode, Run.walk_nodes_eq, bind_assoc, of_run_bind]
  rfl

theorem step_files {mode : FileMatch} {source : String} {pattern : Pattern}
    (read : Pattern.parse source = .ok pattern)
    (inside : interpret document services steps = ofRun (Run.sequenceFlow services nodes)) :
    interpretStep document services (.files mode source steps) =
      ofRun (Run.walkNode services (.files mode source pattern nodes)) := by
  rw [interpretStep, read, Run.walkNode, of_run_bind]
  refine bind_congr fun accepted => ?_
  cases accepted with
  | true =>
      -- whether the body is closed is forgotten on both sides
      simp only [if_true]
      rw [inside, Run.walk_nodes_eq, bind_assoc, of_run_bind]
      rfl
  | false => rfl

/-- A step that does what some nodes do stands for them in its sequence. -/
theorem interpret_cons_nodes
    (first : interpretStep document services step = ofRun (Run.sequenceFlow services nodes))
    (behind : interpret document services rest = ofRun (Run.sequenceFlow services others)) :
    interpret document services (step :: rest) =
      ofRun (Run.sequenceFlow services (nodes ++ others)) := by
  rw [interpret_cons, first, behind, Run.sequence_flow_append, of_run_go_on]

theorem interpret_cons_node
    (first : interpretStep document services step = ofRun (Run.walkNode services node))
    (behind : interpret document services rest = ofRun (Run.sequenceFlow services others)) :
    interpret document services (step :: rest) =
      ofRun (Run.sequenceFlow services (node :: others)) := by
  rw [interpret_cons, first, behind, Run.sequenceFlow, of_run_go_on]

theorem interpret_cons_skipped
    (skipped : interpretStep document services step = pure .proceed)
    (behind : interpret document services rest = ofRun (Run.sequenceFlow services others)) :
    interpret document services (step :: rest) = ofRun (Run.sequenceFlow services others) := by
  rw [interpret_cons, skipped, Flow.go_on_proceed, behind]

/-- What is finished does what the steps of its sequence do. -/
def Faithful (document : RuleDocument) (services : Services σ) (builder : Tree.Builder) : Prop :=
  ∀ name nodes, builder.finished.lookup name = some nodes →
    ∃ steps, document.predefined.get? name = some steps ∧
      interpret document services steps = ofRun (Run.sequenceFlow services nodes)

theorem Faithful.closed {builder : Tree.Builder} {name : String}
    (known : Faithful document services builder)
    (defined : document.predefined.get? name = some steps)
    (spliced : interpret document services steps = ofRun (Run.sequenceFlow services nodes)) :
    Faithful document services (builder.closed name nodes) := by
  intro other held found
  by_cases same : other = name
  · subst same
    rw [Tree.Builder.closed, OrderedMap.lookup_cons_self] at found
    cases found
    exact ⟨steps, defined, spliced⟩
  · rw [Tree.Builder.closed, OrderedMap.lookup_cons_of_ne same] at found
    exact known other held found

/-- Where nothing leads back to itself, no reference is left out: nodes do what their steps do. -/
theorem of_expansion (acyclic : document.Acyclic) {builder last : Tree.Builder}
    (expansion : Tree.Expansion document builder steps nodes last)
    (leads : builder.Leads document steps) (known : Faithful document services builder) :
    interpret document services steps = ofRun (Run.sequenceFlow services nodes) ∧
      Faithful document services last := by
  -- induction on the expansion: open sequences lead to every reference at hand, so that a reference
  -- to an open one would close a cycle, and what is finished does what its steps do
  induction expansion with
  | nil => exact ⟨interpret_nil _ _, known⟩
  | check read _ behind =>
      obtain ⟨same, known⟩ := behind (leads.behind rfl) known
      exact ⟨interpret_cons_node (step_check_read _ _ read) same, known⟩
  | refusedCheck refused _ behind =>
      obtain ⟨same, known⟩ := behind (leads.behind rfl) known
      exact ⟨interpret_cons_node (step_check_refused _ _ refused) same, known⟩
  | operation _ behind =>
      obtain ⟨same, known⟩ := behind (leads.behind rfl) known
      exact ⟨interpret_cons_node (step_operation _ _ _) same, known⟩
  | malformed _ behind =>
      obtain ⟨same, known⟩ := behind (leads.behind rfl) known
      refine ⟨interpret_cons_skipped ?_ same, known⟩
      rw [interpretStep]
  | group first _ inside behind =>
      obtain ⟨children, known⟩ := inside leads.group known
      obtain ⟨same, known⟩ := behind (leads.behind first.expanding_eq) known
      exact ⟨interpret_cons_node (step_group children) same, known⟩
  | files read first _ inside behind =>
      obtain ⟨children, known⟩ := inside (leads.files read) known
      obtain ⟨same, known⟩ := behind (leads.behind first.expanding_eq) known
      exact ⟨interpret_cons_node (step_files read children) same, known⟩
  | refusedFiles refused _ behind =>
      obtain ⟨same, known⟩ := behind (leads.behind rfl) known
      refine ⟨interpret_cons_skipped ?_ same, known⟩
      rw [interpretStep, refused]
  | finished found _ behind =>
      -- the nodes are spliced in from memory, where the steps are run once more
      obtain ⟨steps, defined, spliced⟩ := known _ _ found
      obtain ⟨same, known⟩ := behind (leads.behind rfl) known
      refine ⟨interpret_cons_nodes ?_ same, known⟩
      rw [interpretStep, defined]
      exact spliced
  | cyclic unfinished isOpen _ behind =>
      exact absurd (leads.reference isOpen) (acyclic _)
  | missing unfinished notOpen undefined _ behind =>
      obtain ⟨same, known⟩ := behind (leads.behind rfl) known
      refine ⟨interpret_cons_skipped ?_ same, known⟩
      rw [interpretStep, undefined]
  | inline unfinished notOpen defined first _ inside behind =>
      obtain ⟨spliced, known⟩ := inside (leads.opened defined) known
      have known := known.closed defined spliced
      have balanced := congrArg (List.drop 1) first.expanding_eq
      obtain ⟨same, known⟩ := behind (leads.behind balanced) known
      refine ⟨interpret_cons_nodes ?_ same, known⟩
      rw [interpretStep, defined]
      exact spliced

/-- Where no sequence leads back to itself, building a tree and walking through it comes to the same
end as running the steps: the same result, the same state, and the same events in the same order. -/
theorem build_refines_steps (document : RuleDocument) (acyclic : document.Acyclic)
    (services : Services σ) (steps : List Step) (start : RunState σ Context) :
    (walk document services steps).run.run start =
        some ((Run.walk services (ActionTree.build document steps)).run.run start) ∧
      (execute document services steps).run.run start =
        some ((Run.execute services (ActionTree.build document steps)).run.run start) := by
  have known : Faithful document services .start := by
    intro name nodes found
    cases found
  obtain ⟨same, _⟩ := of_expansion acyclic (Tree.build_expansion document steps) .start known
  have walked : walk document services steps =
      ofRun (Run.walk services (ActionTree.build document steps)) := by
    rw [walk, same, Run.walk, Run.walk_nodes_eq, of_run_bind]
    rfl
  refine ⟨?_, ?_⟩
  · rw [walked, run_of_run]
  · rw [execute, walked, ← of_run_bind, run_of_run]
    rfl

def idleContext (document : RuleDocument) : Context where
  kind := .issues
  rawAction := "opened"
  action := "opened"
  delivery := none
  repository := ⟨"octo", "docs"⟩
  issue := none
  pullRequest := none
  comment := none
  projectContent := none
  payload := .null
  rules := document
  variableTable := .empty
  metadata := .empty
  operations := .empty
  failures := []
  changedFiles := none
  queries := Query.run

def idleServices : Services OfflineStore :=
  ⟨OfflineStore.client ⟨"octo", "docs"⟩, fun _ => none⟩

theorem welcome_refines_steps :
    let document := RuleDocument.welcoming
    let steps := Step.referring "welcome"
    let start : RunState OfflineStore Context := ⟨idleContext document, .empty, []⟩
    document.Acyclic ∧
      (walk document idleServices steps).run.run start =
        some ((Run.walk idleServices (ActionTree.build document steps)).run.run start) ∧
      (execute document idleServices steps).run.run start =
        some ((Run.execute idleServices (ActionTree.build document steps)).run.run start) :=
  ⟨RuleDocument.welcoming_acyclic,
    build_refines_steps _ RuleDocument.welcoming_acyclic _ _ _⟩

end Interpreter

end RepoRules
