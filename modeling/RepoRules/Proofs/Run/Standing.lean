import RepoRules.Proofs.Run.Operations
import RepoRules.Proofs.Run.Rereading

/-!
What stands still on a walk. At every node that is met the items and the comment are those from the
start of the walk, and whatever has been pooled stays in the pool.
-/

namespace RepoRules

open Effects

namespace Context

/-- The items, the comment and the answers to queries are the same, and in the pool there are further
entries at most. -/
structure Stands (before after : Context) : Prop where
  items : after.items = before.items
  queries : after.queries = before.queries
  pool : ∃ entries, after.operations = before.operations.enterAll entries

theorem Stands.refl (context : Context) : Stands context context :=
  ⟨rfl, rfl, [], rfl⟩

theorem Stands.trans {before middle after : Context} (first : Stands before middle)
    (second : Stands middle after) : Stands before after := by
  obtain ⟨items, queries, early, pool⟩ := first
  obtain ⟨others, answers, late, grown⟩ := second
  exact ⟨others.trans items, answers.trans queries, early ++ late, by rw [grown, pool, Pool.enter_all_append]⟩

end Context

section Steps

variable {σ : Type} {services : Services σ} {before after : RunState σ Context}

theorem Evaluates.stands (evaluates : Evaluates before after) :
    before.context.Stands after.context := by
  cases evaluates with
  | noted source => exact .refl _
  | failed message => exact ⟨rfl, rfl, [], rfl⟩

theorem Lists.stands (lists : Lists services before after) :
    before.context.Stands after.context := by
  cases lists with
  | called number => exact .refl _
  | kept files => exact ⟨rfl, rfl, [], rfl⟩

theorem Context.stands_of_steps {step : RunState σ Context → RunState σ Context → Prop}
    (stands : ∀ before after, step before after → before.context.Stands after.context)
    (steps : Relation.ReflTransGen step before after) : before.context.Stands after.context := by
  induction steps with
  | refl => exact .refl _
  | tail _ last induction => exact induction.trans (stands _ _ last)

end Steps

namespace Run

variable {σ : Type} {services : Services σ}

theorem context_of_writes (services : Services σ) (mutations : List Mutation)
    (state : RunState σ Context) :
    ((mutations.forM (write services)).run.run state).2.context = state.context := by
  obtain ⟨_, _, _, going, _⟩ := writes_go_out services.client mutations state
  exact congrArg (fun ended => ended.2.context) going

theorem stands_operate (operation : Operation) (state : RunState σ Context) :
    state.context.Stands ((operate services operation).run.run state).2.context := by
  let middle := state.evaluating (operation.evaluations state.context)
  have evaluated : state.context.Stands middle.context :=
    Context.stands_of_steps (fun _ _ => Evaluates.stands) (state.steps_evaluating _)
  have written := context_of_writes services (operation.writes state.context) middle
  apply @holds_after_operate _ services fun after => state.context.Stands after.context
  · rw [written]
    exact evaluated
  · intro after stands
    exact stands.trans ⟨rfl, rfl, operation.entries state.context, rfl⟩

theorem stands_law : WalkLaw services fun before _ after => before.context.Stands after.context where
  idle _ := .refl _
  chain := .trans
  evaluated := Context.stands_of_steps fun _ _ => Evaluates.stands
  listed := Context.stands_of_steps fun _ _ => Lists.stands
  operated := stands_operate

mutual

/-- The states in which the nodes of a walk are met. -/
def metAt (services : Services σ) : Tree.Node → RunState σ Context → List Context
  | .gate _, state => [state.context]
  | .operation _, state => [state.context]
  | .files mode _ pattern body, state =>
      state.context :: match (filesAccepted services mode pattern).run.run state with
        | (.ok true, after) => met services body after
        | _ => []
  | .sequence children, state => met services children state

def met (services : Services σ) : List Tree.Node → RunState σ Context → List Context
  | [], _ => []
  | node :: rest, state =>
      metAt services node state ++
        match (walkNode services node).run.run state with
        | (.ok .proceed, after) => met services rest after
        | _ => []

end

mutual

theorem stands_of_met_at : (node : Tree.Node) → (state : RunState σ Context) →
    ∀ context ∈ metAt services node state, state.context.Stands context
  | .gate _, state, context, found => by
      rw [metAt, List.mem_singleton] at found
      rw [found]
      exact .refl _
  | .operation _, state, context, found => by
      rw [metAt, List.mem_singleton] at found
      rw [found]
      exact .refl _
  | .files mode _ pattern body, state, context, found => by
      have looked : state.context.Stands
          ((filesAccepted services mode pattern).run.run state).2.context :=
        stands_law.listed (moves_files_accepted mode pattern)
      rw [metAt, List.mem_cons] at found
      rcases found with rfl | found
      · exact .refl _
      · split at found
        · next after accepted =>
            rw [accepted] at looked
            exact looked.trans (stands_of_met body after context found)
        · cases found
  | .sequence children, state, context, found => by
      rw [metAt] at found
      exact stands_of_met children state context found

/-- Wherever a node is met, everything stands as at the start. -/
theorem stands_of_met : (nodes : List Tree.Node) → (state : RunState σ Context) →
    ∀ context ∈ met services nodes state, state.context.Stands context
  | [], _, _, found => by
      rw [met] at found
      cases found
  | node :: rest, state, context, found => by
      have walked : state.context.Stands ((walkNode services node).run.run state).2.context :=
        stands_law.walk_node node state
      rw [met, List.mem_append] at found
      rcases found with found | found
      · exact stands_of_met_at node state context found
      · split at found
        · next after proceeded =>
            rw [proceeded] at walked
            exact walked.trans (stands_of_met rest after context found)
        · cases found

end

end Run

end RepoRules
