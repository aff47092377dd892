import Mathlib.Data.Finset.Card
import RepoRules.Proofs.Tree.Memo

/-!
Sequences that include each other. Where a sequence and everything it leads to is free of such
tangles, what is kept for it does not depend on what else is open or finished.
-/

namespace RepoRules

namespace Tree

mutual

def assembleStep (answer : String → List Node) : Step → List Node
  | .action (.check group) =>
      match Condition.ofGroup group with
      | .ok condition => [.gate (some condition)]
      | .error _ => [.gate none]
  | .action (.operation operation) => [.operation operation]
  | .action (.predefined name) => answer name
  | .malformed _ _ => []
  | .group steps => [.sequence (assemble answer steps)]
  | .files mode source body =>
      match Pattern.parse source with
      | .ok pattern => [.files mode source pattern (assemble answer body)]
      | .error _ => []

/-- What steps do if it is known what the references in them stand for. -/
def assemble (answer : String → List Node) : List Step → List Node
  | [] => []
  | step :: rest => assembleStep answer step ++ assemble answer rest

end

section Assembly

variable {answer other : String → List Node}

mutual

theorem assemble_step_congr : (step : Step) →
    (∀ name ∈ step.references, answer name = other name) →
    assembleStep answer step = assembleStep other step
  | .action (.check _), _ => rfl
  | .action (.operation _), _ => rfl
  | .action (.predefined name), same => same name (List.mem_singleton_self name)
  | .malformed _ _, _ => rfl
  | .group steps, same => by
      rw [assembleStep, assembleStep, assemble_congr steps same]
  | .files mode source body, same => by
      cases read : Pattern.parse source with
      | ok pattern =>
          rw [Step.references, read] at same
          simp only [assembleStep, read, assemble_congr body same]
      | error fault => simp only [assembleStep, read]

theorem assemble_congr : (steps : List Step) →
    (∀ name ∈ Step.referencesOf steps, answer name = other name) →
    assemble answer steps = assemble other steps
  | [], _ => rfl
  | step :: rest, same => by
      rw [assemble, assemble,
        assemble_step_congr step fun name member => same name (List.mem_append_left _ member),
        assemble_congr rest fun name member => same name (List.mem_append_right _ member)]

end

end Assembly

/-- What a reference stands for in the end: nothing as long as its sequence is open. -/
def Builder.answer (builder : Builder) (name : String) : List Node :=
  if name ∈ builder.expanding then [] else (builder.finished.lookup name).getD []

section Answers

variable {document : RuleDocument} {builder last : Builder} {steps : List Step} {nodes : List Node}
  {name : String}

theorem Builder.answer_of_open (isOpen : name ∈ builder.expanding) : builder.answer name = [] :=
  if_pos isOpen

theorem Builder.Consistent.answer_of_finished (consistent : builder.Consistent document)
    (found : builder.finished.lookup name = some nodes) : builder.answer name = nodes := by
  have notOpen : name ∉ builder.expanding := by
    intro isOpen
    rw [consistent.unfinished isOpen] at found
    cases found
  rw [answer, if_neg notOpen, found, Option.getD_some]

theorem Builder.Consistent.answer_of_unknown (consistent : builder.Consistent document)
    (undefined : document.predefined.get? name = none) : builder.answer name = [] := by
  unfold answer
  split
  · rfl
  · cases found : builder.finished.lookup name with
    | none => rfl
    | some nodes =>
        obtain ⟨body, known⟩ := consistent.known found
        rw [undefined] at known
        cases known

theorem Builder.Settled.answer_eq (settled : builder.Settled document name)
    (consistent : builder.Consistent document)
    (expansion : Expansion document builder steps nodes last) :
    last.answer name = builder.answer name := by
  have after := (expansion.consistent consistent).1
  cases settled with
  | finished found =>
      rw [consistent.answer_of_finished found,
        after.answer_of_finished (expansion.lookup_of_finished found)]
  | isOpen member =>
      rw [answer_of_open member, answer_of_open (expansion.expanding_eq ▸ member)]
  | unknown undefined =>
      rw [consistent.answer_of_unknown undefined, after.answer_of_unknown undefined]

theorem Expansion.nodes_eq_assemble (expansion : Expansion document builder steps nodes last)
    (consistent : builder.Consistent document) : nodes = assemble last.answer steps := by
  induction expansion with
  | nil => rfl
  | check read _ behind =>
      rw [assemble, ← behind consistent, assembleStep, read]
      rfl
  | refusedCheck refused _ behind =>
      rw [assemble, ← behind (consistent.reported _ _), assembleStep, refused]
      rfl
  | operation _ behind =>
      rw [assemble, ← behind consistent]
      rfl
  | malformed _ behind =>
      rw [assemble, ← behind (consistent.reported _ _)]
      rfl
  | group first after inside behind =>
      obtain ⟨middle, settled⟩ := first.consistent consistent
      rw [assemble, ← behind middle, assembleStep, inside consistent]
      rw [assemble_congr _ fun name member => ((settled name member).answer_eq middle after).symm]
      rfl
  | files read first after inside behind =>
      obtain ⟨middle, settled⟩ := first.consistent consistent
      rw [assemble, ← behind middle, assembleStep, read, inside consistent]
      rw [assemble_congr _ fun name member => ((settled name member).answer_eq middle after).symm]
      rfl
  | refusedFiles refused _ behind =>
      rw [assemble, ← behind (consistent.reported _ _), assembleStep, refused]
      rfl
  | finished found after behind =>
      have final := (after.consistent consistent).1
      rw [assemble, ← behind consistent, assembleStep,
        final.answer_of_finished (after.lookup_of_finished found)]
  | cyclic unfinished isOpen after behind =>
      rw [assemble, ← behind (consistent.reported _ _), assembleStep,
        Builder.answer_of_open (after.expanding_eq ▸ isOpen)]
      rfl
  | missing unfinished notOpen undefined after behind =>
      have final := (after.consistent (consistent.reported _ _)).1
      rw [assemble, ← behind (consistent.reported _ _), assembleStep,
        final.answer_of_unknown undefined]
      rfl
  | inline unfinished notOpen defined first after inside behind =>
      have middle := first.consistent_closed consistent unfinished notOpen defined
      have final := (after.consistent middle).1
      have found := after.lookup_of_finished (OrderedMap.lookup_cons_self _ _ _)
      rw [assemble, ← behind middle, assembleStep, final.answer_of_finished found]

end Answers

end Tree

namespace RuleDocument

variable (document : RuleDocument)

/-- Neither a sequence nor anything that it leads to is in a tangle with another sequence. -/
def Untangled (name : String) : Prop :=
  ∀ other, Relation.ReflTransGen document.RefersTo name other →
    ∀ partner, document.Includes other partner → document.Includes partner other → partner = other

/-- How many known names a name leads to, itself included. -/
noncomputable def weight (name : String) : Nat := by
  classical
  exact (document.predefined.keys.toFinset.filter
    fun other => Relation.ReflTransGen document.RefersTo name other).card

variable {document} {name other : String}

theorem Untangled.tail (untangled : document.Untangled name)
    (refers : document.RefersTo name other) : document.Untangled other :=
  fun third path => untangled third (.head refers path)

theorem Untangled.weight_lt (untangled : document.Untangled name)
    (refers : document.RefersTo name other) (differs : other ≠ name) :
    document.weight other < document.weight name := by
  classical
  obtain ⟨steps, defined, _⟩ := id refers
  have isKnown := document.predefined.mem_keys_of_get? defined
  -- `name` itself is counted for `name`, but `other` does not lead back to it
  refine Finset.card_lt_card (Finset.ssubset_iff_of_subset ?_ |>.2 ⟨name, ?_, ?_⟩)
  · intro third member
    rw [Finset.mem_filter] at member ⊢
    exact ⟨member.1, .head refers member.2⟩
  · rw [Finset.mem_filter, List.mem_toFinset]
    exact ⟨isKnown, .refl⟩
  · rw [Finset.mem_filter]
    rintro ⟨_, back⟩
    rcases Relation.reflTransGen_iff_eq_or_transGen.1 back with same | back
    · exact differs same.symm
    · exact differs (untangled name .refl other (.single refers) back)

end RuleDocument

namespace Tree

variable {document : RuleDocument} {builder last : Builder} {steps : List Step} {nodes : List Node}
  {name : String}

/-- A reference alone is expanded in place, if its sequence is known. -/
theorem fresh_cases (document : RuleDocument) (name : String) :
    document.predefined.get? name = none ∧ fresh document name = [] ∨
      ∃ steps middle, document.predefined.get? name = some steps ∧
        Expansion document (Builder.start.opened name) steps (fresh document name) middle := by
  have inverted : ∀ nodes last, Expansion document .start (Step.referring name) nodes last →
      document.predefined.get? name = none ∧ nodes = [] ∨
        ∃ steps middle, document.predefined.get? name = some steps ∧
          Expansion document (Builder.start.opened name) steps nodes middle := by
    intro nodes last expansion
    cases expansion with
    | finished found => cases found
    | cyclic _ isOpen => cases isOpen
    | missing _ _ undefined behind =>
        cases behind
        exact .inl ⟨undefined, rfl⟩
    | inline _ _ defined inside behind =>
        cases behind
        rw [List.append_nil]
        exact .inr ⟨_, _, defined, inside⟩
  exact inverted _ _ (build_expansion document (Step.referring name))

/-- What an untangled sequence does: a reference to itself adds nothing, and every other one what it
stands for alone. -/
def Unfolds (document : RuleDocument) (name : String) : Prop :=
  ∀ steps, document.predefined.get? name = some steps →
    fresh document name =
      assemble (fun other => if other = name then [] else fresh document other) steps

def Builder.FreshBelow (document : RuleDocument) (bound : Nat) (builder : Builder) : Prop :=
  ∀ name nodes, document.Untangled name → document.weight name < bound →
    builder.finished.lookup name = some nodes → nodes = fresh document name

/-- The expansion of an untangled sequence in place, whatever else is open. -/
theorem inline_nodes (unfinished : builder.finished.lookup name = none)
    (defined : document.predefined.get? name = some steps)
    (inside : Expansion document (builder.opened name) steps nodes last)
    (consistent : builder.Consistent document) (untangled : document.Untangled name)
    (leads : ∀ other ∈ builder.expanding, document.Includes other name)
    (below : last.FreshBelow document (document.weight name)) :
    nodes = assemble (fun other => if other = name then [] else fresh document other) steps := by
  have opened := consistent.opened unfinished
  obtain ⟨final, settled⟩ := inside.consistent opened
  rw [inside.nodes_eq_assemble opened]
  refine assemble_congr steps fun other member => ?_
  have refers : document.RefersTo name other := ⟨steps, defined, member⟩
  by_cases same : other = name
  · rw [if_pos same, Builder.answer_of_open]
    rw [inside.expanding_eq, same]
    exact List.mem_cons_self
  · rw [if_neg same]
    cases settled other member with
    | finished found =>
        rw [final.answer_of_finished found]
        exact below other _ (untangled.tail refers) (untangled.weight_lt refers same) found
    | isOpen isOpen =>
        -- an open sequence leads here, so the reference back to it would be a tangle
        rw [inside.expanding_eq] at isOpen
        have earlier := (List.mem_cons.1 isOpen).resolve_left same
        exact absurd (untangled name .refl other (.single refers) (leads other earlier)) same
    | unknown undefined =>
        rw [final.answer_of_unknown undefined]
        rcases fresh_cases document other with ⟨_, nothing⟩ | ⟨body, _, known, _⟩
        · exact nothing.symm
        · rw [undefined] at known
          cases known

theorem fresh_below_of_expansion {bound : Nat}
    (unfolds : ∀ name, document.Untangled name → document.weight name < bound →
      Unfolds document name)
    (expansion : Expansion document builder steps nodes last)
    (consistent : builder.Consistent document) (leads : builder.Leads document steps)
    (below : builder.FreshBelow document bound) : last.FreshBelow document bound := by
  induction expansion with
  | nil => exact below
  | check _ _ behind | operation _ behind => exact behind consistent (leads.behind rfl) below
  | finished _ _ behind => exact behind consistent (leads.behind rfl) below
  | refusedCheck _ _ behind | malformed _ behind =>
      exact behind (consistent.reported _ _) (leads.behind rfl) below
  | refusedFiles _ _ behind | cyclic _ _ _ behind | missing _ _ _ _ behind =>
      exact behind (consistent.reported _ _) (leads.behind rfl) below
  | group first _ inside behind =>
      exact behind (first.consistent consistent).1 (leads.behind first.expanding_eq)
        (inside consistent leads.group below)
  | files read first _ inside behind =>
      exact behind (first.consistent consistent).1 (leads.behind first.expanding_eq)
        (inside consistent (leads.files read) below)
  | @inline builder _ _ name _ _ _ _ unfinished notOpen defined first _ inside behind =>
      have opened := consistent.opened unfinished
      have inner := inside opened (leads.opened defined) below
      refine behind (first.consistent_closed consistent unfinished notOpen defined)
        (leads.behind (congrArg (List.drop 1) first.expanding_eq)) ?_
      -- only the name that is closed is new in memory
      intro other held untangled light found
      by_cases same : other = name
      · subst same
        rw [Builder.closed, OrderedMap.lookup_cons_self] at found
        cases found
        rw [unfolds other untangled light _ defined]
        refine inline_nodes unfinished defined first consistent untangled
          (fun _ isOpen => leads.reference isOpen) ?_
        exact fun third nodes free less => inner third nodes free (Nat.lt_trans less light)
      · rw [Builder.closed, OrderedMap.lookup_cons_of_ne same] at found
        exact inner other held untangled light found

theorem unfolds_of_untangled (untangled : document.Untangled name) : Unfolds document name := by
  -- the sequence's references to other names are lighter than the sequence
  induction bound : document.weight name using Nat.strongRecOn generalizing name with
  | ind bound lighter =>
      subst bound
      intro steps defined
      rcases fresh_cases document name with ⟨undefined, _⟩ | ⟨_, middle, known, inside⟩
      · rw [undefined] at defined
        cases defined
      rw [known] at defined
      cases defined
      have consistent := Builder.Consistent.start document
      have leads : Builder.start.Leads document (Step.referring name) := .start
      refine inline_nodes rfl known inside consistent untangled (fun _ isOpen => by cases isOpen) ?_
      refine fresh_below_of_expansion (fun other free less => lighter _ less free rfl) inside
        (consistent.opened rfl) (leads.opened known) ?_
      intro other held _ _ found
      cases found

/-- What is kept for an untangled sequence is what a reference to it alone stands for. -/
theorem kept_eq_fresh (untangled : document.Untangled name)
    (held : kept document steps name = some nodes) : nodes = fresh document name := by
  have below : Builder.start.FreshBelow document (document.weight name + 1) := by
    intro other nodes _ _ found
    cases found
  exact fresh_below_of_expansion (fun _ free _ => unfolds_of_untangled free)
    (build_expansion document steps) (.start document) .start below name nodes untangled
    (Nat.lt_succ_self _) held

end Tree

end RepoRules
