import RepoRules.Proofs.Tree.References

/-!
How a tree is built, as a relation between the builder before and after. There is no bound on the
depth here: every finite way of following the references is a derivation, and the tree that is built
always has one.
-/

namespace RepoRules.Tree

namespace Builder

def start : Builder := ⟨[], [], []⟩

def reported (builder : Builder) (step : String) (error : RuleError) : Builder :=
  { builder with diagnostics := builder.diagnostics ++ [⟨step, error⟩] }

def opened (builder : Builder) (name : String) : Builder :=
  { builder with expanding := name :: builder.expanding }

def closed (builder : Builder) (name : String) (nodes : List Node) : Builder :=
  { builder with
    expanding := builder.expanding.drop 1
    finished := (name, nodes) :: builder.finished }

/-- What is finished when a sequence is closed is that sequence or was finished before. -/
theorem lookup_closed_cases {builder : Builder} {name other : String} {nodes held : List Node}
    (found : (builder.closed name nodes).finished.lookup other = some held) :
    other = name ∧ held = nodes ∨ builder.finished.lookup other = some held := by
  by_cases same : other = name
  · subst same
    rw [closed, OrderedMap.lookup_cons_self] at found
    cases found
    exact .inl ⟨rfl, rfl⟩
  · rw [closed, OrderedMap.lookup_cons_of_ne same] at found
    exact .inr found

end Builder

open Builder

/-- A builder turns a sequence of steps into nodes and becomes another builder. A reference is
answered from what is finished; it adds nothing if its sequence is being expanded or is unknown;
otherwise its sequence is expanded in place. -/
inductive Expansion (document : RuleDocument) :
    Builder → List Step → List Node → Builder → Prop
  | nil (builder : Builder) : Expansion document builder [] [] builder
  | check {builder last : Builder} {group : Json} {condition : Condition} {rest : List Step}
      {others : List Node}
      (read : Condition.ofGroup group = .ok condition)
      (behind : Expansion document builder rest others last) :
      Expansion document builder (.action (.check group) :: rest)
        (.gate (some condition) :: others) last
  | refusedCheck {builder last : Builder} {group : Json} {error : RuleError} {rest : List Step}
      {others : List Node}
      (refused : Condition.ofGroup group = .error error)
      (behind : Expansion document (builder.reported "check" error) rest others last) :
      Expansion document builder (.action (.check group) :: rest) (.gate none :: others) last
  | operation {builder last : Builder} {operation : Operation} {rest : List Step}
      {others : List Node}
      (behind : Expansion document builder rest others last) :
      Expansion document builder (.action (.operation operation) :: rest)
        (.operation operation :: others) last
  | malformed {builder last : Builder} {key : String} {error : RuleError} {rest : List Step}
      {others : List Node}
      (behind : Expansion document (builder.reported key error) rest others last) :
      Expansion document builder (.malformed key error :: rest) others last
  | group {builder middle last : Builder} {steps rest : List Step} {children others : List Node}
      (inside : Expansion document builder steps children middle)
      (behind : Expansion document middle rest others last) :
      Expansion document builder (.group steps :: rest) (.sequence children :: others) last
  | files {builder middle last : Builder} {mode : FileMatch} {source : String} {pattern : Pattern}
      {body rest : List Step} {children others : List Node}
      (read : Pattern.parse source = .ok pattern)
      (inside : Expansion document builder body children middle)
      (behind : Expansion document middle rest others last) :
      Expansion document builder (.files mode source body :: rest)
        (.files mode source pattern children :: others) last
  | refusedFiles {builder last : Builder} {mode : FileMatch} {source : String}
      {fault : Pattern.Fault} {body rest : List Step} {others : List Node}
      (refused : Pattern.parse source = .error fault)
      (behind : Expansion document
        (builder.reported (filesDescription mode source)
          (.malformedStep (.filePattern source fault))) rest others last) :
      Expansion document builder (.files mode source body :: rest) others last
  | finished {builder last : Builder} {name : String} {nodes others : List Node}
      {rest : List Step}
      (found : builder.finished.lookup name = some nodes)
      (behind : Expansion document builder rest others last) :
      Expansion document builder (.action (.predefined name) :: rest) (nodes ++ others) last
  | cyclic {builder last : Builder} {name : String} {rest : List Step} {others : List Node}
      (unfinished : builder.finished.lookup name = none)
      (isOpen : name ∈ builder.expanding)
      (behind : Expansion document
        (builder.reported (Action.predefined name).describe (.predefinedCycle name))
        rest others last) :
      Expansion document builder (.action (.predefined name) :: rest) others last
  | missing {builder last : Builder} {name : String} {rest : List Step} {others : List Node}
      (unfinished : builder.finished.lookup name = none)
      (notOpen : name ∉ builder.expanding)
      (undefined : document.predefined.get? name = none)
      (behind : Expansion document
        (builder.reported (Action.predefined name).describe (.missingPredefined name))
        rest others last) :
      Expansion document builder (.action (.predefined name) :: rest) others last
  | inline {builder middle last : Builder} {name : String} {steps rest : List Step}
      {nodes others : List Node}
      (unfinished : builder.finished.lookup name = none)
      (notOpen : name ∉ builder.expanding)
      (defined : document.predefined.get? name = some steps)
      (inside : Expansion document (builder.opened name) steps nodes middle)
      (behind : Expansion document (middle.closed name nodes) rest others last) :
      Expansion document builder (.action (.predefined name) :: rest) (nodes ++ others) last

namespace Expansion

variable {document : RuleDocument} {builder last : Builder} {steps : List Step} {nodes : List Node}

theorem expanding_eq (expansion : Expansion document builder steps nodes last) :
    last.expanding = builder.expanding := by
  induction expansion with
  | nil => rfl
  | check _ _ behind | operation _ behind | finished _ _ behind => exact behind
  | refusedCheck _ _ behind | malformed _ behind | refusedFiles _ _ behind
  | cyclic _ _ _ behind | missing _ _ _ _ behind => exact behind
  | group _ _ inside behind | files _ _ _ inside behind => exact behind.trans inside
  | inline _ _ _ _ _ inside behind =>
      rw [behind]
      simp only [closed, inside, opened, List.drop_one, List.tail_cons]

theorem lookup_of_finished (expansion : Expansion document builder steps nodes last)
    {name : String} {held : List Node} (found : builder.finished.lookup name = some held) :
    last.finished.lookup name = some held := by
  induction expansion with
  | nil => exact found
  | check _ _ behind | operation _ behind | finished _ _ behind => exact behind found
  | refusedCheck _ _ behind | malformed _ behind | refusedFiles _ _ behind
  | cyclic _ _ _ behind | missing _ _ _ _ behind => exact behind found
  | group _ _ inside behind | files _ _ _ inside behind => exact behind (inside found)
  | @inline builder middle _ other _ _ _ _ unfinished _ _ _ _ inside behind =>
      apply behind
      have different : name ≠ other := by
        rintro rfl
        rw [unfinished] at found
        cases found
      rw [closed, OrderedMap.lookup_cons_of_ne different]
      exact inside found

theorem append {middle : Builder} {more : List Step} {others : List Node}
    (expansion : Expansion document builder steps nodes middle)
    (behind : Expansion document middle more others last) :
    Expansion document builder (steps ++ more) (nodes ++ others) last := by
  induction expansion with
  | nil => exact behind
  | check read _ induction => exact .check read (induction behind)
  | refusedCheck refused _ induction => exact .refusedCheck refused (induction behind)
  | operation _ induction => exact .operation (induction behind)
  | malformed _ induction => exact .malformed (induction behind)
  | group inside _ _ induction => exact .group inside (induction behind)
  | files read inside _ _ induction => exact .files read inside (induction behind)
  | refusedFiles refused _ induction => exact .refusedFiles refused (induction behind)
  | finished found _ induction =>
      rw [List.append_assoc]
      exact .finished found (induction behind)
  | cyclic unfinished isOpen _ induction => exact .cyclic unfinished isOpen (induction behind)
  | missing unfinished notOpen undefined _ induction =>
      exact .missing unfinished notOpen undefined (induction behind)
  | inline unfinished notOpen defined inside _ _ induction =>
      rw [List.append_assoc]
      exact .inline unfinished notOpen defined inside (induction behind)

end Expansion

def Builder.Leads (document : RuleDocument) (builder : Builder) (steps : List Step) : Prop :=
  ∀ name ∈ builder.expanding, ∀ other ∈ Step.referencesOf steps, document.Includes name other

namespace Builder.Leads

variable {document : RuleDocument} {builder : Builder} {step : Step} {steps rest : List Step}
  {name : String}

theorem start : Builder.start.Leads document steps := by
  intro name isOpen
  cases isOpen

theorem behind {other : Builder} (leads : builder.Leads document (step :: rest))
    (same : other.expanding = builder.expanding) : other.Leads document rest := by
  intro name isOpen reference refers
  rw [same] at isOpen
  exact leads name isOpen reference (List.mem_append_right _ refers)

theorem group (leads : builder.Leads document (.group steps :: rest)) :
    builder.Leads document steps :=
  fun name isOpen reference refers => leads name isOpen reference (List.mem_append_left _ refers)

theorem files {mode : FileMatch} {source : String} {pattern : Pattern}
    (leads : builder.Leads document (.files mode source steps :: rest))
    (read : Pattern.parse source = .ok pattern) : builder.Leads document steps := by
  intro name isOpen reference refers
  refine leads name isOpen reference (List.mem_append_left _ ?_)
  rwa [Step.references, read]

theorem reference {other : String}
    (leads : builder.Leads document (.action (.predefined name) :: rest))
    (isOpen : other ∈ builder.expanding) : document.Includes other name :=
  leads other isOpen name (List.mem_append_left _ (List.mem_singleton_self name))

theorem opened (leads : builder.Leads document (.action (.predefined name) :: rest))
    (defined : document.predefined.get? name = some steps) :
    (builder.opened name).Leads document steps := by
  intro other isOpen reference refers
  have last : document.RefersTo name reference := ⟨steps, defined, refers⟩
  rcases List.mem_cons.1 isOpen with same | earlier
  · exact same ▸ .single last
  · exact (leads.reference earlier).tail last

end Builder.Leads

/-- There is room for every sequence that is not open yet. -/
structure Builder.Fits (document : RuleDocument) (levels : Nat) (builder : Builder) : Prop where
  distinct : builder.expanding.Nodup
  defined : ∀ name ∈ builder.expanding, (document.predefined.get? name).isSome
  room : document.predefined.size ≤ levels + builder.expanding.length

namespace Builder.Fits

variable {document : RuleDocument} {levels : Nat} {builder : Builder}

theorem of_expanding_eq {other : Builder} (fits : builder.Fits document levels)
    (same : other.expanding = builder.expanding) : other.Fits document levels := by
  obtain ⟨distinct, defined, room⟩ := fits
  exact ⟨same ▸ distinct, same ▸ defined, same ▸ room⟩

theorem opened {name : String} {steps : List Step} (fits : builder.Fits document levels)
    (notOpen : name ∉ builder.expanding) (found : document.predefined.get? name = some steps) :
    ∃ fewer, levels = fewer + 1 ∧ (builder.opened name).Fits document fewer := by
  have distinct : (name :: builder.expanding).Nodup := List.nodup_cons.2 ⟨notOpen, fits.distinct⟩
  have defined : ∀ other ∈ name :: builder.expanding,
      (document.predefined.get? other).isSome := by
    intro other member
    rcases List.mem_cons.1 member with same | earlier
    · simp [same, found]
    · exact fits.defined other earlier
  have bound := OrderedMap.length_le_size_of_nodup document.predefined distinct defined
  have room := fits.room
  rw [List.length_cons] at bound
  refine ⟨levels - 1, by omega, distinct, defined, ?_⟩
  simp only [Builder.opened, List.length_cons]
  omega

end Builder.Fits

def StepExpansion (document : RuleDocument) (builder : Builder) (step : Step)
    (result : List Node × Builder) : Prop :=
  ∀ rest others last, Expansion document result.2 rest others last →
    Expansion document builder (step :: rest) (result.1 ++ others) last

theorem StepExpansion.expanding_eq {document : RuleDocument} {builder : Builder} {step : Step}
    {result : List Node × Builder} (expansion : StepExpansion document builder step result) :
    result.2.expanding = builder.expanding :=
  (expansion [] [] result.2 (.nil result.2)).expanding_eq

def ReferencesExpand (document : RuleDocument) (levels : Nat) : Prop :=
  ∀ (builder : Builder) (name : String), builder.Fits document levels →
    StepExpansion document builder (.action (.predefined name))
      ((actionNodes (expand document.predefined levels) (.predefined name)).run builder)

section Sequences

variable {document : RuleDocument} {levels : Nat}

theorem check_expansion (builder : Builder) (group : Json) :
    StepExpansion document builder (.action (.check group)) ((gateOf group).run builder) := by
  intro rest others last behind
  unfold gateOf at behind ⊢
  cases read : Condition.ofGroup group with
  | ok condition =>
      rw [read] at behind
      exact .check read behind
  | error error =>
      rw [read] at behind
      exact .refusedCheck read behind

mutual

theorem step_nodes_expansion (references : ReferencesExpand document levels) :
    (step : Step) → (builder : Builder) → builder.Fits document levels →
      StepExpansion document builder step
        ((stepNodes (expand document.predefined levels) step).run builder)
  | .action (.check group), builder, _ => check_expansion builder group
  | .action (.operation _), _, _ => fun _ _ _ behind => .operation behind
  | .action (.predefined name), builder, fits => references builder name fits
  | .malformed _ _, _, _ => fun _ _ _ behind => .malformed behind
  | .group steps, builder, fits => fun _ _ _ behind =>
      .group (nodes_of_expansion references steps builder fits) behind
  | .files mode source body, builder, fits => by
      intro rest others last behind
      cases read : Pattern.parse source with
      | ok pattern =>
          simp only [stepNodes, read] at behind ⊢
          exact .files read (nodes_of_expansion references body builder fits) behind
      | error fault =>
          simp only [stepNodes, read] at behind ⊢
          exact .refusedFiles read behind

theorem nodes_of_expansion (references : ReferencesExpand document levels) :
    (steps : List Step) → (builder : Builder) → builder.Fits document levels →
      Expansion document builder steps
        ((nodesOf (expand document.predefined levels) steps).run builder).1
        ((nodesOf (expand document.predefined levels) steps).run builder).2
  | [], builder, _ => .nil builder
  | step :: rest, builder, fits => by
      have first := step_nodes_expansion references step builder fits
      have others := nodes_of_expansion references rest _ (fits.of_expanding_eq first.expanding_eq)
      exact first rest _ _ others

end

end Sequences

section References

variable {document : RuleDocument} {levels : Nat} {builder : Builder} {name : String}

theorem reference_finished {nodes : List Node}
    (found : builder.finished.lookup name = some nodes) :
    (actionNodes (expand document.predefined levels) (.predefined name)).run builder =
      (nodes, builder) := by
  simp [actionNodes, expand.eq_def, found]
  rfl

theorem reference_cyclic (unfinished : builder.finished.lookup name = none)
    (isOpen : name ∈ builder.expanding) :
    (actionNodes (expand document.predefined levels) (.predefined name)).run builder =
      ([], builder.reported (Action.predefined name).describe (.predefinedCycle name)) := by
  simp [actionNodes, expand.eq_def, unfinished, isOpen, report, reported]
  rfl

theorem reference_missing (unfinished : builder.finished.lookup name = none)
    (notOpen : name ∉ builder.expanding) (undefined : document.predefined.get? name = none) :
    (actionNodes (expand document.predefined levels) (.predefined name)).run builder =
      ([], builder.reported (Action.predefined name).describe (.missingPredefined name)) := by
  simp [actionNodes, expand.eq_def, unfinished, notOpen, undefined, report, reported]
  rfl

theorem reference_inline {steps : List Step} (unfinished : builder.finished.lookup name = none)
    (notOpen : name ∉ builder.expanding)
    (defined : document.predefined.get? name = some steps) :
    (actionNodes (expand document.predefined (levels + 1)) (.predefined name)).run builder =
      let inside := (nodesOf (expand document.predefined levels) steps).run (builder.opened name)
      (inside.1, inside.2.closed name inside.1) := by
  simp [actionNodes, expand.eq_def, unfinished, notOpen, defined, opened, closed]
  rfl

end References

theorem references_expand (document : RuleDocument) (levels : Nat) :
    ReferencesExpand document levels := by
  -- a sequence expanded in place takes one level; that there is one left is what `Fits` says
  induction levels using Nat.strongRecOn with
  | ind levels below =>
      intro builder name fits rest others last behind
      cases unfinished : builder.finished.lookup name with
      | some nodes =>
          rw [reference_finished unfinished] at behind ⊢
          exact .finished unfinished behind
      | none =>
          by_cases isOpen : name ∈ builder.expanding
          · rw [reference_cyclic unfinished isOpen] at behind ⊢
            exact .cyclic unfinished isOpen behind
          cases defined : document.predefined.get? name with
          | none =>
              rw [reference_missing unfinished isOpen defined] at behind ⊢
              exact .missing unfinished isOpen defined behind
          | some steps =>
              obtain ⟨fewer, rfl, inner⟩ := fits.opened isOpen defined
              rw [reference_inline unfinished isOpen defined] at behind ⊢
              have inside := nodes_of_expansion (below fewer (Nat.lt_succ_self fewer)) steps
                (builder.opened name) inner
              exact .inline unfinished isOpen defined inside behind

def finalBuilder (document : RuleDocument) (steps : List Step) : Builder :=
  ((nodesOf (expand document.predefined document.predefined.size) steps).run Builder.start).2

theorem start_fits (document : RuleDocument) :
    Builder.start.Fits document document.predefined.size :=
  ⟨List.nodup_nil, by simp [Builder.start], by simp⟩

/-- The tree of a sequence is what a fresh builder expands it to. -/
theorem build_expansion (document : RuleDocument) (steps : List Step) :
    Expansion document .start steps (ActionTree.build document steps).children
      (finalBuilder document steps) :=
  nodes_of_expansion (references_expand document _) steps .start (start_fits document)

end RepoRules.Tree
