import RepoRules.Proofs.Tree.Expansion

/-!
What a builder keeps. When the tree of a sequence is built, the finished sequences are exactly the
known ones that the sequence leads to. Which nodes are kept for them depends on the order of the
references when sequences include each other, since one of them is cut short where the other one is
still open.
-/

namespace RepoRules.Tree

open Builder

namespace Expansion

variable {document : RuleDocument} {builder last : Builder} {steps : List Step} {nodes : List Node}

theorem unique (expansion : Expansion document builder steps nodes last) {others : List Node}
    {final : Builder} (second : Expansion document builder steps others final) :
    others = nodes ∧ final = last := by
  induction expansion generalizing others final with
  | nil =>
      cases second
      exact ⟨rfl, rfl⟩
  | check read _ behind =>
      cases second with
      | check readAgain again =>
          rw [read] at readAgain
          cases readAgain
          obtain ⟨rfl, rfl⟩ := behind again
          exact ⟨rfl, rfl⟩
      | refusedCheck refused => simp [read] at refused
  | refusedCheck refused _ behind =>
      cases second with
      | check read => simp [read] at refused
      | refusedCheck refusedAgain again =>
          rw [refused] at refusedAgain
          cases refusedAgain
          obtain ⟨rfl, rfl⟩ := behind again
          exact ⟨rfl, rfl⟩
  | operation _ behind =>
      cases second with
      | operation again =>
          obtain ⟨rfl, rfl⟩ := behind again
          exact ⟨rfl, rfl⟩
  | malformed _ behind =>
      cases second with
      | malformed again => exact behind again
  | group _ _ inside behind =>
      cases second with
      | group insideAgain again =>
          obtain ⟨rfl, rfl⟩ := inside insideAgain
          obtain ⟨rfl, rfl⟩ := behind again
          exact ⟨rfl, rfl⟩
  | files read _ _ inside behind =>
      cases second with
      | files readAgain insideAgain again =>
          rw [read] at readAgain
          cases readAgain
          obtain ⟨rfl, rfl⟩ := inside insideAgain
          obtain ⟨rfl, rfl⟩ := behind again
          exact ⟨rfl, rfl⟩
      | refusedFiles refused => simp [read] at refused
  | refusedFiles refused _ behind =>
      cases second with
      | files read => simp [read] at refused
      | refusedFiles refusedAgain again =>
          rw [refused] at refusedAgain
          cases refusedAgain
          exact behind again
  | finished found _ behind =>
      cases second with
      | finished foundAgain again =>
          rw [found] at foundAgain
          cases foundAgain
          obtain ⟨rfl, rfl⟩ := behind again
          exact ⟨rfl, rfl⟩
      | cyclic unfinished | missing unfinished | inline unfinished => simp [found] at unfinished
  | cyclic unfinished isOpen _ behind =>
      cases second with
      | finished found => simp [unfinished] at found
      | cyclic _ _ again => exact behind again
      | missing _ notOpen | inline _ notOpen => exact absurd isOpen notOpen
  | missing unfinished notOpen undefined _ behind =>
      cases second with
      | finished found => simp [unfinished] at found
      | cyclic _ isOpen => exact absurd isOpen notOpen
      | missing _ _ _ again => exact behind again
      | inline _ _ defined => simp [undefined] at defined
  | inline unfinished notOpen defined _ _ inside behind =>
      cases second with
      | finished found => simp [unfinished] at found
      | cyclic _ isOpen => exact absurd isOpen notOpen
      | missing _ _ undefined => simp [defined] at undefined
      | inline _ _ definedAgain insideAgain again =>
          rw [defined] at definedAgain
          cases definedAgain
          obtain ⟨rfl, rfl⟩ := inside insideAgain
          obtain ⟨rfl, rfl⟩ := behind again
          exact ⟨rfl, rfl⟩

end Expansion

/-- A name needs no more expansion: its sequence is finished, open, or unknown. -/
inductive Builder.Settled (document : RuleDocument) (builder : Builder) (name : String) : Prop
  | finished {nodes : List Node} (found : builder.finished.lookup name = some nodes)
  | isOpen (member : name ∈ builder.expanding)
  | unknown (undefined : document.predefined.get? name = none)

/-- Only known sequences are finished, none of them is open, and what they refer to is settled. -/
structure Builder.Consistent (document : RuleDocument) (builder : Builder) : Prop where
  known : ∀ {name nodes}, builder.finished.lookup name = some nodes →
    ∃ steps, document.predefined.get? name = some steps
  unfinished : ∀ {name}, name ∈ builder.expanding → builder.finished.lookup name = none
  settled : ∀ {name nodes other}, builder.finished.lookup name = some nodes →
    document.RefersTo name other → builder.Settled document other

section Consistency

variable {document : RuleDocument} {builder last : Builder} {steps : List Step} {nodes : List Node}
  {name : String}

theorem Builder.Settled.after (settled : builder.Settled document name)
    (expansion : Expansion document builder steps nodes last) : last.Settled document name := by
  cases settled with
  | finished found => exact .finished (expansion.lookup_of_finished found)
  | isOpen member => exact .isOpen (expansion.expanding_eq ▸ member)
  | unknown undefined => exact .unknown undefined

/-- What was settled while a sequence was open is settled when it is closed. -/
theorem Builder.Settled.closed {other : String} {expanded : List Node}
    (settled : last.Settled document other)
    (balanced : last.expanding = name :: builder.expanding) :
    (last.closed name expanded).Settled document other := by
  by_cases same : other = name
  · subst same
    exact .finished (OrderedMap.lookup_cons_self _ _ _)
  cases settled with
  | finished found => exact .finished ((OrderedMap.lookup_cons_of_ne same _ _).trans found)
  | isOpen member =>
      rw [balanced] at member
      refine .isOpen ?_
      rw [Builder.closed, balanced]
      exact (List.mem_cons.1 member).resolve_left same
  | unknown undefined => exact .unknown undefined

theorem Builder.Consistent.start (document : RuleDocument) :
    Builder.start.Consistent document := by
  constructor <;> intros <;> contradiction

theorem Builder.Consistent.reported (consistent : builder.Consistent document) (step : String)
    (error : RuleError) : (builder.reported step error).Consistent document := by
  refine ⟨consistent.known, consistent.unfinished, ?_⟩
  intro other nodes reference found refers
  cases consistent.settled found refers with
  | finished found => exact .finished found
  | isOpen member => exact .isOpen member
  | unknown undefined => exact .unknown undefined

theorem Builder.Consistent.opened (consistent : builder.Consistent document)
    (unfinished : builder.finished.lookup name = none) :
    (builder.opened name).Consistent document := by
  constructor
  · exact consistent.known
  · intro other member
    rcases List.mem_cons.1 member with same | earlier
    · exact same ▸ unfinished
    · exact consistent.unfinished earlier
  · intro other nodes reference found refers
    cases consistent.settled found refers with
    | finished found => exact .finished found
    | isOpen member => exact .isOpen (List.mem_cons_of_mem _ member)
    | unknown undefined => exact .unknown undefined

theorem Builder.Consistent.closed {expanded : List Node} (consistent : last.Consistent document)
    (notOpen : name ∉ builder.expanding) (balanced : last.expanding = name :: builder.expanding)
    (defined : document.predefined.get? name = some steps)
    (inside : ∀ other ∈ Step.referencesOf steps, last.Settled document other) :
    (last.closed name expanded).Consistent document := by
  have earlier {other : String} (differs : other ≠ name) :
      (last.closed name expanded).finished.lookup other = last.finished.lookup other :=
    OrderedMap.lookup_cons_of_ne differs _ _
  constructor
  · intro other nodes found
    by_cases same : other = name
    · exact ⟨steps, same ▸ defined⟩
    · exact consistent.known ((earlier same).symm.trans found)
  · intro other member
    have member : other ∈ builder.expanding := by
      rwa [Builder.closed, balanced] at member
    have differs : other ≠ name := fun same => notOpen (same ▸ member)
    rw [earlier differs]
    exact consistent.unfinished (balanced ▸ List.mem_cons_of_mem _ member)
  · intro other nodes reference found refers
    refine Builder.Settled.closed ?_ balanced
    by_cases same : other = name
    · subst same
      obtain ⟨body, known, present⟩ := refers
      rw [defined] at known
      cases known
      exact inside reference present
    · exact consistent.settled ((earlier same).symm.trans found) refers

/-- Consistent builders stay consistent, and all that the steps refer to is settled afterwards. -/
theorem Expansion.consistent (expansion : Expansion document builder steps nodes last)
    (consistent : builder.Consistent document) :
    last.Consistent document ∧ ∀ other ∈ Step.referencesOf steps, last.Settled document other := by
  -- what a step refers to stays settled while the steps behind it are expanded
  have joined {first others : List String} {final : Builder}
      (here : ∀ other ∈ first, final.Settled document other)
      (there : ∀ other ∈ others, final.Settled document other) :
      ∀ other ∈ first ++ others, final.Settled document other := by
    intro other member
    rcases List.mem_append.1 member with early | late
    · exact here other early
    · exact there other late
  induction expansion with
  | nil => exact ⟨consistent, by simp [Step.referencesOf]⟩
  | check _ _ behind | operation _ behind => exact behind consistent
  | refusedCheck _ _ behind | malformed _ behind => exact behind (consistent.reported _ _)
  | refusedFiles refused _ behind =>
      obtain ⟨final, others⟩ := behind (consistent.reported _ _)
      refine ⟨final, joined ?_ others⟩
      simp [Step.references, refused]
  | group _ after inside behind =>
      obtain ⟨middle, settled⟩ := inside consistent
      obtain ⟨final, others⟩ := behind middle
      exact ⟨final, joined (fun other member => (settled other member).after after) others⟩
  | files read _ after inside behind =>
      obtain ⟨middle, settled⟩ := inside consistent
      obtain ⟨final, others⟩ := behind middle
      refine ⟨final, joined (fun other member => ?_) others⟩
      rw [Step.references, read] at member
      exact (settled other member).after after
  | finished found after behind =>
      obtain ⟨final, others⟩ := behind consistent
      refine ⟨final, joined (fun other member => ?_) others⟩
      rw [List.mem_singleton.1 member]
      exact (Builder.Settled.finished found).after after
  | cyclic unfinished isOpen after behind =>
      obtain ⟨final, others⟩ := behind (consistent.reported _ _)
      refine ⟨final, joined (fun other member => ?_) others⟩
      rw [List.mem_singleton.1 member]
      exact .isOpen (after.expanding_eq ▸ isOpen)
  | missing unfinished notOpen undefined _ behind =>
      obtain ⟨final, others⟩ := behind (consistent.reported _ _)
      refine ⟨final, joined (fun other member => ?_) others⟩
      rw [List.mem_singleton.1 member]
      exact .unknown undefined
  | inline unfinished notOpen defined first after inside behind =>
      obtain ⟨middle, settled⟩ := inside (consistent.opened unfinished)
      obtain ⟨final, others⟩ :=
        behind (middle.closed notOpen first.expanding_eq defined settled)
      refine ⟨final, joined (fun other member => ?_) others⟩
      rw [List.mem_singleton.1 member]
      exact Builder.Settled.after (.finished (OrderedMap.lookup_cons_self _ _ _)) after

/-- A builder is consistent again when the sequence that it has expanded in place is closed. -/
theorem Expansion.consistent_closed
    (inside : Expansion document (builder.opened name) steps nodes last)
    (consistent : builder.Consistent document) (unfinished : builder.finished.lookup name = none)
    (notOpen : name ∉ builder.expanding) (defined : document.predefined.get? name = some steps) :
    (last.closed name nodes).Consistent document := by
  obtain ⟨middle, settled⟩ := inside.consistent (consistent.opened unfinished)
  exact middle.closed notOpen inside.expanding_eq defined settled

/-- Only known sequences that the steps lead to are finished on the way. -/
theorem Expansion.newly_finished (expansion : Expansion document builder steps nodes last)
    {held : List Node} (found : last.finished.lookup name = some held) :
    builder.finished.lookup name = some held ∨
      document.Reaches steps name ∧ (document.predefined.get? name).isSome := by
  -- going back from the end: either a later step has finished the name, or an earlier one
  have behind {step : Step} {rest : List Step}
      (new : document.Reaches rest name ∧ (document.predefined.get? name).isSome) :
      document.Reaches (step :: rest) name ∧ (document.predefined.get? name).isSome :=
    new.imp_left fun leads => leads.of_references fun _ member => List.mem_append_right _ member
  induction expansion with
  | nil => exact .inl found
  | check _ _ later | refusedCheck _ _ later | operation _ later | malformed _ later
  | refusedFiles _ _ later | finished _ _ later | cyclic _ _ _ later | missing _ _ _ _ later =>
      exact (later found).imp_right behind
  | group _ _ inside later =>
      rcases later found with early | new
      · exact (inside early).imp_right fun new => new.imp_left fun leads =>
          leads.of_references fun _ member => List.mem_append_left _ member
      · exact .inr (behind new)
  | files read _ _ inside later =>
      rcases later found with early | new
      · refine (inside early).imp_right fun new => new.imp_left fun leads =>
          leads.of_references fun other member => List.mem_append_left _ ?_
        rwa [Step.references, read]
      · exact .inr (behind new)
  | @inline _ _ _ other _ _ _ _ _ _ defined _ _ inside later =>
      have refers {rest : List Step} :
          other ∈ Step.referencesOf (.action (.predefined other) :: rest) := List.mem_cons_self
      rcases later found with early | new
      · by_cases same : name = other
        · subst same
          exact .inr ⟨RuleDocument.reaches_of_reference refers, by rw [defined]; rfl⟩
        · rw [closed, OrderedMap.lookup_cons_of_ne same] at early
          exact (inside early).imp_right fun new =>
            new.imp_left fun leads => leads.of_defined defined refers
      · exact .inr (behind new)

def kept (document : RuleDocument) (steps : List Step) (name : String) : Option (List Node) :=
  (finalBuilder document steps).finished.lookup name

theorem final_consistent (document : RuleDocument) (steps : List Step) :
    (finalBuilder document steps).Consistent document :=
  ((build_expansion document steps).consistent (.start document)).1

theorem final_expanding (document : RuleDocument) (steps : List Step) :
    (finalBuilder document steps).expanding = [] :=
  (build_expansion document steps).expanding_eq

theorem kept_of_settled (settled : (finalBuilder document steps).Settled document name)
    (defined : (document.predefined.get? name).isSome) : (kept document steps name).isSome := by
  cases settled with
  | finished found => exact Option.isSome_of_mem found
  | isOpen member =>
      rw [final_expanding] at member
      cases member
  | unknown undefined =>
      rw [undefined] at defined
      cases defined

theorem kept_of_unknown (undefined : document.predefined.get? name = none) :
    kept document steps name = none := by
  cases held : kept document steps name with
  | none => rfl
  | some nodes =>
      obtain ⟨body, known⟩ := (final_consistent document steps).known held
      rw [undefined] at known
      cases known

/-- What is kept is kept with everything that it leads to. -/
theorem kept_of_includes {other : String} (held : (kept document steps name).isSome)
    (leads : document.Includes name other) (defined : (document.predefined.get? other).isSome) :
    (kept document steps other).isSome := by
  induction leads with
  | single refers =>
      obtain ⟨nodes, found⟩ := Option.isSome_iff_exists.1 held
      exact kept_of_settled ((final_consistent document steps).settled found refers) defined
  | tail _ refers induction =>
      obtain ⟨body, known, _⟩ := id refers
      obtain ⟨nodes, found⟩ := Option.isSome_iff_exists.1 (induction (by rw [known]; rfl))
      exact kept_of_settled ((final_consistent document steps).settled found refers) defined

theorem kept_is_some_iff :
    (kept document steps name).isSome ↔
      document.Reaches steps name ∧ (document.predefined.get? name).isSome := by
  constructor
  · intro held
    obtain ⟨nodes, found⟩ := Option.isSome_iff_exists.1 held
    exact ((build_expansion document steps).newly_finished found).resolve_left (by simp [start])
  · -- the first reference is settled at the end, and from there everything included is kept
    rintro ⟨⟨first, refers, path⟩, defined⟩
    have settled :=
      ((build_expansion document steps).consistent (.start document)).2 first refers
    rcases Relation.reflTransGen_iff_eq_or_transGen.1 path with same | leads
    · exact kept_of_settled (same ▸ settled) defined
    · obtain ⟨_, ⟨body, known, _⟩, _⟩ := Relation.TransGen.head'_iff.1 leads
      exact kept_of_includes (kept_of_settled settled (by rw [known]; rfl)) leads defined

end Consistency

def fresh (document : RuleDocument) (name : String) : List Node :=
  (ActionTree.build document (Step.referring name)).children

end RepoRules.Tree
