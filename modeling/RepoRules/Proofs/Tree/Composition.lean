import RepoRules.Proofs.Tree.Tangle

/-!
Trees of sequences that are put one behind the other. The tree of the whole has the children of both
parts one behind the other as long as the two parts keep the same nodes under the names they share.
-/

namespace RepoRules.Tree

open Builder

/-- A builder that has built a first sequence before, next to one that has not. -/
structure Shadow (document : RuleDocument) (first : List Step) (here there : Builder) : Prop where
  finished : ∀ name, here.finished.lookup name =
    (kept document first name).or (there.finished.lookup name)
  expanding : here.expanding = there.expanding
  apart : ∀ name ∈ there.expanding, kept document first name = none

def SameWhereShared (left right : String → Option (List Node)) : Prop :=
  ∀ name nodes others, left name = some nodes → right name = some others → nodes = others

namespace Shadow

variable {document : RuleDocument} {first : List Step} {here there last : Builder}

theorem start (document : RuleDocument) (first : List Step) :
    Shadow document first (finalBuilder document first) .start := by
  refine ⟨fun name => (Option.or_none).symm, final_expanding document first, ?_⟩
  intro name member
  cases member

theorem reported (shadow : Shadow document first here there) (step : String) (error : RuleError) :
    Shadow document first (here.reported step error) (there.reported step error) :=
  ⟨shadow.finished, shadow.expanding, shadow.apart⟩

theorem found (shadow : Shadow document first here there) {name : String} {nodes : List Node}
    (finished : there.finished.lookup name = some nodes)
    (same : ∀ held, kept document first name = some held → held = nodes) :
    here.finished.lookup name = some nodes := by
  rw [shadow.finished, finished]
  cases earlier : kept document first name with
  | none => rfl
  | some held => rw [same held earlier, Option.some_or]

theorem unfinished (shadow : Shadow document first here there) {name : String}
    (unfinished : there.finished.lookup name = none) (new : kept document first name = none) :
    here.finished.lookup name = none := by
  rw [shadow.finished, unfinished, new, Option.or_none]

theorem opened (shadow : Shadow document first here there) {name : String}
    (new : kept document first name = none) :
    Shadow document first (here.opened name) (there.opened name) := by
  refine ⟨shadow.finished, congrArg (name :: ·) shadow.expanding, ?_⟩
  intro other member
  rcases List.mem_cons.1 member with same | earlier
  · exact same ▸ new
  · exact shadow.apart other earlier

theorem closed (shadow : Shadow document first here there) {name : String} {nodes : List Node}
    (new : kept document first name = none) :
    Shadow document first (here.closed name nodes) (there.closed name nodes) := by
  refine ⟨fun other => ?_, congrArg (List.drop 1) shadow.expanding, ?_⟩
  · by_cases same : other = name
    · subst same
      rw [new, Option.none_or]
      simp only [Builder.closed, OrderedMap.lookup_cons_self]
    · simp only [Builder.closed, OrderedMap.lookup_cons_of_ne same]
      exact shadow.finished other
  · intro other member
    exact shadow.apart other (List.mem_of_mem_drop member)

/-- What the first sequence has kept is not expanded again, and nothing else is missed by that. -/
theorem skipped (shadow : Shadow document first here there) {name : String} {steps : List Step}
    {nodes held : List Node} (known : kept document first name = some held)
    (defined : document.predefined.get? name = some steps)
    (inside : Expansion document (there.opened name) steps nodes last) :
    Shadow document first here (last.closed name nodes) := by
  have balanced : (last.closed name nodes).expanding = there.expanding :=
    congrArg (List.drop 1) inside.expanding_eq
  refine ⟨fun other => ?_, shadow.expanding.trans balanced.symm, ?_⟩
  · rw [shadow.finished]
    cases earlier : kept document first other with
    | some _ => rfl
    | none =>
        have differs : other ≠ name := by
          rintro rfl
          rw [earlier] at known
          cases known
        rw [Option.none_or, Option.none_or, Builder.closed, OrderedMap.lookup_cons_of_ne differs]
        cases before : there.finished.lookup other with
        | some _ => exact (inside.lookup_of_finished before).symm
        | none =>
            cases after : last.finished.lookup other with
            | none => rfl
            | some _ =>
                obtain ⟨leads, isKnown⟩ :=
                  (inside.newly_finished after).resolve_left (by simp [Builder.opened, before])
                have more := kept_of_includes (by rw [known]; rfl)
                  (RuleDocument.includes_of_reaches defined leads) isKnown
                rw [earlier] at more
                cases more
  · rw [balanced]
    exact shadow.apart

/-- What a fresh builder expands steps to, the other builder expands them to as well. -/
theorem expansion {steps : List Step} {nodes : List Node}
    (fresh : Expansion document there steps nodes last)
    (shadow : Shadow document first here there)
    (same : SameWhereShared (kept document first) fun name => last.finished.lookup name) :
    ∃ final, Expansion document here steps nodes final ∧ Shadow document first final last := by
  -- the fresh expansion is followed step by step; where the first sequence has kept a name already,
  -- its expansion in place is answered from memory
  induction fresh generalizing here with
  | nil => exact ⟨here, .nil here, shadow⟩
  | check read _ behind =>
      obtain ⟨final, others, shadow⟩ := behind shadow same
      exact ⟨final, .check read others, shadow⟩
  | refusedCheck refused _ behind =>
      obtain ⟨final, others, shadow⟩ := behind (shadow.reported _ _) same
      exact ⟨final, .refusedCheck refused others, shadow⟩
  | operation _ behind =>
      obtain ⟨final, others, shadow⟩ := behind shadow same
      exact ⟨final, .operation others, shadow⟩
  | malformed _ behind =>
      obtain ⟨final, others, shadow⟩ := behind (shadow.reported _ _) same
      exact ⟨final, .malformed others, shadow⟩
  | group _ after inside behind =>
      obtain ⟨middle, children, shadow⟩ := inside shadow fun name nodes others held found =>
        same name nodes others held (after.lookup_of_finished found)
      obtain ⟨final, others, shadow⟩ := behind shadow same
      exact ⟨final, .group children others, shadow⟩
  | files read _ after inside behind =>
      obtain ⟨middle, children, shadow⟩ := inside shadow fun name nodes others held found =>
        same name nodes others held (after.lookup_of_finished found)
      obtain ⟨final, others, shadow⟩ := behind shadow same
      exact ⟨final, .files read children others, shadow⟩
  | refusedFiles refused _ behind =>
      obtain ⟨final, others, shadow⟩ := behind (shadow.reported _ _) same
      exact ⟨final, .refusedFiles refused others, shadow⟩
  | finished found after behind =>
      obtain ⟨final, others, later⟩ := behind shadow same
      refine ⟨final, .finished (shadow.found found ?_) others, later⟩
      exact fun held earlier => same _ _ _ earlier (after.lookup_of_finished found)
  | cyclic unfinished isOpen _ behind =>
      obtain ⟨final, others, later⟩ := behind (shadow.reported _ _) same
      have new := shadow.apart _ isOpen
      exact ⟨final, .cyclic (shadow.unfinished unfinished new) (shadow.expanding ▸ isOpen) others,
        later⟩
  | missing unfinished notOpen undefined _ behind =>
      obtain ⟨final, others, later⟩ := behind (shadow.reported _ _) same
      have new : kept document first _ = none := kept_of_unknown undefined
      exact ⟨final, .missing (shadow.unfinished unfinished new) (shadow.expanding ▸ notOpen)
        undefined others, later⟩
  | @inline _ middle _ name _ _ nodes _ unfinished notOpen defined expanded after inside behind =>
      cases earlier : kept document first name with
      | some held =>
          have finished := after.lookup_of_finished (OrderedMap.lookup_cons_self name nodes _)
          obtain rfl := same name held nodes earlier finished
          obtain ⟨final, others, later⟩ := behind (shadow.skipped earlier defined expanded) same
          refine ⟨final, .finished ?_ others, later⟩
          rw [shadow.finished, earlier, Option.some_or]
      | none =>
          have inner : SameWhereShared (kept document first) fun other =>
              middle.finished.lookup other := by
            intro other nodes others held found
            have differs : other ≠ name := by
              rintro rfl
              rw [earlier] at held
              cases held
            exact same other nodes others held
              (after.lookup_of_finished ((OrderedMap.lookup_cons_of_ne differs _ _).trans found))
          obtain ⟨_, spliced, opened⟩ := inside (shadow.opened earlier) inner
          obtain ⟨final, others, later⟩ := behind (opened.closed earlier) same
          exact ⟨final, .inline (shadow.unfinished unfinished earlier)
            (shadow.expanding ▸ notOpen) defined spliced others, later⟩

end Shadow

section Builds

variable {document : RuleDocument} {first second : List Step}

def Composes (document : RuleDocument) (first second : List Step) : Prop :=
  (ActionTree.build document (first ++ second)).children =
    (ActionTree.build document first).children ++ (ActionTree.build document second).children

/-- Nothing that both sequences lead to is in a tangle with another predefined sequence. -/
def Apart (document : RuleDocument) (first second : List Step) : Prop :=
  ∀ name, document.Reaches first name → document.Reaches second name →
    ∀ partner, document.Includes name partner → document.Includes partner name → partner = name

/-- Sequences that keep the same nodes under the names they share may be built one by one. -/
theorem composes_of_same (same : SameWhereShared (kept document first) (kept document second)) :
    Composes document first second := by
  obtain ⟨final, behind, _⟩ := (Shadow.start document first).expansion
    (build_expansion document second) same
  have joined := (build_expansion document first).append behind
  exact (joined.unique (build_expansion document (first ++ second))).1

/-- Behind a sequence that has kept something under a name, a reference stands for that. -/
theorem children_append_reference {name : String} {nodes : List Node}
    (held : kept document first name = some nodes) :
    (ActionTree.build document (first ++ Step.referring name)).children =
      (ActionTree.build document first).children ++ nodes := by
  have behind : Expansion document (finalBuilder document first) (Step.referring name) (nodes ++ [])
      (finalBuilder document first) := .finished held (.nil _)
  have joined := (build_expansion document first).append behind
  rw [List.append_nil] at joined
  exact (joined.unique (build_expansion document (first ++ Step.referring name))).1

theorem kept_fresh_of_composes (composes : ∀ first second, Composes document first second)
    {steps : List Step} {name : String} {nodes : List Node}
    (held : kept document steps name = some nodes) : nodes = fresh document name := by
  have spliced := (children_append_reference held).symm.trans (composes steps (Step.referring name))
  exact List.append_cancel_left spliced

theorem composes_of_kept_fresh
    (whole : ∀ steps name nodes, kept document steps name = some nodes →
      nodes = fresh document name) : Composes document first second := by
  refine composes_of_same fun name nodes others held also => ?_
  rw [whole first name nodes held, whole second name others also]

theorem composes_of_apart (apart : Apart document first second) :
    Composes document first second := by
  refine composes_of_same fun name nodes others held also => ?_
  have early := (kept_is_some_iff.1 (Option.isSome_of_mem held)).1
  have late := (kept_is_some_iff.1 (Option.isSome_of_mem also)).1
  have untangled : document.Untangled name :=
    fun other path => apart other (early.trans path) (late.trans path)
  rw [kept_eq_fresh untangled held, kept_eq_fresh untangled also]

theorem apart_of_acyclic (acyclic : document.Acyclic) : Apart document first second :=
  fun name _ _ _ leads back => absurd (leads.trans back) (acyclic name)

end Builds

/-- Building goes part by part exactly when no builder keeps an expansion that was cut short: what
it keeps under a name is always what a reference to that name alone stands for. Sequences that share
no tangle are built part by part in any case. -/
theorem composes_iff_kept_fresh_and_if_apart (document : RuleDocument) :
    ((∀ first second, Composes document first second) ↔
      ∀ steps name nodes, kept document steps name = some nodes →
        nodes = fresh document name) ∧
    ∀ first second, Apart document first second → Composes document first second := by
  refine ⟨⟨?_, ?_⟩, ?_⟩
  · exact fun composes steps name nodes held => kept_fresh_of_composes composes held
  · exact fun whole first second => composes_of_kept_fresh whole
  · exact fun first second apart => composes_of_apart apart

theorem welcome_composes_with_greeting :
    Apart .welcoming (Step.referring "welcome") (Step.referring "greeting") ∧
      Composes .welcoming (Step.referring "welcome") (Step.referring "greeting") := by
  have apart : Apart .welcoming (Step.referring "welcome") (Step.referring "greeting") :=
    apart_of_acyclic RuleDocument.welcoming_acyclic
  exact ⟨apart, (composes_iff_kept_fresh_and_if_apart .welcoming).2 _ _ apart⟩

def tangled : RuleDocument :=
  .ofPredefined
    [("guarded", .action (.check (.bool false)) :: Step.referring "notify"),
      ("notify", Step.referring "guarded" ++ [.action (.operation (.comment "hi"))])]

/-- A list with the guarded sequence leaves the other one without its check. -/
theorem tangled_does_not_compose :
    ¬ Composes tangled [.group (Step.referring "guarded")] (Step.referring "notify") := by
  intro composes
  have count := congrArg List.length composes
  rw [List.length_append] at count
  have joined : (ActionTree.build tangled
    ([.group (Step.referring "guarded")] ++ Step.referring "notify")).children.length = 2 := by
    decide +kernel
  have first :
      (ActionTree.build tangled [.group (Step.referring "guarded")]).children.length = 1 := by
    decide +kernel
  have second : (ActionTree.build tangled (Step.referring "notify")).children.length = 2 := by
    decide +kernel
  omega

end RepoRules.Tree
