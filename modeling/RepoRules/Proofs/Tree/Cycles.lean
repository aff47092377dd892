import RepoRules.Proofs.Rules.Reading
import RepoRules.Proofs.Tree.Visits

/-!
References that lead back or nowhere. Building a tree comes to an end whatever the predefined
sequences refer to. It reports that a sequence includes itself exactly when the steps lead to one
that does, and that a sequence is missing exactly when they lead to its name.
-/

namespace RepoRules

namespace Condition

theorem reads_text (key : String) (value : Json) : ReadsAny (text key value) := by
  unfold text
  split
  · exact .ok trivial
  · exact .error id

theorem reads_texts (key : String) (value : Json) : ReadsAny (texts key value) := by
  unfold texts
  split
  · exact .ok trivial
  · exact Reads.mapM (reads_text key) _
  · exact .error id

theorem reads_pattern (key : String) (value : Json) : ReadsAny (pattern key value) := by
  refine (reads_text key value).bind fun source _ => ?_
  cases Pattern.parseIgnoringCase source with
  | ok _ => exact .ok trivial
  | error _ => exact .error id

theorem reads_variable (key : String) (value : Json) : ReadsAny (variableOf key value) := by
  unfold variableOf
  split
  · split
    · exact .ok trivial
    · exact .error id
  · exact .error id

theorem reads_expression (source : String) : ReadsAny (expressionOf source) := by
  unfold expressionOf
  split
  · exact .ok trivial
  · exact .error id

theorem reads_fact (key : String) (value : Json) : ReadsAny (factOf key value) := by
  unfold factOf
  split
  case h_1 | h_2 | h_6 => exact (reads_texts key value).map fun _ _ => trivial
  case h_3 | h_4 | h_5 => exact (reads_pattern key value).map fun _ _ => trivial
  case h_7 =>
    split
    · exact .ok trivial
    · exact .error id
  case h_8 => exact reads_variable key value
  case h_9 => exact .error id

theorem reads_named (key : String) (value : Json) {group : Unit → Except RuleError Condition}
    {list : Unit → Option (Except RuleError (List Condition))} (reads : ReadsAny (group ()))
    (readsList : ∀ parts, list () = some parts → ReadsAny parts) :
    ReadsAny (named key value group list) := by
  unfold named
  split
  · split
    · exact (readsList _ (by assumption)).map fun _ _ => trivial
    · exact .error id
  · exact reads.map fun _ _ => trivial
  · exact (reads_text key value).bind fun source _ => reads_expression source
  · exact (reads_fact key value).map fun _ _ => trivial

mutual

/-- Whatever a check holds, it is not refused as references are. -/
theorem reads_group : (group : Json) → ReadsAny (ofGroup group)
  | .array [] | .object [] => by
      rw [ofGroup]
      exact .error id
  | .array (item :: rest) => by
      rw [ofGroup]
      exact (reads_groups (item :: rest)).map fun _ _ => trivial
  | .object (field :: rest) => by
      rw [ofGroup]
      exact (reads_fields (field :: rest)).map fun _ _ => trivial
  | .string source => by
      rw [ofGroup]
      exact reads_expression source
  | .bool _ => by
      rw [ofGroup]
      exact .ok trivial
  | .null | .int _ | .float _ => by
      rw [ofGroup]
      · exact .error id
      all_goals simp

theorem reads_groups : (items : List Json) → ReadsAny (ofGroups items)
  | [] => by
      rw [ofGroups]
      exact .ok trivial
  | item :: rest => by
      rw [ofGroups]
      exact (reads_group item).bind fun _ _ => (reads_groups rest).bind fun _ _ => .ok trivial

theorem reads_list : (value : Json) → ∀ parts, ofList value = some parts → ReadsAny parts
  | .array items, _, listed => by
      rw [ofList] at listed
      cases listed
      exact reads_groups items
  | .null, _, listed | .bool _, _, listed | .int _, _, listed | .float _, _, listed
  | .string _, _, listed | .object _, _, listed => by
      rw [ofList] at listed
      · cases listed
      · simp

theorem reads_fields : (fields : List (String × Json)) → ReadsAny (ofFields fields)
  | [] => by
      rw [ofFields]
      exact .ok trivial
  | (key, value) :: rest => by
      rw [ofFields]
      exact (reads_named key value (reads_group value) (reads_list value)).bind fun _ _ =>
        (reads_fields rest).bind fun _ _ => .ok trivial

end

theorem genuine_of_refused {group : Json} {error : RuleError}
    (refused : ofGroup group = .error error) : ¬ error.OfReference := by
  have reads := reads_group group
  rw [refused] at reads
  cases reads with
  | error genuine => exact genuine

end Condition

namespace RuleDocument

variable {document : RuleDocument} {name other : String} {steps : List Step}

/-- A name from which every way over references comes to an end. -/
def Grounded (document : RuleDocument) : String → Prop :=
  Acc (Function.swap document.RefersTo)

theorem Grounded.of_unknown (undefined : document.predefined.get? name = none) :
    document.Grounded name := by
  refine Acc.intro name fun other refers => ?_
  obtain ⟨steps, defined, _⟩ := refers
  rw [undefined] at defined
  cases defined

theorem Grounded.of_defined (defined : document.predefined.get? name = some steps)
    (inside : ∀ other ∈ Step.referencesOf steps, document.Grounded other) :
    document.Grounded name := by
  refine Acc.intro name fun other refers => ?_
  obtain ⟨body, known, member⟩ := refers
  rw [defined] at known
  cases known
  exact inside other member

theorem Grounded.of_path (grounded : document.Grounded name)
    (path : Relation.ReflTransGen document.RefersTo name other) : document.Grounded other := by
  induction path with
  | refl => exact grounded
  | tail _ refers induction => exact induction.inv refers

/-- From a sequence that includes itself a way goes on forever. -/
theorem Grounded.not_includes (grounded : document.Grounded name) :
    ¬ document.Includes name name := by
  induction grounded with
  | intro name _ lower =>
      intro leads
      obtain ⟨next, refers, back⟩ := Relation.TransGen.head'_iff.1 leads
      exact lower next refers (.tail' back refers)

theorem defined_of_includes (leads : document.Includes name other) :
    (document.predefined.get? name).isSome := by
  obtain ⟨_, ⟨steps, defined, _⟩, _⟩ := Relation.TransGen.head'_iff.1 leads
  rw [defined]
  rfl

end RuleDocument

def ActionTree.Reports (tree : ActionTree) (error : RuleError) : Prop :=
  ∃ diagnostic ∈ tree.diagnostics, diagnostic.error = error

namespace Tree

section Faults

variable {document : RuleDocument} {around : List String} {steps : List Step} {name : String}

mutual

theorem mem_step_stops_iff {reference : String → List Diagnostic} {diagnostic : Diagnostic}
    (ofReference : diagnostic.error.OfReference) : (step : Step) → step.Genuine →
      (diagnostic ∈ stepStops id reference step ↔
        ∃ name ∈ step.references, diagnostic ∈ reference name)
  | .action (.check group), _ => by
      simp only [stepStops, Step.references]
      cases read : Condition.ofGroup group with
      | ok _ => simp
      | error error =>
          have genuine := Condition.genuine_of_refused read
          simp only [List.mem_singleton, List.not_mem_nil, false_and, exists_false, iff_false]
          rintro rfl
          exact genuine ofReference
  | .action (.operation _), _ => by simp [stepStops, Step.references]
  | .action (.predefined name), _ => by simp [stepStops, Step.references]
  | .malformed key error, genuine => by
      simp only [Step.Genuine] at genuine
      simp only [stepStops, Step.references, List.mem_singleton, List.not_mem_nil, false_and,
        exists_false, iff_false]
      rintro rfl
      exact genuine ofReference
  | .group steps, genuine => by
      simp only [Step.Genuine] at genuine
      exact mem_stops_iff ofReference steps genuine
  | .files mode source body, genuine => by
      simp only [Step.Genuine] at genuine
      simp only [stepStops, Step.references]
      cases Pattern.parse source with
      | ok _ => exact mem_stops_iff ofReference body genuine
      | error fault =>
          simp only [List.mem_singleton, List.not_mem_nil, false_and, exists_false, iff_false]
          rintro rfl
          exact ofReference

/-- Only at references something is reported as it is for references. -/
theorem mem_stops_iff {reference : String → List Diagnostic} {diagnostic : Diagnostic}
    (ofReference : diagnostic.error.OfReference) : (steps : List Step) → Step.AllGenuine steps →
      (diagnostic ∈ stops id reference steps ↔
        ∃ name ∈ Step.referencesOf steps, diagnostic ∈ reference name)
  | [], _ => by simp [stops, Step.referencesOf]
  | step :: rest, genuine => by
      simp only [stops, Step.referencesOf, List.mem_append, or_and_right, exists_or,
        mem_step_stops_iff ofReference step genuine.1, mem_stops_iff ofReference rest genuine.2]

end

/-- How a reference is refused when the sequences around it are open. -/
inductive Refused (document : RuleDocument) (around : List String) : String → RuleError → Prop
  | cyclic {name : String} (isOpen : name ∈ around) :
      Refused document around name (.predefinedCycle name)
  | missing {name : String} (notOpen : name ∉ around)
      (undefined : document.predefined.get? name = none) :
      Refused document around name (.missingPredefined name)

theorem refused_iff {error : RuleError} :
    Refused document around name error ↔
      ∃ diagnostic ∈ referenceFaults document around name, diagnostic.error = error := by
  unfold referenceFaults
  constructor
  · intro refused
    cases refused with
    | cyclic isOpen => simp [isOpen, refusedReference]
    | missing notOpen undefined => simp [notOpen, undefined, refusedReference]
  · rintro ⟨diagnostic, member, rfl⟩
    split at member
    · rw [List.mem_singleton.1 member]
      exact .cyclic (by assumption)
    · split at member
      · rename_i undefined
        rw [List.mem_singleton.1 member]
        exact .missing (by assumption) (Option.isNone_iff_eq_none.1 undefined)
      · cases member

theorem own_fault_iff {error : RuleError} (ofReference : error.OfReference)
    (genuine : Step.AllGenuine steps) :
    (∃ diagnostic ∈ ownFaults document around steps, diagnostic.error = error) ↔
      ∃ name ∈ Step.referencesOf steps, Refused document around name error := by
  constructor
  · rintro ⟨diagnostic, member, rfl⟩
    obtain ⟨name, refers, fault⟩ := (mem_stops_iff ofReference steps genuine).1 member
    exact ⟨name, refers, refused_iff.2 ⟨diagnostic, fault, rfl⟩⟩
  · rintro ⟨name, refers, refused⟩
    obtain ⟨diagnostic, fault, rfl⟩ := refused_iff.1 refused
    exact ⟨diagnostic, (mem_stops_iff ofReference steps genuine).2 ⟨name, refers, fault⟩, rfl⟩

end Faults

section Expansions

variable {document : RuleDocument} {builder last : Builder} {steps : List Step} {nodes : List Node}

theorem Expansion.diagnostics_subset (expansion : Expansion document builder steps nodes last) :
    builder.diagnostics ⊆ last.diagnostics := by
  induction expansion with
  | nil => exact List.Subset.refl _
  | check _ _ behind | operation _ behind | finished _ _ behind => exact behind
  | refusedCheck _ _ behind | malformed _ behind | refusedFiles _ _ behind
  | cyclic _ _ _ behind | missing _ _ _ _ behind =>
      exact List.Subset.trans (List.subset_append_left _ _) behind
  | group _ _ inside behind | files _ _ _ inside behind | inline _ _ _ _ _ inside behind =>
      exact List.Subset.trans inside behind

def Builder.NoCycle (builder : Builder) : Prop :=
  ∀ diagnostic ∈ builder.diagnostics, ∀ name, diagnostic.error ≠ .predefinedCycle name

theorem Expansion.noCycle (expansion : Expansion document builder steps nodes last)
    (silent : last.NoCycle) : builder.NoCycle :=
  fun diagnostic member => silent diagnostic (expansion.diagnostics_subset member)

def Builder.AllGrounded (document : RuleDocument) (builder : Builder) : Prop :=
  ∀ {name nodes}, builder.finished.lookup name = some nodes → document.Grounded name

theorem Builder.AllGrounded.closed {name : String} {expanded : List Node}
    (before : builder.AllGrounded document) (grounded : document.Grounded name) :
    (builder.closed name expanded).AllGrounded document := by
  intro other held found
  rcases Builder.lookup_closed_cases found with ⟨rfl, _⟩ | earlier
  · exact grounded
  · exact before earlier

/-- Unless a cycle is reported, every way from the steps comes to an end. -/
theorem Expansion.grounded (expansion : Expansion document builder steps nodes last)
    (silent : last.NoCycle) (before : builder.AllGrounded document) :
    last.AllGrounded document ∧ ∀ name ∈ Step.referencesOf steps, document.Grounded name := by
  induction expansion with
  | nil => exact ⟨before, by simp [Step.referencesOf]⟩
  | check _ _ behind | refusedCheck _ _ behind | operation _ behind | malformed _ behind =>
      exact behind silent before
  | refusedFiles refused _ behind =>
      obtain ⟨final, others⟩ := behind silent before
      refine ⟨final, List.forall_mem_append.2 ⟨?_, others⟩⟩
      simp [Step.references, refused]
  | group _ after inside behind =>
      obtain ⟨middle, first⟩ := inside (after.noCycle silent) before
      obtain ⟨final, others⟩ := behind silent middle
      exact ⟨final, List.forall_mem_append.2 ⟨first, others⟩⟩
  | files read _ after inside behind =>
      obtain ⟨middle, first⟩ := inside (after.noCycle silent) before
      obtain ⟨final, others⟩ := behind silent middle
      refine ⟨final, List.forall_mem_append.2 ⟨?_, others⟩⟩
      rwa [Step.references, read]
  | finished found _ behind =>
      obtain ⟨final, others⟩ := behind silent before
      exact ⟨final, List.forall_mem_append.2 ⟨List.forall_mem_singleton.2 (before found), others⟩⟩
  | @cyclic builder _ name _ _ _ _ after _ =>
      -- what is reported here would be reported in the end
      have reported : refusedReference name (.predefinedCycle name) ∈ builder.diagnostics ++ [_] :=
        List.mem_append_right _ List.mem_cons_self
      exact absurd rfl (after.noCycle silent _ reported name)
  | missing _ _ undefined _ behind =>
      obtain ⟨final, others⟩ := behind silent before
      have grounded := RuleDocument.Grounded.of_unknown undefined
      exact ⟨final, List.forall_mem_append.2 ⟨List.forall_mem_singleton.2 grounded, others⟩⟩
  | inline _ _ defined _ after inside behind =>
      obtain ⟨within, first⟩ := inside (after.noCycle silent) before
      have grounded := RuleDocument.Grounded.of_defined defined first
      obtain ⟨final, others⟩ := behind silent (within.closed grounded)
      exact ⟨final, List.forall_mem_append.2 ⟨List.forall_mem_singleton.2 grounded, others⟩⟩

/-- The bound on the sequences open at once is never met, so a greater one changes nothing. -/
theorem run_of_levels {levels : Nat} (enough : document.predefined.size ≤ levels) :
    (nodesOf (expand document.predefined levels) steps).run .start =
      ((ActionTree.build document steps).children, finalBuilder document steps) := by
  have fits : Builder.start.Fits document levels :=
    ⟨List.nodup_nil, by simp [Builder.start], by simpa [Builder.start] using enough⟩
  have expansion := nodes_of_expansion (references_expand document levels) steps .start fits
  obtain ⟨sameNodes, sameBuilder⟩ := (build_expansion document steps).unique expansion
  exact Prod.ext sameNodes sameBuilder

/-- Following references without any bound comes to an end, and in one way only. -/
theorem exists_unique_expansion (document : RuleDocument) (steps : List Step) :
    ∃! result : List Node × Builder, Expansion document .start steps result.1 result.2 := by
  have expansion := build_expansion document steps
  refine ⟨(_, _), expansion, fun other second => ?_⟩
  obtain ⟨sameNodes, sameBuilder⟩ := expansion.unique second
  exact Prod.ext sameNodes sameBuilder

end Expansions

section Builds

variable {document : RuleDocument} {steps : List Step} {name : String}

structure Genuine (document : RuleDocument) (steps : List Step) : Prop where
  steps : Step.AllGenuine steps
  sequences : ∀ entry ∈ document.predefined.entries, Step.AllGenuine entry.2

theorem defined_of_visit {visit : Visit} (member : visit ∈ visitsOf (trail document steps)) :
    document.Reaches steps visit.name ∧
      ∃ body, document.predefined.get? visit.name = some body := by
  obtain ⟨leads, defined⟩ := mem_visited_iff.1 (List.mem_map_of_mem member)
  exact ⟨leads, Option.isSome_iff_exists.1 defined⟩

theorem leads_of_visit {visit : Visit} (member : visit ∈ visitsOf (trail document steps))
    {outer : String} (isAround : outer ∈ visit.around) : document.Includes outer visit.name := by
  obtain ⟨met, follows⟩ := build_follows document steps
  exact follows.nested visit member outer isAround

/-- Errors of references are reported where something is referred to that is refused with them: in
the steps, or in a sequence that is visited. -/
theorem reports_iff (genuine : Genuine document steps) {error : RuleError}
    (ofReference : error.OfReference) :
    (ActionTree.build document steps).Reports error ↔
      (∃ name ∈ Step.referencesOf steps, Refused document [] name error) ∨
        ∃ visit ∈ visitsOf (trail document steps), ∃ name, document.RefersTo visit.name name ∧
          Refused document (visit.name :: visit.around) name error := by
  have inside {visit : Visit} (visited : visit ∈ visitsOf (trail document steps)) :
      (∃ diagnostic ∈ visit.faults document, diagnostic.error = error) ↔
        ∃ name, document.RefersTo visit.name name ∧
          Refused document (visit.name :: visit.around) name error := by
    obtain ⟨_, body, defined⟩ := defined_of_visit visited
    have right := genuine.sequences _ (document.predefined.mem_entries_of_get? defined)
    rw [Visit.faults, defined, Option.getD_some, own_fault_iff ofReference right]
    simp only [RuleDocument.RefersTo, defined, Option.some.injEq, exists_eq_left']
  rw [← own_fault_iff ofReference genuine.steps]
  constructor
  · rintro ⟨diagnostic, member, same⟩
    rcases mem_diagnostics_iff.1 member with own | ⟨visit, visited, fault⟩
    · exact .inl ⟨diagnostic, own, same⟩
    · exact .inr ⟨visit, visited, (inside visited).1 ⟨diagnostic, fault, same⟩⟩
  · rintro (⟨diagnostic, own, same⟩ | ⟨visit, visited, refused⟩)
    · exact ⟨diagnostic, mem_diagnostics_iff.2 (.inl own), same⟩
    · obtain ⟨diagnostic, fault, same⟩ := (inside visited).2 refused
      exact ⟨diagnostic, mem_diagnostics_iff.2 (.inr ⟨visit, visited, fault⟩), same⟩

theorem includes_of_reported (genuine : Genuine document steps)
    (reported : (ActionTree.build document steps).Reports (.predefinedCycle name)) :
    document.Reaches steps name ∧ document.Includes name name := by
  have ofReference : (RuleError.predefinedCycle name).OfReference := trivial
  rcases (reports_iff genuine ofReference).1 reported with
    ⟨_, _, refused⟩ | ⟨visit, visited, _, refers, refused⟩
  · cases refused with
    | cyclic isOpen => cases isOpen
  · cases refused with
    | cyclic isOpen =>
        refine ⟨(defined_of_visit visited).1.trans (.single refers), ?_⟩
        rcases List.mem_cons.1 isOpen with here | isAround
        · exact .single (here ▸ refers)
        · exact (leads_of_visit visited isAround).tail refers

/-- If the steps lead to a sequence that includes itself, a cycle is reported. -/
theorem exists_reported_of_includes (leads : document.Reaches steps name)
    (back : document.Includes name name) :
    ∃ other, (ActionTree.build document steps).Reports (.predefinedCycle other) := by
  by_contra unreported
  have silent : (finalBuilder document steps).NoCycle := by
    intro diagnostic member other same
    exact unreported ⟨other, diagnostic, member, same⟩
  have start : Builder.start.AllGrounded document := by
    intro other nodes found
    cases found
  obtain ⟨first, member, path⟩ := leads
  have grounded := ((build_expansion document steps).grounded silent start).2 first member
  exact (grounded.of_path path).not_includes back

theorem reports_missing_iff (genuine : Genuine document steps) :
    (ActionTree.build document steps).Reports (.missingPredefined name) ↔
      document.predefined.get? name = none ∧ document.Reaches steps name := by
  have ofReference : (RuleError.missingPredefined name).OfReference := trivial
  rw [reports_iff genuine ofReference]
  constructor
  · rintro (⟨_, refers, refused⟩ | ⟨visit, visited, _, refers, refused⟩)
    · cases refused with
      | missing _ undefined => exact ⟨undefined, RuleDocument.reaches_of_reference refers⟩
    · cases refused with
      | missing _ undefined =>
          exact ⟨undefined, (defined_of_visit visited).1.trans (.single refers)⟩
  · rintro ⟨undefined, first, member, path⟩
    rcases Relation.ReflTransGen.cases_tail path with same | ⟨outer, before, refers⟩
    · subst same
      exact .inl ⟨name, member, .missing List.not_mem_nil undefined⟩
    · -- the last reference on the way stands in a sequence that is visited
      have known := RuleDocument.defined_of_includes (.single refers)
      have isVisited : outer ∈ visited document steps :=
        mem_visited_iff.2 ⟨⟨first, member, before⟩, known⟩
      obtain ⟨visit, visited, rfl⟩ := List.mem_map.1 isVisited
      refine .inr ⟨visit, visited, name, refers, .missing ?_ undefined⟩
      -- what is open is known
      intro isOpen
      have defined : (document.predefined.get? name).isSome := by
        rcases List.mem_cons.1 isOpen with here | isAround
        · exact here ▸ known
        · exact RuleDocument.defined_of_includes (leads_of_visit visited isAround)
      rw [undefined] at defined
      cases defined

end Builds

/-- Whatever the predefined sequences of a document refer to, building a tree ends: there is one way
to expand the steps with no bound on the depth, and it needs no more levels than there are
sequences. A cycle is reported exactly when the steps lead to a sequence that includes itself, and
every name that is reported so is the name of such a sequence. A missing sequence is reported
exactly when the steps lead to its name. -/
theorem build_ends_and_finds_cycles {text : String} {document : RuleDocument}
    (parsed : RuleDocument.parse text = .ok document) (items : List Json) :
    let steps := Step.parseItems items
    let tree := ActionTree.build document steps
    (∃! result : List Node × Builder, Expansion document .start steps result.1 result.2) ∧
      (∀ levels, document.predefined.size ≤ levels →
        (nodesOf (expand document.predefined levels) steps).run .start =
          (tree.children, finalBuilder document steps)) ∧
      ((∃ name, tree.Reports (.predefinedCycle name)) ↔
        ∃ name, document.Reaches steps name ∧ document.Includes name name) ∧
      (∀ name, tree.Reports (.predefinedCycle name) →
        document.Reaches steps name ∧ document.Includes name name) ∧
      ∀ name, tree.Reports (.missingPredefined name) ↔
        document.predefined.get? name = none ∧ document.Reaches steps name := by
  intro steps tree
  have genuine : Genuine document steps :=
    ⟨Step.genuine_parse_items items, (RuleDocument.well_read_of_parse parsed).genuine⟩
  refine ⟨exists_unique_expansion document steps, fun _ => run_of_levels, ⟨?_, ?_⟩,
    fun _ => includes_of_reported genuine, fun _ => reports_missing_iff genuine⟩
  · rintro ⟨name, reported⟩
    exact ⟨name, includes_of_reported genuine reported⟩
  · rintro ⟨name, leads, back⟩
    exact exists_reported_of_includes leads back

def tennisText : String :=
  "revision: 1\nschema-version: 5\nowner-ms-alias: docsbot\nconfig: \x7b\x7d\npredefined:\n" ++
    "  ping:\n    - [predefined: pong]\n  pong:\n    - predefined: umpire\n" ++
    "    - files-any: \x7bpattern: docs, steps: [predefined: ping]\x7d\n"

theorem tennis_cycle_is_found :
    ∃ document, RuleDocument.parse tennisText = .ok document ∧
      let tree := ActionTree.build document
        (Step.parseItems [.object [("predefined", .string "ping")]])
      (∃ name, tree.Reports (.predefinedCycle name)) ∧
        tree.Reports (.missingPredefined "umpire") := by
  have read : ((RuleDocument.parse tennisText).toOption.map fun document =>
      ((document.predefined.get? "ping").map Step.referencesOf,
        (document.predefined.get? "pong").map Step.referencesOf,
        (document.predefined.get? "umpire").isSome)) =
      some (some ["pong"], some ["umpire", "ping"], false) := by
    decide +kernel
  have first : Step.referencesOf (Step.parseItems [.object [("predefined", .string "ping")]]) =
      ["ping"] := by
    decide +kernel
  cases parsed : RuleDocument.parse tennisText with
  | error error =>
      rw [parsed] at read
      cases read
  | ok document =>
      rw [parsed] at read
      simp only [Except.toOption, Option.map_some, Option.some.injEq, Prod.mk.injEq,
        Option.map_eq_some_iff] at read
      obtain ⟨⟨ping, pingDefined, pingRefers⟩, ⟨pong, pongDefined, pongRefers⟩, unknown⟩ := read
      have there : document.RefersTo "ping" "pong" := ⟨ping, pingDefined, by simp [pingRefers]⟩
      have back : document.RefersTo "pong" "ping" := ⟨pong, pongDefined, by simp [pongRefers]⟩
      have away : document.RefersTo "pong" "umpire" := ⟨pong, pongDefined, by simp [pongRefers]⟩
      obtain ⟨_, _, cycles, _, missing⟩ := build_ends_and_finds_cycles parsed
        [.object [("predefined", .string "ping")]]
      have member : "ping" ∈ Step.referencesOf
          (Step.parseItems [.object [("predefined", .string "ping")]]) := by
        simp [first]
      have undefined : document.predefined.get? "umpire" = none := by
        simpa using unknown
      refine ⟨document, rfl, cycles.2 ⟨"ping", ?_, ?_⟩, (missing "umpire").2 ⟨undefined, ?_⟩⟩
      · exact RuleDocument.reaches_of_reference member
      · exact .tail (.single there) back
      · exact ⟨"ping", member, .tail (.single there) away⟩

end Tree

end RepoRules
