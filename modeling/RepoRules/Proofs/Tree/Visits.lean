import RepoRules.Proofs.Tree.Memo

/-!
What is met on the way through a sequence. The full way follows every reference to a sequence that
is not open, and remembers nothing. Of this way, building a tree takes the first visit to each
predefined sequence and leaves out the later ones; the faults that are met then are the ones that
are reported.
-/

namespace RepoRules

def RuleDocument.unopened (document : RuleDocument) (around : List String) : List String :=
  document.predefined.keys.filter fun name => !around.contains name

theorem RuleDocument.unopened_length_lt {document : RuleDocument} {around : List String}
    {name : String} {steps : List Step} (defined : document.predefined.get? name = some steps)
    (notOpen : name ∉ around) :
    (document.unopened (name :: around)).length < (document.unopened around).length := by
  have smaller : document.unopened (name :: around) =
      (document.unopened around).filter fun other => other != name := by
    simp only [unopened, List.filter_filter]
    refine List.filter_congr fun other _ => ?_
    simp only [List.contains_cons, Bool.not_or, bne]
  have present : name ∈ document.unopened around := by
    simp [unopened, notOpen, document.predefined.mem_keys_of_get? defined]
  rw [smaller, List.length_filter_lt_length_iff_exists]
  exact ⟨name, present, by simp⟩

namespace Tree

/-- What is met on the way through steps: something to report, or a predefined sequence, with the
names of those around it, the innermost first, and with what is met inside. -/
inductive Stop where
  | fault (diagnostic : Diagnostic)
  | sequence (name : String) (around : List String) (inside : List Stop)

def refusedReference (name : String) (error : RuleError) : Diagnostic :=
  ⟨(Action.predefined name).describe, error⟩

section Stops

variable {α : Type}

mutual

def stepStops (fault : Diagnostic → α) (reference : String → List α) : Step → List α
  | .action (.check group) =>
      match Condition.ofGroup group with
      | .ok _ => []
      | .error error => [fault ⟨"check", error⟩]
  | .action (.operation _) => []
  | .action (.predefined name) => reference name
  | .malformed key error => [fault ⟨key, error⟩]
  | .group steps => stops fault reference steps
  | .files mode source body =>
      match Pattern.parse source with
      | .ok _ => stops fault reference body
      | .error refused =>
          [fault ⟨filesDescription mode source, .malformedStep (.filePattern source refused)⟩]

/-- What is met from left to right: entries that cannot be used, and whatever the references lead
to. The body of a files step is not entered if its pattern cannot be read. -/
def stops (fault : Diagnostic → α) (reference : String → List α) : List Step → List α
  | [] => []
  | step :: rest => stepStops fault reference step ++ stops fault reference rest

end

end Stops

/-- What a reference leads to when the sequences around it are open: one of these must not be
referred to, and every other one is entered. -/
def entered (document : RuleDocument) (around : List String) (name : String) : List Stop :=
  if _ : name ∈ around then [.fault (refusedReference name (.predefinedCycle name))]
  else
    match _ : document.predefined.get? name with
    | none => [.fault (refusedReference name (.missingPredefined name))]
    | some steps =>
        [.sequence name around
          (stops .fault (fun other => entered document (name :: around) other) steps)]
termination_by (document.unopened around).length
decreasing_by exact RuleDocument.unopened_length_lt ‹_› ‹_›

def way (document : RuleDocument) (around : List String) (steps : List Step) : List Stop :=
  stops .fault (entered document around) steps

def referenceFaults (document : RuleDocument) (around : List String) (name : String) :
    List Diagnostic :=
  if name ∈ around then [refusedReference name (.predefinedCycle name)]
  else if (document.predefined.get? name).isNone then
    [refusedReference name (.missingPredefined name)]
  else []

def ownFaults (document : RuleDocument) (around : List String) (steps : List Step) :
    List Diagnostic :=
  stops id (referenceFaults document around) steps

mutual

def Stop.firstVisit (seen : List String) : Stop → List Stop × List String
  | .fault diagnostic => ([.fault diagnostic], seen)
  | .sequence name around inside =>
      if name ∈ seen then ([], seen)
      else
        let (kept, met) := firstVisits (name :: seen) inside
        ([.sequence name around kept], met)

/-- Leaves out the visits to sequences that have been seen before, and gives the names seen in the
end. -/
def firstVisits (seen : List String) : List Stop → List Stop × List String
  | [] => ([], seen)
  | stop :: rest =>
      let (first, met) := stop.firstVisit seen
      let (others, last) := firstVisits met rest
      (first ++ others, last)

end

mutual

def Stop.faults : Stop → List Diagnostic
  | .fault diagnostic => [diagnostic]
  | .sequence _ _ inside => faultsOf inside

def faultsOf : List Stop → List Diagnostic
  | [] => []
  | stop :: rest => stop.faults ++ faultsOf rest

end

structure Visit where
  name : String
  around : List String

mutual

def Stop.visits : Stop → List Visit
  | .fault _ => []
  | .sequence name around inside => ⟨name, around⟩ :: visitsOf inside

def visitsOf : List Stop → List Visit
  | [] => []
  | stop :: rest => stop.visits ++ visitsOf rest

end

def Visit.faults (document : RuleDocument) (visit : Visit) : List Diagnostic :=
  ownFaults document (visit.name :: visit.around)
    ((document.predefined.get? visit.name).getD [])

/-- The way through steps on which every predefined sequence is entered at its first reference
only. -/
def trail (document : RuleDocument) (steps : List Step) : List Stop :=
  (firstVisits [] (way document [] steps)).1

section Entering

variable {document : RuleDocument} {around : List String} {name : String}

theorem entered_open (isOpen : name ∈ around) :
    entered document around name = [.fault (refusedReference name (.predefinedCycle name))] := by
  rw [entered, dif_pos isOpen]

theorem entered_unknown (notOpen : name ∉ around)
    (undefined : document.predefined.get? name = none) :
    entered document around name = [.fault (refusedReference name (.missingPredefined name))] := by
  rw [entered, dif_neg notOpen]
  split
  · rfl
  · simp_all

theorem entered_defined {steps : List Step} (notOpen : name ∉ around)
    (defined : document.predefined.get? name = some steps) :
    entered document around name =
      [.sequence name around (way document (name :: around) steps)] := by
  rw [entered, dif_neg notOpen]
  split
  · simp_all
  · simp_all [way]

end Entering

section Lists

theorem first_visits_append (seen : List String) (stops others : List Stop) :
    firstVisits seen (stops ++ others) =
      let (first, met) := firstVisits seen stops
      let (rest, last) := firstVisits met others
      (first ++ rest, last) := by
  induction stops generalizing seen with
  | nil => rfl
  | cons stop stops induction =>
      simp only [List.cons_append, firstVisits, induction, List.append_assoc]

theorem faults_of_append (stops others : List Stop) :
    faultsOf (stops ++ others) = faultsOf stops ++ faultsOf others := by
  induction stops with
  | nil => rfl
  | cons stop stops induction =>
      rw [List.cons_append, faultsOf, induction, faultsOf, List.append_assoc]

theorem visits_of_append (stops others : List Stop) :
    visitsOf (stops ++ others) = visitsOf stops ++ visitsOf others := by
  induction stops with
  | nil => rfl
  | cons stop stops induction =>
      rw [List.cons_append, visitsOf, induction, visitsOf, List.append_assoc]

mutual

theorem Stop.first_visit_met : (stop : Stop) → (seen : List String) →
    (stop.firstVisit seen).2 =
        ((visitsOf (stop.firstVisit seen).1).map Visit.name).reverse ++ seen ∧
      (seen.Nodup → (stop.firstVisit seen).2.Nodup)
  | .fault _, _ => ⟨rfl, id⟩
  | .sequence name around inside, seen => by
      by_cases known : name ∈ seen
      · simp [Stop.firstVisit, known, visitsOf]
      · obtain ⟨met, distinct⟩ := first_visits_met inside (name :: seen)
        simp only [Stop.firstVisit, known, if_false, visitsOf, Stop.visits, List.append_nil,
          List.map_cons, List.reverse_cons, List.append_assoc, List.singleton_append]
        exact ⟨met, fun earlier => distinct (List.nodup_cons.2 ⟨known, earlier⟩)⟩

/-- The names seen in the end are those seen before and those of the visits that are kept, the last
one first; none of them is visited twice. -/
theorem first_visits_met : (stops : List Stop) → (seen : List String) →
    (firstVisits seen stops).2 =
        ((visitsOf (firstVisits seen stops).1).map Visit.name).reverse ++ seen ∧
      (seen.Nodup → (firstVisits seen stops).2.Nodup)
  | [], _ => ⟨rfl, id⟩
  | stop :: rest, seen => by
      obtain ⟨met, distinct⟩ := stop.first_visit_met seen
      obtain ⟨metBehind, distinctBehind⟩ := first_visits_met rest (stop.firstVisit seen).2
      simp only [firstVisits, visits_of_append, List.map_append, List.reverse_append,
        List.append_assoc]
      refine ⟨?_, fun earlier => distinctBehind (distinct earlier)⟩
      rw [metBehind, met]

end

end Lists

def Builder.HasSeen (builder : Builder) (seen : List String) : Prop :=
  ∀ name, name ∈ seen ↔ (builder.finished.lookup name).isSome ∨ name ∈ builder.expanding

/-- An expansion follows the way through its steps: it enters what has not been seen before, and
reports what it meets. -/
structure Follows (document : RuleDocument) (builder last : Builder) (seen : List String)
    (steps : List Step) (kept : List Stop) (met : List String) : Prop where
  pruned : firstVisits seen (way document builder.expanding steps) = (kept, met)
  hasSeen : last.HasSeen met
  reported : last.diagnostics = builder.diagnostics ++ faultsOf kept
  counted : (faultsOf kept).Perm
    (ownFaults document builder.expanding steps ++
      (visitsOf kept).flatMap (Visit.faults document))
  nested : ∀ visit ∈ visitsOf kept, ∀ outer ∈ visit.around, document.Includes outer visit.name

namespace Follows

variable {document : RuleDocument} {builder middle last : Builder} {seen met final : List String}
  {step : Step} {steps rest : List Step} {kept others : List Stop}

theorem nil (hasSeen : builder.HasSeen seen) : Follows document builder builder seen [] [] seen :=
  ⟨rfl, hasSeen, (List.append_nil _).symm, .refl _, by simp [visitsOf]⟩

theorem silent (behind : Follows document builder last seen rest kept met)
    (quiet : firstVisits seen (stepStops .fault (entered document builder.expanding) step) =
      ([], seen))
    (right : stepStops id (referenceFaults document builder.expanding) step = []) :
    Follows document builder last seen (step :: rest) kept met := by
  refine ⟨?_, behind.hasSeen, behind.reported, ?_, behind.nested⟩
  · rw [way, stops, first_visits_append, quiet]
    exact behind.pruned
  · rw [ownFaults, stops, right]
    exact behind.counted

theorem fault {key : String} {error : RuleError}
    (behind : Follows document (builder.reported key error) last seen rest kept met)
    (single : stepStops .fault (entered document builder.expanding) step =
      [.fault ⟨key, error⟩])
    (wrong : stepStops id (referenceFaults document builder.expanding) step = [⟨key, error⟩]) :
    Follows document builder last seen (step :: rest) (.fault ⟨key, error⟩ :: kept) met := by
  refine ⟨?_, behind.hasSeen, ?_, ?_, behind.nested⟩
  · rw [way, stops, first_visits_append, single]
    exact congrArg (fun result => (Stop.fault ⟨key, error⟩ :: result.1, result.2)) behind.pruned
  · rw [behind.reported, Builder.reported, List.append_assoc]
    rfl
  · rw [ownFaults, stops, wrong]
    exact behind.counted.cons _

theorem nest
    (inner : stepStops .fault (entered document builder.expanding) step =
      way document builder.expanding steps)
    (same : stepStops id (referenceFaults document builder.expanding) step =
      ownFaults document builder.expanding steps)
    (balanced : middle.expanding = builder.expanding)
    (inside : Follows document builder middle seen steps kept met)
    (behind : Follows document middle last met rest others final) :
    Follows document builder last seen (step :: rest) (kept ++ others) final := by
  have pruned := behind.pruned
  have counted := behind.counted
  rw [balanced] at pruned counted
  refine ⟨?_, behind.hasSeen, ?_, ?_, ?_⟩
  · rw [way, stops, first_visits_append, inner, inside.pruned]
    exact congrArg (fun result => (kept ++ result.1, result.2)) pruned
  · rw [behind.reported, inside.reported, faults_of_append, List.append_assoc]
  · rw [ownFaults, stops, same, faults_of_append, visits_of_append, List.flatMap_append]
    refine (inside.counted.append counted).trans ?_
    simp only [List.append_assoc]
    exact (List.perm_append_comm_assoc _ _ _).append_left _
  · intro visit member
    rw [visits_of_append] at member
    rcases List.mem_append.1 member with early | late
    · exact inside.nested visit early
    · exact behind.nested visit late

theorem enter {name : String} {nodes : List Node} (new : name ∉ seen)
    (notOpen : name ∉ builder.expanding) (defined : document.predefined.get? name = some steps)
    (balanced : (middle.closed name nodes).expanding = builder.expanding)
    (leads : ∀ outer ∈ builder.expanding, document.Includes outer name)
    (inside : Follows document (builder.opened name) middle (name :: seen) steps kept met)
    (behind : Follows document (middle.closed name nodes) last met rest others final) :
    Follows document builder last seen (.action (.predefined name) :: rest)
      (.sequence name builder.expanding kept :: others) final := by
  have pruned := behind.pruned
  have counted := behind.counted
  rw [balanced] at pruned counted
  have own : stepStops id (referenceFaults document builder.expanding)
      (.action (.predefined name)) = [] := by
    simp [stepStops, referenceFaults, notOpen, defined]
  have faults : Visit.faults document ⟨name, builder.expanding⟩ =
      ownFaults document (name :: builder.expanding) steps := by
    rw [Visit.faults, defined, Option.getD_some]
  refine ⟨?_, behind.hasSeen, ?_, ?_, ?_⟩
  · have opened := inside.pruned
    rw [Builder.opened] at opened
    rw [way, stops, first_visits_append, stepStops, entered_defined notOpen defined]
    simp only [firstVisits, Stop.firstVisit, new, if_false, opened, List.append_nil]
    exact congrArg (fun result => (Stop.sequence name builder.expanding kept :: result.1, result.2))
      pruned
  · rw [behind.reported, Builder.closed, inside.reported, Builder.opened, faultsOf, Stop.faults,
      List.append_assoc]
  · rw [ownFaults, stops, own, faultsOf, Stop.faults, visitsOf, Stop.visits, List.cons_append,
      List.flatMap_cons, List.flatMap_append, faults]
    refine (inside.counted.append counted).trans ?_
    simp only [List.append_assoc, List.nil_append]
    refine ((List.perm_append_comm_assoc _ _ _).append_left _).trans ?_
    exact List.perm_append_comm_assoc _ _ _
  · intro visit member
    rw [visitsOf, Stop.visits, List.cons_append] at member
    rcases List.mem_cons.1 member with here | elsewhere
    · subst here
      exact leads
    rcases List.mem_append.1 elsewhere with early | late
    · exact inside.nested visit early
    · exact behind.nested visit late

end Follows

namespace Builder.HasSeen

variable {builder : Builder} {seen : List String} {name : String}

theorem opened (hasSeen : builder.HasSeen seen) : (builder.opened name).HasSeen (name :: seen) := by
  intro other
  rw [List.mem_cons, hasSeen other, Builder.opened, List.mem_cons]
  exact or_left_comm

theorem closed {nodes : List Node} {around : List String} (hasSeen : builder.HasSeen seen)
    (balanced : builder.expanding = name :: around) : (builder.closed name nodes).HasSeen seen := by
  intro other
  rw [hasSeen other, Builder.closed, balanced, List.mem_cons]
  by_cases same : other = name
  · subst same
    simp
  · simp [OrderedMap.lookup_cons_of_ne same, same]

end Builder.HasSeen

/-- An expansion takes the first visits of the way through its steps. -/
theorem Expansion.follows {document : RuleDocument} {builder last : Builder} {steps : List Step}
    {nodes : List Node} {seen : List String}
    (expansion : Expansion document builder steps nodes last)
    (consistent : builder.Consistent document) (leads : builder.Leads document steps)
    (hasSeen : builder.HasSeen seen) :
    ∃ kept met, Follows document builder last seen steps kept met := by
  induction expansion generalizing seen with
  | nil => exact ⟨_, _, .nil hasSeen⟩
  | check read _ behind =>
      obtain ⟨kept, met, follows⟩ := behind consistent (leads.behind rfl) hasSeen
      exact ⟨_, _, follows.silent (by simp only [stepStops, read, firstVisits])
        (by simp only [stepStops, read])⟩
  | refusedCheck refused _ behind =>
      obtain ⟨kept, met, follows⟩ := behind (consistent.reported _ _) (leads.behind rfl) hasSeen
      exact ⟨_, _, follows.fault (by simp only [stepStops, refused])
        (by simp only [stepStops, refused, id])⟩
  | operation _ behind =>
      obtain ⟨kept, met, follows⟩ := behind consistent (leads.behind rfl) hasSeen
      exact ⟨_, _, follows.silent rfl rfl⟩
  | malformed _ behind =>
      obtain ⟨kept, met, follows⟩ := behind (consistent.reported _ _) (leads.behind rfl) hasSeen
      exact ⟨_, _, follows.fault rfl rfl⟩
  | group first _ inside behind =>
      obtain ⟨inner, seenInside, inside⟩ := inside consistent leads.group hasSeen
      obtain ⟨kept, met, follows⟩ := behind (first.consistent consistent).1
        (leads.behind first.expanding_eq) inside.hasSeen
      exact ⟨_, _, .nest rfl rfl first.expanding_eq inside follows⟩
  | files read first _ inside behind =>
      obtain ⟨inner, seenInside, inside⟩ := inside consistent (leads.files read) hasSeen
      obtain ⟨kept, met, follows⟩ := behind (first.consistent consistent).1
        (leads.behind first.expanding_eq) inside.hasSeen
      exact ⟨_, _, .nest (by simp only [stepStops, read, way])
        (by simp only [stepStops, read, ownFaults]) first.expanding_eq inside follows⟩
  | refusedFiles refused _ behind =>
      obtain ⟨kept, met, follows⟩ := behind (consistent.reported _ _) (leads.behind rfl) hasSeen
      exact ⟨_, _, follows.fault (by simp only [stepStops, refused])
        (by simp only [stepStops, refused, id])⟩
  | @finished builder _ name _ _ _ found _ behind =>
      obtain ⟨kept, met, follows⟩ := behind consistent (leads.behind rfl) hasSeen
      obtain ⟨body, defined⟩ := consistent.known found
      have notOpen : name ∉ builder.expanding := by
        intro isOpen
        rw [consistent.unfinished isOpen] at found
        cases found
      have known : name ∈ seen := (hasSeen name).2 (.inl (Option.isSome_of_mem found))
      refine ⟨_, _, follows.silent ?_ ?_⟩
      · rw [stepStops, entered_defined notOpen defined]
        simp only [firstVisits, Stop.firstVisit, known, if_true, List.append_nil]
      · simp [stepStops, referenceFaults, notOpen, defined]
  | cyclic unfinished isOpen _ behind =>
      obtain ⟨kept, met, follows⟩ := behind (consistent.reported _ _) (leads.behind rfl) hasSeen
      refine ⟨_, _, follows.fault ?_ ?_⟩
      · rw [stepStops, entered_open isOpen, refusedReference]
      · rw [stepStops, referenceFaults, if_pos isOpen, refusedReference]
  | missing unfinished notOpen undefined _ behind =>
      obtain ⟨kept, met, follows⟩ := behind (consistent.reported _ _) (leads.behind rfl) hasSeen
      refine ⟨_, _, follows.fault ?_ ?_⟩
      · rw [stepStops, entered_unknown notOpen undefined, refusedReference]
      · simp [stepStops, referenceFaults, notOpen, undefined, refusedReference]
  | @inline builder _ _ name _ _ nodes _ unfinished notOpen defined first _ inside behind =>
      have new : name ∉ seen := by
        rw [hasSeen name, unfinished]
        simpa using notOpen
      obtain ⟨inner, seenInside, inside⟩ :=
        inside (consistent.opened unfinished) (leads.opened defined) hasSeen.opened
      have balanced := first.expanding_eq
      obtain ⟨kept, met, follows⟩ := behind
        (first.consistent_closed consistent unfinished notOpen defined)
        (leads.behind (congrArg (List.drop 1) balanced)) (inside.hasSeen.closed balanced)
      exact ⟨_, _, .enter new notOpen defined (congrArg (List.drop 1) balanced)
        (fun _ isOpen => leads.reference isOpen) inside follows⟩

section Builds

variable {document : RuleDocument} {steps : List Step} {name : String}

theorem build_follows (document : RuleDocument) (steps : List Step) :
    ∃ met, Follows document .start (finalBuilder document steps) [] steps (trail document steps)
      met := by
  have hasSeen : Builder.start.HasSeen [] := by
    intro name
    simp [Builder.start]
  obtain ⟨kept, met, follows⟩ := (build_expansion document steps).follows (.start document) .start
    hasSeen
  have pruned : firstVisits [] (way document [] steps) = (kept, met) := follows.pruned
  have same : trail document steps = kept := by rw [trail, pruned]
  exact ⟨met, same ▸ follows⟩

def visited (document : RuleDocument) (steps : List Step) : List String :=
  (visitsOf (trail document steps)).map Visit.name

theorem visited_nodup (document : RuleDocument) (steps : List Step) :
    (visited document steps).Nodup := by
  obtain ⟨met, distinct⟩ := first_visits_met (way document [] steps) []
  have distinct := distinct List.nodup_nil
  rw [met, List.append_nil] at distinct
  exact (List.reverse_perm _).nodup_iff.1 distinct

theorem mem_visited_iff :
    name ∈ visited document steps ↔
      document.Reaches steps name ∧ (document.predefined.get? name).isSome := by
  obtain ⟨met, follows⟩ := build_follows document steps
  have names := (first_visits_met (way document [] steps) []).1
  have pruned : firstVisits [] (way document [] steps) = (trail document steps, met) :=
    follows.pruned
  rw [pruned] at names
  simp only [List.append_nil] at names
  have seen := follows.hasSeen name
  rw [names, List.mem_reverse, final_expanding] at seen
  rw [← kept_is_some_iff, visited, seen, kept]
  simp

theorem mem_diagnostics_iff {diagnostic : Diagnostic} :
    diagnostic ∈ (ActionTree.build document steps).diagnostics ↔
      diagnostic ∈ ownFaults document [] steps ∨
        ∃ visit ∈ visitsOf (trail document steps), diagnostic ∈ visit.faults document := by
  obtain ⟨met, follows⟩ := build_follows document steps
  have reported : (ActionTree.build document steps).diagnostics = faultsOf (trail document steps) :=
    follows.reported
  rw [reported, follows.counted.mem_iff, List.mem_append, List.mem_flatMap]
  rfl

end Builds

/-- Building a tree reports the faults on the way through its steps, in order, on which every
predefined sequence is entered at its first reference only. Entered are exactly the known sequences
that the steps lead to, each of them once. So every fault of the steps, and every fault of each of
these sequences, is reported once. -/
theorem diagnostics_are_faults_of_first_visits (document : RuleDocument) (steps : List Step) :
    (ActionTree.build document steps).diagnostics =
        faultsOf (firstVisits [] (way document [] steps)).1 ∧
      (visited document steps).Nodup ∧
      (∀ name, name ∈ visited document steps ↔
        document.Reaches steps name ∧ (document.predefined.get? name).isSome) ∧
      (ActionTree.build document steps).diagnostics.Perm
        (ownFaults document [] steps ++
          (visitsOf (trail document steps)).flatMap (Visit.faults document)) := by
  obtain ⟨met, follows⟩ := build_follows document steps
  have reported : (ActionTree.build document steps).diagnostics = faultsOf (trail document steps) :=
    follows.reported
  refine ⟨reported, visited_nodup document steps, fun _ => mem_visited_iff, ?_⟩
  rw [reported]
  exact follows.counted

/-- A fault of a sequence is reported where the sequence is referred to first, and never again. -/
example :
    let document := RuleDocument.ofPredefined
      [("first", Step.referring "second" ++ [.malformed "a" (.malformedStep .noSequence)]),
        ("second", .malformed "b" (.malformedStep .noSequence) :: Step.referring "first")]
    ((ActionTree.build document (Step.referring "first" ++ Step.referring "second")).diagnostics.map
      Diagnostic.step) = ["b", "predefined first", "a"] := by
  decide +kernel

end Tree

end RepoRules
