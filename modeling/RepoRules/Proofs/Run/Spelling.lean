import RepoRules.Proofs.Run.PoolHistory

/-!
Spellings of a label in a pool. A removal takes out the addition of the same spelling, and of no
other one. So a report adds and removes a label if and only if a spelling of it was entered for
addition that was not entered for removal, and another one was.
-/

namespace RepoRules

open Effects

namespace Pool

def Step.entered (batch : Batch) : Step → List String
  | .enter other text => if other = batch ∧ Text.trim text ≠ "" then [Text.trim text] else []
  | .resolveConflicts | .flush _ => []

def entered (steps : List Step) (batch : Batch) : List String :=
  steps.flatMap (Step.entered batch)

def without (added removed : List String) : List String :=
  added.filter fun label => !removed.contains label

section Entering

variable (added others removed late : List String)

theorem mem_without {label : String} :
    label ∈ without added removed ↔ label ∈ added ∧ label ∉ removed := by
  rw [without, List.mem_filter, Bool.not_eq_true', ← Bool.not_eq_true, List.contains_iff_mem]

theorem without_append :
    without (added ++ others) removed = without added removed ++ without others removed :=
  List.filter_append added others

theorem without_twice : without (without added removed) late = without added (removed ++ late) := by
  rw [without, without, List.filter_filter, without]
  refine List.filter_congr fun label _ => ?_
  rw [List.contains_append, Bool.not_or, Bool.and_comm]

theorem without_again : without (without added removed) removed = without added removed := by
  rw [without, without, List.filter_filter]
  simp only [Bool.and_self]

theorem entered_concat (steps : List Step) (step : Step) (batch : Batch) :
    entered (steps ++ [step]) batch = entered steps batch ++ step.entered batch := by
  rw [entered, List.flatMap_append, List.flatMap_singleton]
  rfl

end Entering

/-- In front of the first flush a ledger holds what was entered. Labels to be added may have been
taken out of it, but only such as will be taken out at the flush as well. -/
theorem Ledger.texts_of_unflushed {steps : List Step}
    (unflushed : ∀ earlier, .flush earlier ∉ steps) :
    (ofSteps steps).texts .labelsToRemove = entered steps .labelsToRemove ∧
      without ((ofSteps steps).texts .labelsToAdd) ((ofSteps steps).texts .labelsToRemove) =
        without (entered steps .labelsToAdd) (entered steps .labelsToRemove) := by
  induction steps using List.reverseRecOn with
  | nil => exact ⟨rfl, rfl⟩
  | append_singleton steps step induction =>
      obtain ⟨removals, additions⟩ := induction fun earlier member =>
        unflushed earlier (List.mem_append_left _ member)
      unfold ofSteps at *
      rw [List.foldl_concat]
      generalize steps.foldl after new = ledger at *
      rw [entered_concat, entered_concat]
      cases step with
      | enter batch text =>
          have grown (list : Batch) : (ledger.after (.enter batch text)).texts list =
              ledger.texts list ++ (Step.enter batch text).entered list :=
            ledger.texts_enter batch list text
          rw [grown, grown, removals]
          refine ⟨rfl, ?_⟩
          rw [removals] at additions
          rw [without_append, without_append, ← without_twice, additions, without_twice]
      | resolveConflicts =>
          -- what is taken out now would be taken out at the flush by the same removals
          simp only [Step.entered, List.append_nil]
          change ledger.resolved.texts .labelsToRemove = _ ∧
            without (ledger.resolved.texts .labelsToAdd) (ledger.resolved.texts .labelsToRemove) = _
          rw [texts_resolved, texts_resolved, if_neg nofun, if_pos rfl]
          refine ⟨removals, ?_⟩
          rw [← additions]
          exact without_again _ _
      | flush target =>
          exact absurd (List.mem_append_right _ (List.mem_singleton_self _)) (unflushed target)

theorem Keeps.labels_of_report {steps : List Step} {pool : Pool}
    (keeps : Keeps (.ofSteps steps) pool) (unflushed : ∀ earlier, .flush earlier ∉ steps)
    (item : Item) :
    (pool.report (some item)).labelsAdded =
        (without (entered steps .labelsToAdd) (entered steps .labelsToRemove)).eraseDups ∧
      (pool.report (some item)).labelsRemoved = (entered steps .labelsToRemove).eraseDups := by
  obtain ⟨removals, additions⟩ := Ledger.texts_of_unflushed unflushed
  rw [← additions, ← removals]
  have resolved := keeps.resolve.names .labelsToAdd
  rw [Ledger.texts_resolved, if_pos rfl] at resolved
  exact ⟨resolved, keeps.names .labelsToRemove⟩

/-- What a report says about labels, by the changes that were made to the pool before. -/
structure Sorts (steps : List Step) (report : FlushReport) : Prop where
  again : (∃ earlier, .flush earlier ∈ steps) → report = .nothing
  added : (∀ earlier, .flush earlier ∉ steps) → report.labelsAdded =
    (without (entered steps .labelsToAdd) (entered steps .labelsToRemove)).eraseDups
  removed : (∀ earlier, .flush earlier ∉ steps) →
    report.labelsRemoved = (entered steps .labelsToRemove).eraseDups
  apart : ∀ label ∈ report.labelsAdded, label ∉ report.labelsRemoved
  /-- Only labels that are spelled differently can meet. -/
  meet : (∃ label ∈ report.labelsAdded, ∃ other ∈ report.labelsRemoved,
      Text.sameAsciiCase label other = true) ↔
    (∀ earlier, .flush earlier ∉ steps) ∧
      ∃ label ∈ entered steps .labelsToAdd, label ∉ entered steps .labelsToRemove ∧
        ∃ other ∈ entered steps .labelsToRemove, Text.sameAsciiCase label other = true

section Reports

variable {σ : Type} (client : Client σ)

/-- A flush onto an item that comes to its end sorts labels by their spelling. -/
theorem flush_sorts_spellings (steps : List Step) (store : σ) (item : Item) {report : FlushReport}
    {after : RunState σ Pool}
    (flushed : (take client (.flush (some item))).run.run (history client steps store) =
      (.ok (some report), after)) :
    Sorts steps report := by
  have keeps := Keeps.history client steps store
  have known := keeps.flushed
  rcases Classical.em (∃ earlier, .flush earlier ∈ steps) with earlier | first
  · rw [(Ledger.flushed_of_steps steps).2 earlier] at known
    rw [take_flush_again client known] at flushed
    cases flushed
    have late : ¬ ∀ earlier, .flush earlier ∉ steps := not_forall_not.2 earlier
    refine ⟨fun _ => rfl, fun first => absurd first late, fun first => absurd first late, ?_, ?_⟩
    · exact List.forall_mem_nil _
    · refine iff_of_false ?_ (fun meeting => late meeting.1)
      rintro ⟨label, member, _⟩
      exact List.not_mem_nil member
  · have unflushed := not_exists.1 first
    rw [Bool.eq_false_iff.2 (mt (Ledger.flushed_of_steps steps).1 first)] at known
    obtain ⟨_, _, _, going, _, complete, _⟩ := take_flush_onto client known item
    rw [going] at flushed
    cases flushed
    obtain ⟨same, _⟩ := complete _ rfl
    cases same
    obtain ⟨added, removed⟩ := keeps.labels_of_report unflushed item
    refine ⟨fun earlier => absurd earlier first, fun _ => added, fun _ => removed, ?_, ?_⟩
    · intro label
      rw [added, removed, List.mem_eraseDups, List.mem_eraseDups, mem_without]
      exact And.right
    · rw [added, removed, and_iff_right unflushed]
      simp only [List.mem_eraseDups, mem_without, and_assoc]

/-- Added in one spelling and removed in another one, a label is sent with both lists. -/
theorem bug_is_added_and_removed :
    ¬ ∀ (steps : List Step) (item : Item) (report : FlushReport)
        (after : RunState OfflineStore Pool),
      (take (OfflineStore.client ⟨"octo", "docs"⟩) (.flush (some item))).run.run
          (history (OfflineStore.client ⟨"octo", "docs"⟩) steps .empty) =
        (.ok (some report), after) →
      ∀ label ∈ report.labelsAdded, ∀ other ∈ report.labelsRemoved,
        Text.sameAsciiCase label other = false := by
  intro disjoint
  have met := disjoint [.enter .labelsToAdd "Bug", .enter .labelsToRemove "bug"]
    { Item.blank with number := 7 } ⟨["Bug"], ["bug"], [], []⟩ _ rfl "Bug"
    (List.mem_singleton_self _) "bug" (List.mem_singleton_self _)
  exact absurd met (by decide)

def docsRemovedFirst : List Step :=
  [.enter .labelsToRemove "docs ", .resolveConflicts, .enter .labelsToAdd " Bug",
    .enter .labelsToAdd "docs"]

/-- Blanks make no difference, and what was removed first is not added again. -/
theorem docs_is_removed_and_bug_added :
    ∃ report after,
      (take (OfflineStore.client ⟨"octo", "docs"⟩)
          (.flush (some { Item.blank with number := 7 }))).run.run
          (history (OfflineStore.client ⟨"octo", "docs"⟩) docsRemovedFirst .empty) =
        (.ok (some report), after) ∧
      report.labelsAdded = ["Bug"] ∧ report.labelsRemoved = ["docs"] ∧
      ¬ ∃ label ∈ report.labelsAdded, ∃ other ∈ report.labelsRemoved,
        Text.sameAsciiCase label other = true := by
  let report : FlushReport := ⟨["Bug"], ["docs"], [], []⟩
  have sorted : Sorts docsRemovedFirst report :=
    flush_sorts_spellings (OfflineStore.client ⟨"octo", "docs"⟩) docsRemovedFirst .empty
      { Item.blank with number := 7 } rfl
  refine ⟨report, _, rfl, rfl, rfl, fun met => ?_⟩
  obtain ⟨_, clash⟩ := sorted.meet.1 met
  exact absurd clash (by decide +kernel)

end Reports

end Pool

end RepoRules
