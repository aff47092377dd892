import Mathlib.Data.List.Forall2
import RepoRules.Proofs.Run.Course

/-!
Milestones at the end of a delivery. Steps send milestones at once, one after the other, but each of
them compares with the milestone that the item had in front of the walk, and not with the one that an
earlier step has set.
-/

namespace RepoRules

open OfflineStore

/-- The milestone that a step is there to leave behind: setting one leaves that one, removing leaves
none, and a removal that names a milestone leaves any other one alone. -/
def Change.milestoneAfter (change : Change) (title : String) (current : Option String) :
    Option String :=
  match change with
  | .set => if title.isEmpty then current else some title
  | .add | .remove => if title.isEmpty || current == some title then none else current

namespace Run.Executed

def milestone? (step : Executed) : Option (Change × String) :=
  match step.operation with
  | .milestone change value => some (change, Text.trim (step.context.textOf value))
  | .labels _ _ | .assignees _ _ | .reviewers _ _ | .project _ _ | .comment _ | .variable _ _ _ =>
      none

end Run.Executed

/-- The milestone after steps if each of them compares with the one that there is. -/
def milestoneInTurn (steps : List (Change × String)) (start : Option String) : Option String :=
  steps.foldl (fun current step => step.1.milestoneAfter step.2 current) start

/-- The milestone after steps if all of them compare with the same one. -/
def milestoneBeside (snapshot : Option String) (steps : List (Change × String))
    (start : Option String) : Option String :=
  steps.foldl (fun current step => (step.1.milestone? step.2 snapshot).getD current) start

def Course.milestones (course : Course) : List (Change × String) :=
  course.steps.filterMap Run.Executed.milestone?

/-- A step that compares with the milestone that there is does what it is there for. -/
theorem Change.milestone_of_current (change : Change) (title : String) (current : Option String) :
    (change.milestone? title current).getD current = change.milestoneAfter title current := by
  have cleared : (if current.isSome && (title.isEmpty || current == some title) then
        some (none : Option String) else none).getD current =
      if title.isEmpty || current == some title then none else current := by
    cases current with
    | none => simp
    | some held =>
        rw [Option.isSome_some, Bool.true_and]
        split
        · rfl
        · rfl
  cases change with
  | set =>
      simp only [milestone?, milestoneAfter]
      by_cases blank : title.isEmpty = true
      · simp [blank]
      · by_cases same : current = some title
        · simp [blank, same]
        · simp [blank, same]
  | add => exact cleared
  | remove => exact cleared

section Writes

variable {context : Context} {operation : Operation} {mutation : Mutation} {item : Item}

theorem Mutation.milestone_of_other (other : ∀ number title, mutation ≠ .setMilestone number title)
    (held : Item) : (mutation.change held).milestone = held.milestone := by
  cases mutation with
  | setMilestone number title => exact absurd rfl (other number title)
  | _ => rfl

theorem Operation.milestone_of_mem_writes {number : Nat} {title : Option String}
    (written : .setMilestone number title ∈ operation.writes context) :
    ∃ change value, operation = .milestone change value := by
  rcases List.mem_append.1 written with onto | onto
  · cases operation with
    | milestone change value => exact ⟨change, value, rfl⟩
    | _ =>
        exfalso
        revert onto
        cases context.target with
        | none => simp
        | some item => simp [writesTo]
  · cases (mem_writes_to_project onto).2

theorem Run.Executed.milestone_after {step : Executed} (target : step.context.target = some item)
    (held : Item) :
    (held.after item.number step.writes).milestone =
      match step.milestone? with
      | none => held.milestone
      | some (change, title) => (change.milestone? title item.milestone).getD held.milestone := by
  obtain ⟨operation, context⟩ := step
  cases operation with
  | milestone change value =>
      have written : Executed.writes ⟨.milestone change value, context⟩ =
          ((change.milestone? (Text.trim (context.textOf value)) item.milestone).map
            (Mutation.setMilestone item.number)).toList := by
        unfold writes Operation.writes
        rw [show context.target = some item from target]
        exact List.append_nil _
      rw [written]
      simp only [milestone?]
      cases change.milestone? (Text.trim (context.textOf value)) item.milestone with
      | none => rfl
      | some sent => simp [Item.after, Mutation.number?, Mutation.change]
  | _ =>
      refine Item.view_after Item.milestone (fun mutation written => ?_) held
      refine Mutation.milestone_of_other ?_
      rintro number title rfl
      obtain ⟨change, value, same⟩ := Operation.milestone_of_mem_writes written
      cases same

/-- One step after the other, each with the milestone that the ones before it have left. -/
theorem milestone_after_steps {steps : List Run.Executed}
    (targets : ∀ step ∈ steps, step.context.target = some item) (held : Item) :
    (held.after item.number (steps.flatMap Run.Executed.writes)).milestone =
      milestoneBeside item.milestone (steps.filterMap Run.Executed.milestone?) held.milestone := by
  induction steps generalizing held with
  | nil => rfl
  | cons step rest induction =>
      have first := Run.Executed.milestone_after (targets step List.mem_cons_self) held
      rw [List.flatMap_cons, Item.after_append,
        induction fun other member => targets other (List.mem_cons_of_mem _ member), first]
      cases found : step.milestone? with
      | none => rw [List.filterMap_cons_none found]
      | some wanted =>
          rw [List.filterMap_cons_some found]
          rfl

end Writes

/-- With a single step at most it makes no difference what the step compares with. -/
theorem milestone_beside_of_single {steps : List (Change × String)} (single : steps.length ≤ 1)
    (start : Option String) : milestoneBeside start steps start = milestoneInTurn steps start := by
  match steps, single with
  | [], _ => rfl
  | [step], _ => exact Change.milestone_of_current step.1 step.2 start

/-- A title that is set last is the one that stays, unless it was there at first and is not any
more. -/
theorem milestone_beside_of_set (snapshot : Option String) (earlier : List (Change × String))
    {title : String} (filled : title.isEmpty = false) (start : Option String) :
    milestoneBeside snapshot (earlier ++ [(.set, title)]) start = some title ↔
      snapshot ≠ some title ∨ milestoneBeside snapshot earlier start = some title := by
  unfold milestoneBeside
  rw [List.foldl_append]
  simp only [List.foldl_cons, List.foldl_nil, Change.milestone?, filled]
  by_cases there : snapshot = some title
  · simp [there]
  · simp [there]

namespace OfflineRun

variable (run : OfflineRun) {item : Item}

/-- Milestone steps do not compose. Each compares with the milestone that the item had in front of
the walk. So a single one does what it is there for, but a title that is set last stays only if it
was not there in front of the walk or still is there when it is set. -/
theorem milestone_steps_compare_with_start (target : run.course.target = some item) :
    List.Forall₂
      (fun before after : Item =>
        after.milestone =
            milestoneBeside item.milestone run.course.milestones before.milestone ∧
          (before.milestone = item.milestone → run.course.milestones.length ≤ 1 →
            after.milestone = milestoneInTurn run.course.milestones before.milestone) ∧
          ∀ earlier title, run.course.milestones = earlier ++ [(.set, title)] →
            title.isEmpty = false →
            (after.milestone = some title ↔ item.milestone ≠ some title ∨
              milestoneBeside item.milestone earlier before.milestone = some title))
      (run.seeded.copies item.number) (run.last.store.copies item.number) := by
  rw [run.copies_last, List.forall₂_map_right_iff, List.forall₂_same]
  intro held _
  have law : (held.after item.number run.course.sent).milestone =
      milestoneBeside item.milestone run.course.milestones held.milestone := by
    rw [run.after_sent target, Item.after_report]
    exact milestone_after_steps
      (fun step member => (run.course_leaves.targets step member).trans target) held
  refine ⟨law, fun same single => ?_, fun earlier title last filled => ?_⟩
  · rw [law, same]
    exact milestone_beside_of_single single item.milestone
  · rw [law, last]
    exact milestone_beside_of_set item.milestone earlier filled held.milestone

def planned : Delivery :=
  .opened .issues "issue"
    [("number", .int 7), ("milestone", .ofFields [("number", .int 2), ("title", .string "B")])]

def thereAndBack : OfflineRun where
  repository := ⟨"octo", "docs"⟩
  page _ := none
  rules := .fixed (.onOpened
    [.action (.operation (.milestone .set "A")), .action (.operation (.milestone .set "B"))])
  delivery := planned
  seeded := planned.seeded
  ends := by decide +kernel

def otherRemoved : OfflineRun where
  repository := ⟨"octo", "docs"⟩
  page _ := none
  rules := .fixed (.onOpened
    [.action (.operation (.milestone .set "A")), .action (.operation (.milestone .remove "B"))])
  delivery := planned
  seeded := planned.seeded
  ends := by decide +kernel

/-- The second step compares with the milestone from the start and sends nothing. -/
theorem second_title_compares_with_start :
    ∃ item, thereAndBack.course.target = some item ∧ item.milestone = some "B" ∧
      List.Forall₂
        (fun before after : Item => after.milestone =
          milestoneBeside item.milestone [(.set, "A"), (.set, "B")] before.milestone)
        (thereAndBack.seeded.copies item.number) (thereAndBack.last.store.copies item.number) := by
  have target : thereAndBack.course.target =
      some { Item.blank with number := 7, milestone := some "B" } := by decide +kernel
  have milestones : thereAndBack.course.milestones = [(.set, "A"), (.set, "B")] := by
    decide +kernel
  refine ⟨_, target, rfl, ?_⟩
  rw [← milestones]
  exact (thereAndBack.milestone_steps_compare_with_start target).imp fun _ _ law => law.1

/-- A removal that names `B` clears `A`, and a `B` that is set last is not stored in the end. -/
theorem milestone_steps_do_not_compose :
    (planned.seeded.item? 7).map Item.milestone = some (some "B") ∧
      (otherRemoved.course.milestones = [(.set, "A"), (.remove, "B")] ∧
        milestoneInTurn otherRemoved.course.milestones (some "B") = some "A" ∧
        (otherRemoved.last.store.item? 7).map Item.milestone = some none) ∧
      thereAndBack.course.milestones = [(.set, "A"), (.set, "B")] ∧
      milestoneInTurn thereAndBack.course.milestones (some "B") = some "B" ∧
      (thereAndBack.last.store.item? 7).map Item.milestone = some (some "A") := by
  decide +kernel

end OfflineRun

end RepoRules
