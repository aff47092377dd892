import Mathlib.Data.List.Forall2
import RepoRules.Proofs.Run.Course

/-!
Labels and people at the end of a delivery. A label that is to be removed is gone, in whatever order
it was asked for; a person who is to be added is there, even where others were removed at once.
-/

namespace RepoRules

open OfflineStore

def Item.SameLabels (item other : Item) : Prop :=
  ∀ label, item.hasLabel label = other.hasLabel label

section Pools

theorem NameSet.contains_add (set : NameSet) (text name : String) :
    Text.containsAsciiCase (set.add text) name = true ↔
      Text.containsAsciiCase set name = true ∨
        Text.containsAsciiCase (NameSet.add [] text) name = true := by
  unfold NameSet.add
  dsimp only
  cases (Text.trim text).isEmpty with
  | true => simp [Text.containsAsciiCase]
  | false =>
      cases held : set.contains (Text.trim text) with
      | true =>
          -- a name that is in the set already adds nothing
          have member : Text.trim text ∈ set := List.contains_iff_mem.1 held
          simp only [Bool.or_true, if_true, List.contains_nil, Bool.or_false, Bool.false_eq_true,
            if_false, List.nil_append]
          refine (or_iff_left_of_imp fun same => ?_).symm
          obtain ⟨_, single, alike⟩ := Text.containsAsciiCase_iff.1 same
          rw [List.mem_singleton.1 single] at alike
          exact Text.containsAsciiCase_iff.2 ⟨_, member, alike⟩
      | false =>
          simp only [Bool.or_false, List.contains_nil, Bool.false_eq_true, if_false,
            List.nil_append]
          exact Text.containsAsciiCase_append

namespace Pool

theorem names_enter (pool : Pool) (batch other : Batch) (text : String) :
    (pool.enter other text).names batch =
      if other = batch then (pool.names batch).add text else pool.names batch := by
  cases batch <;> cases other <;> simp [names, enter, addLabel, removeLabel, addAssignee, addReviewer]

theorem contains_enter_all (pool : Pool) (entries : List (Batch × String)) (batch : Batch)
    (name : String) :
    Text.containsAsciiCase ((pool.enterAll entries).names batch) name = true ↔
      Text.containsAsciiCase (pool.names batch) name = true ∨
        ∃ text, (batch, text) ∈ entries ∧
          Text.containsAsciiCase (NameSet.add [] text) name = true := by
  induction entries generalizing pool with
  | nil => simp [enterAll]
  | cons entry rest induction =>
      obtain ⟨other, text⟩ := entry
      have behind := induction (pool.enter other text)
      rw [names_enter] at behind
      refine behind.trans ?_
      by_cases same : other = batch
      · subst same
        rw [if_pos rfl, NameSet.contains_add, or_assoc]
        simp only [List.mem_cons, Prod.mk.injEq, true_and, or_and_right, exists_or, exists_eq_left]
      · rw [if_neg same]
        have others (entered : String) :
            (batch, entered) ∈ (other, text) :: rest ↔ (batch, entered) ∈ rest := by
          simp [Ne.symm same]
        simp only [others]

end Pool

namespace Course

variable (course : Course)

/-- Names that are pooled in the course of a delivery: in front of the walk, as the label of a rerun
is, or by an operation. They are compared without the case of ASCII letters. -/
def Pooled (batch : Pool.Batch) (name : String) : Prop :=
  Text.containsAsciiCase (course.start.operations.names batch) name = true ∨
    ∃ step ∈ course.steps, ∃ text, (batch, text) ∈ step.entries ∧
      Text.containsAsciiCase (NameSet.add [] text) name = true

theorem contains_pool (batch : Pool.Batch) (name : String) :
    Text.containsAsciiCase (course.pool.names batch) name = true ↔ course.Pooled batch name := by
  unfold pool Pooled
  rw [Pool.contains_enter_all]
  simp only [List.mem_flatMap]
  refine or_congr_right ⟨?_, ?_⟩
  · rintro ⟨text, ⟨step, member, entered⟩, same⟩
    exact ⟨step, member, text, entered, same⟩
  · rintro ⟨step, member, text, entered, same⟩
    exact ⟨text, ⟨step, member, entered⟩, same⟩

end Course

end Pools

section Changes

variable {mutation : Mutation}

theorem Mutation.labels_of_direct (direct : mutation.isPooled = false) (item : Item) :
    (mutation.change item).labels = item.labels := by
  cases mutation with
  | addLabels _ _ | removeLabels _ _ => cases direct
  | _ => rfl

theorem Mutation.assignees_of_direct (direct : mutation.isPooled = false)
    (other : ∀ number logins, mutation ≠ .removeAssignees number logins) (item : Item) :
    (mutation.change item).assignees = item.assignees := by
  cases mutation with
  | addAssignees _ _ => cases direct
  | removeAssignees number logins => exact absurd rfl (other number logins)
  | _ => rfl

theorem Mutation.reviewers_of_direct (direct : mutation.isPooled = false)
    (other : ∀ number logins, mutation ≠ .removeReviewers number logins) (item : Item) :
    (mutation.change item).requestedReviewers = item.requestedReviewers := by
  cases mutation with
  | addReviewers _ _ => cases direct
  | removeReviewers number logins => exact absurd rfl (other number logins)
  | _ => rfl

end Changes

/-- A label that is to be removed is not added, and would not stay if it were. -/
theorem Pool.contains_resolved (pool : Pool) (label : String) :
    Text.containsAsciiCase pool.resolveConflicts.labelsToAdd label = true ∧
        ¬ Text.containsAsciiCase pool.labelsToRemove label = true ↔
      Text.containsAsciiCase pool.labelsToAdd label = true ∧
        ¬ Text.containsAsciiCase pool.labelsToRemove label = true := by
  refine and_congr_left fun kept => ⟨fun added => ?_, fun added => ?_⟩
  · obtain ⟨held, member, same⟩ := Text.containsAsciiCase_iff.1 added
    exact Text.containsAsciiCase_iff.2 ⟨held, (List.mem_filter.1 member).1, same⟩
  · obtain ⟨held, member, same⟩ := Text.containsAsciiCase_iff.1 added
    refine Text.containsAsciiCase_iff.2 ⟨held, List.mem_filter.2 ⟨member, ?_⟩, same⟩
    rw [Bool.not_eq_true']
    refine Bool.eq_false_iff.2 fun removed => kept ?_
    exact Text.containsAsciiCase_iff.2 ⟨held, List.contains_iff_mem.1 removed, same⟩

namespace OfflineRun

variable (run : OfflineRun) {item : Item}

theorem has_label_after (target : run.course.target = some item) (held : Item) (label : String) :
    (held.after item.number run.course.sent).hasLabel label = true ↔
      ¬ run.course.Pooled .labelsToRemove label ∧
        (held.hasLabel label = true ∨ run.course.Pooled .labelsToAdd label) := by
  have untouched : (held.after item.number run.course.writes).labels = held.labels :=
    Item.view_after Item.labels
      (fun mutation member => Mutation.labels_of_direct (run.mem_writes member).1) held
  rw [run.after_sent target, Item.after_report]
  unfold Item.hasLabel
  simp only [untouched, contains_subtract, contains_merge]
  rw [or_and_right, ← Course.contains_pool, ← Course.contains_pool]
  refine (or_congr_right (run.course.pool.contains_resolved label)).trans ?_
  exact or_and_right.symm.trans and_comm

/-- Removal wins in any order. A label is on a stored item afterwards if and only if it was not pooled
for removal and was on it before or was pooled for addition. So two deliveries that pool the same
labels for addition and for removal make the same of the same labels. -/
theorem removal_of_labels_wins (target : run.course.target = some item) :
    List.Forall₂
        (fun before after : Item => ∀ label, after.hasLabel label = true ↔
          ¬ run.course.Pooled .labelsToRemove label ∧
            (before.hasLabel label = true ∨ run.course.Pooled .labelsToAdd label))
        (run.seeded.copies item.number) (run.last.store.copies item.number) ∧
      ∀ (other : OfflineRun) (thing : Item), other.course.target = some thing →
        (∀ label, run.course.Pooled .labelsToAdd label ↔ other.course.Pooled .labelsToAdd label) →
        (∀ label, run.course.Pooled .labelsToRemove label ↔
          other.course.Pooled .labelsToRemove label) →
        List.Forall₂ Item.SameLabels (run.seeded.copies item.number)
          (other.seeded.copies thing.number) →
        List.Forall₂ Item.SameLabels (run.last.store.copies item.number)
          (other.last.store.copies thing.number) := by
  constructor
  · rw [run.copies_last, List.forall₂_map_right_iff, List.forall₂_same]
    exact fun held _ label => run.has_label_after target held label
  · intro other thing onto adding removing same
    rw [run.copies_last, other.copies_last, List.forall₂_map_left_iff, List.forall₂_map_right_iff]
    refine same.imp fun held there alike label => Bool.eq_iff_iff.2 ?_
    rw [run.has_label_after target, other.has_label_after onto, alike, adding, removing]

def documented : Delivery :=
  .opened .issues "issue"
    [("number", .int 7), ("labels", .array [.ofFields [("name", .string "Docs")]])]

def removedFirst : OfflineRun where
  repository := ⟨"octo", "docs"⟩
  page _ := none
  rules := .fixed (.onOpened
    [.action (.operation (.labels .remove ["DOCS"])),
      .action (.operation (.labels .add ["docs", "Bug"]))])
  delivery := documented
  seeded := documented.seeded
  ends := by decide +kernel

def removedLast : OfflineRun where
  repository := ⟨"octo", "docs"⟩
  page _ := none
  rules := .fixed (.onOpened
    [.action (.operation (.labels .add ["docs", "Bug"])),
      .action (.operation (.labels .remove ["DOCS"]))])
  delivery := documented
  seeded := documented.seeded
  ends := by decide +kernel

/-- Whether it is removed first or last, in this spelling or that, the label `Docs` is gone. -/
theorem docs_removed_first_or_last :
    ∃ item, removedFirst.course.target = some item ∧ removedLast.course.target = some item ∧
      List.Forall₂ Item.SameLabels (removedFirst.last.store.copies item.number)
        (removedLast.last.store.copies item.number) ∧
      (removedFirst.last.store.copies item.number).map Item.labels = [["Bug"]] := by
  have first : removedFirst.course.target =
      some { Item.blank with number := 7, labels := ["Docs"] } := by decide +kernel
  have last : removedLast.course.target =
      some { Item.blank with number := 7, labels := ["Docs"] } := by decide +kernel
  have pools : removedFirst.course.pool = removedLast.course.pool := by decide +kernel
  have pooled (batch : Pool.Batch) (label : String) :
      removedFirst.course.Pooled batch label ↔ removedLast.course.Pooled batch label := by
    rw [← Course.contains_pool, ← Course.contains_pool, pools]
  refine ⟨_, first, last, ?_, by decide +kernel⟩
  exact (removedFirst.removal_of_labels_wins first).2 removedLast _ last (pooled _) (pooled _)
    (List.forall₂_same.2 fun held _ label => rfl)

/-- Of a list of people, before and after a delivery: on it are those who have been pooled, and those
who were on it and whom no write has removed. -/
def AdditionWins (batch : Pool.Batch) (removal : List String → Mutation)
    (before after : List String) : Prop :=
  ∀ login, Text.containsAsciiCase after login = true ↔
    run.course.Pooled batch login ∨
      Text.containsAsciiCase before login = true ∧
        ∀ logins, .called (.write (removal logins)) ∈ run.last.journal →
          ¬ Text.containsAsciiCase logins login = true

/-- A list of people that operations only ever cut down, and that the pool is added to at the end. -/
theorem addition_wins_of_removals (target : run.course.target = some item)
    (view : Item → List String) (batch : Pool.Batch) {removal : List String → Mutation}
    (direct : ∀ logins, (removal logins).isPooled = false)
    (numbered : ∀ logins, (removal logins).number? = some item.number)
    (injective : Function.Injective removal)
    (removes : ∀ logins held, view ((removal logins).change held) = subtract (view held) logins)
    (others : ∀ mutation ∈ run.course.writes, (∀ logins, mutation ≠ removal logins) →
      ∀ held, view (mutation.change held) = view held)
    (adds : ∀ held, view (held.after item.number
        ((run.course.pool.resolveConflicts.reportFor item).mutations item.number)) =
      merge (view held) (run.course.pool.names batch))
    (held : Item) :
    run.AdditionWins batch removal (view held) (view (held.after item.number run.course.sent)) := by
  intro login
  have noted (logins : List String) : .called (.write (removal logins)) ∈ run.last.journal ↔
      removal logins ∈ run.course.writes := run.mem_journal (direct logins)
  rw [run.after_sent target, adds, contains_merge, Course.contains_pool, or_comm,
    Item.contains_after_removals view removal numbered injective removes others]
  simp only [noted]

theorem assignees_after (target : run.course.target = some item) (held : Item) :
    run.AdditionWins .assignees (.removeAssignees item.number) held.assignees
      (held.after item.number run.course.sent).assignees := by
  refine run.addition_wins_of_removals target Item.assignees .assignees (fun _ => rfl) (fun _ => rfl)
    (fun _ _ same => (Mutation.removeAssignees.inj same).2) (fun _ _ => rfl) ?_ ?_ held
  · intro mutation written other
    refine Mutation.assignees_of_direct (run.mem_writes written).1 ?_
    rintro number logins rfl
    exact other logins (by rw [run.number_of_mem_writes target written rfl])
  · intro held
    rw [Item.after_report]
    rfl

theorem reviewers_after (target : run.course.target = some item)
    (proposed : item.isPullRequest = true) (held : Item) :
    run.AdditionWins .reviewers (.removeReviewers item.number) held.requestedReviewers
      (held.after item.number run.course.sent).requestedReviewers := by
  refine run.addition_wins_of_removals target Item.requestedReviewers .reviewers (fun _ => rfl)
    (fun _ => rfl) (fun _ _ same => (Mutation.removeReviewers.inj same).2) (fun _ _ => rfl) ?_ ?_ held
  · intro mutation written other
    refine Mutation.reviewers_of_direct (run.mem_writes written).1 ?_
    rintro number logins rfl
    exact other logins (by rw [run.number_of_mem_writes target written rfl])
  · intro held
    rw [Item.after_report, Pool.reportFor, if_pos proposed]
    rfl

theorem no_reviewers_of_issue (issue : run.course.start.isPullRequest = false) :
    run.course.report.reviewersAdded = [] ∧
      ∀ mutation ∈ run.course.sent, ∀ number logins,
        mutation ≠ .addReviewers number logins ∧ mutation ≠ .removeReviewers number logins := by
  have report : run.course.report.reviewersAdded = [] := by
    unfold Context.isPullRequest at issue
    unfold Course.report Pool.report Course.target
    cases here : run.course.start.target with
    | none => rfl
    | some item =>
        rw [here] at issue
        exact if_neg (Bool.eq_false_iff.1 issue)
  refine ⟨report, fun mutation sent number logins => ?_⟩
  rcases List.mem_append.1 sent with written | batch
  · obtain ⟨direct, onto⟩ := run.mem_writes written
    constructor
    · rintro rfl
      cases direct
    · rintro rfl
      obtain ⟨item, here, _, proposed⟩ := onto number rfl
      unfold Context.isPullRequest at issue
      rw [show run.course.start.target = some item from here, Option.any_some,
        proposed logins rfl] at issue
      cases issue
  · obtain ⟨pooled, reviewing⟩ := FlushReport.mem_batches batch
    constructor
    · rintro rfl
      exact reviewing number logins rfl report
    · rintro rfl
      cases pooled

/-- Addition of people wins in any order. An assignee afterwards is who has been pooled, or who was
one before and has not been removed; so it is with the reviewers of a pull request. Of anything else
nobody is made or unmade a reviewer. -/
theorem addition_of_people_wins :
    (∀ item, run.course.target = some item →
      List.Forall₂
          (fun before after : Item => run.AdditionWins .assignees (.removeAssignees item.number)
            before.assignees after.assignees)
          (run.seeded.copies item.number) (run.last.store.copies item.number) ∧
        (item.isPullRequest = true →
          List.Forall₂
            (fun before after : Item => run.AdditionWins .reviewers (.removeReviewers item.number)
              before.requestedReviewers after.requestedReviewers)
            (run.seeded.copies item.number) (run.last.store.copies item.number))) ∧
      (run.course.start.isPullRequest = false →
        (∀ number logins,
          .called (.write (.addReviewers number logins)) ∉ run.last.journal ∧
            .called (.write (.removeReviewers number logins)) ∉ run.last.journal) ∧
          run.outcome.operations.reviewersAdded = []) := by
  refine ⟨fun item target => ⟨?_, fun proposed => ?_⟩, fun issue => ?_⟩
  · rw [run.copies_last, List.forall₂_map_right_iff, List.forall₂_same]
    exact fun held _ => run.assignees_after target held
  · rw [run.copies_last, List.forall₂_map_right_iff, List.forall₂_same]
    exact fun held _ => run.reviewers_after target proposed held
  · obtain ⟨report, nothing⟩ := run.no_reviewers_of_issue issue
    rw [run.course_leaves.operations]
    refine ⟨fun number logins => ⟨fun noted => ?_, fun noted => ?_⟩, report⟩
    · rw [← Event.mem_writes, run.course_leaves.writes] at noted
      exact (nothing _ noted number logins).1 rfl
    · rw [← Event.mem_writes, run.course_leaves.writes] at noted
      exact (nothing _ noted number logins).2 rfl

def assigned : Delivery :=
  .opened .pullRequest "pull_request"
    [("number", .int 8),
      ("assignees", .array [.ofFields [("login", .string "Ann")], .ofFields [("login", .string "Bob")]]),
      ("requested_reviewers", .array [.ofFields [("login", .string "Cy")]])]

def reassigned : OfflineRun where
  repository := ⟨"octo", "docs"⟩
  page _ := none
  rules := .fixed (.onOpened
    [.action (.operation (.assignees .add ["bob"])),
      .action (.operation (.assignees .remove ["ann", "Bob"])),
      .action (.operation (.reviewers .set ["Dan"]))])
  delivery := assigned
  seeded := assigned.seeded
  ends := by decide +kernel

/-- Somebody who is added first and removed then is an assignee in the end. -/
theorem bob_stays_assigned :
    ∃ item, reassigned.course.target = some item ∧ item.isPullRequest = true ∧
      List.Forall₂
        (fun before after : Item =>
          reassigned.AdditionWins .reviewers (.removeReviewers item.number)
            before.requestedReviewers after.requestedReviewers)
        (reassigned.seeded.copies item.number) (reassigned.last.store.copies item.number) ∧
      (reassigned.last.store.copies item.number).map Item.assignees = [["bob"]] ∧
      (reassigned.last.store.copies item.number).map Item.requestedReviewers = [["Dan"]] := by
  have target : reassigned.course.target =
      some { Item.blank with
        number := 8
        assignees := ["Ann", "Bob"]
        requestedReviewers := ["Cy"]
        isPullRequest := true } := by decide +kernel
  obtain ⟨_, reviewing⟩ := reassigned.addition_of_people_wins.1 _ target
  exact ⟨_, target, rfl, reviewing rfl, by decide +kernel, by decide +kernel⟩

end OfflineRun

end RepoRules
