import RepoRules.Proofs.Run.EndState
import RepoRules.Proofs.Run.PoolHistory
import RepoRules.Proofs.Run.Rerun

/-!
Steps that set a list of names. What is on the list and not wanted is removed, for labels with the
batches at the end and for people at once, and what is wanted is added. If nothing else changes the
list, it holds in the end what was wanted, up to the case of ASCII letters.
-/

namespace RepoRules

open OfflineStore Text

inductive Roster where
  | labels
  | assignees
  | reviewers
deriving DecidableEq

namespace Roster

def names : Roster → Item → List String
  | .labels, item => item.labels
  | .assignees, item => item.assignees
  | .reviewers, item => item.requestedReviewers

def change? : Roster → Operation → Option (Change × List String)
  | .labels, .labels change values | .assignees, .assignees change values
  | .reviewers, .reviewers change values => some (change, values)
  | _, _ => none

def batch : Roster → Pool.Batch
  | .labels => .labelsToAdd
  | .assignees => .assignees
  | .reviewers => .reviewers

def IsOn (roster : Roster) (item : Item) : Prop :=
  roster = .reviewers → item.isPullRequest = true

end Roster

def Run.Executed.change? (step : Executed) (roster : Roster) : Option (Change × List String) :=
  (roster.change? step.operation).map fun wish => (wish.1, step.context.textsOf wish.2)

namespace Course

variable (course : Course)

def changes (roster : Roster) : List (Change × List String) :=
  course.steps.filterMap fun step => step.change? roster

/-- Names that the steps of a delivery remove from a list: labels with the batches at the end, and
people at once. -/
def Removed (roster : Roster) (number : Nat) (name : String) : Prop :=
  match roster with
  | .labels => course.Pooled .labelsToRemove name
  | .assignees => ∃ logins, .removeAssignees number logins ∈ course.writes ∧
      containsAsciiCase logins name = true
  | .reviewers => ∃ logins, .removeReviewers number logins ∈ course.writes ∧
      containsAsciiCase logins name = true

end Course

section Texts

variable {texts : List String} {name : String}

def Text.Clean (texts : List String) : Prop :=
  ∀ text ∈ texts, trim text = text ∧ text ≠ ""

instance : Decidable (Clean texts) :=
  inferInstanceAs (Decidable (∀ text ∈ texts, trim text = text ∧ text ≠ ""))

theorem Context.clean_texts (context : Context) (values : List String) :
    Clean (context.textsOf values) := by
  intro text member
  obtain ⟨found, filled⟩ := List.mem_filter.1 member
  obtain ⟨value, _, rfl⟩ := List.mem_map.1 found
  refine ⟨trim_trim _, fun empty => ?_⟩
  rw [empty] at filled
  cases filled

theorem exists_contains_add (clean : Clean texts) :
    (∃ text ∈ texts, containsAsciiCase (NameSet.add [] text) name = true) ↔
      containsAsciiCase texts name = true := by
  have single (text : String) (member : text ∈ texts) :
      containsAsciiCase (NameSet.add [] text) name = sameAsciiCase text name := by
    obtain ⟨trimmed, filled⟩ := clean text member
    simp [NameSet.add, trimmed, filled, containsAsciiCase]
  rw [containsAsciiCase_iff]
  refine exists_congr fun text => and_congr_right fun member => ?_
  rw [single text member]

end Texts

section Steps

variable {step : Run.Executed} {item : Item} {roster : Roster} {text : String}

theorem Run.Executed.mem_entries_iff (target : step.context.target = some item)
    (here : roster.IsOn item) :
    (roster.batch, text) ∈ step.entries ↔
      ∃ change names, step.change? roster = some (change, names) ∧
        text ∈ Operation.additions change names := by
  obtain ⟨operation, context⟩ := step
  simp only at target
  cases roster with
  | labels =>
      cases operation <;>
        simp [entries, Operation.entries, change?, Roster.change?, Roster.batch, target]
  | assignees =>
      cases operation <;>
        simp [entries, Operation.entries, change?, Roster.change?, Roster.batch, target]
  | reviewers =>
      have proposed : context.isPullRequest = true := by
        rw [Context.isPullRequest, target]
        exact here rfl
      cases operation <;>
        simp [entries, Operation.entries, change?, Roster.change?, Roster.batch, target, proposed]

theorem Run.Executed.mem_removals_iff (target : step.context.target = some item) :
    (.labelsToRemove, text) ∈ step.entries ↔
      ∃ change names, step.change? .labels = some (change, names) ∧
        text ∈ Run.removals change item.labels names := by
  obtain ⟨operation, context⟩ := step
  simp only at target
  cases operation <;> simp [entries, Operation.entries, change?, Roster.change?, target]

theorem Operation.mem_writes_of_target {context : Context} {operation : Operation}
    {mutation : Mutation} {number : Nat} (target : context.target = some item)
    (numbered : mutation.number? = some number) :
    mutation ∈ operation.writes context ↔ mutation ∈ operation.writesTo context item := by
  rw [writes, target, List.mem_append]
  refine or_iff_left fun project => ?_
  rw [(mem_writes_to_project project).2] at numbered
  cases numbered

theorem mem_removal_iff (removal : List String → Mutation) (injective : Function.Injective removal)
    (gone logins : List String) :
    removal logins ∈ (if gone.isEmpty then [] else [removal gone]) ↔
      logins = gone ∧ logins ≠ [] := by
  cases gone with
  | nil => simp
  | cons login rest =>
      rw [List.isEmpty_cons, if_neg Bool.false_ne_true, List.mem_singleton, injective.eq_iff]
      refine (and_iff_left_of_imp ?_).symm
      rintro rfl
      exact List.cons_ne_nil login rest

theorem Run.Executed.mem_unassigned_iff (target : step.context.target = some item)
    (logins : List String) :
    .removeAssignees item.number logins ∈ step.writes ↔
      ∃ change names, step.change? .assignees = some (change, names) ∧
        logins = Run.removals change item.assignees names ∧ logins ≠ [] := by
  obtain ⟨operation, context⟩ := step
  rw [writes, Operation.mem_writes_of_target target rfl]
  cases operation with
  | assignees change values =>
      have single := mem_removal_iff (Mutation.removeAssignees item.number)
        (fun _ _ same => (Mutation.removeAssignees.inj same).2)
        (Run.removals change item.assignees (context.textsOf values)) logins
      simpa [Operation.writesTo, change?, Roster.change?] using single
  | _ => simp [Operation.writesTo, change?, Roster.change?]

theorem Run.Executed.mem_dismissed_iff (target : step.context.target = some item)
    (proposed : item.isPullRequest = true) (logins : List String) :
    .removeReviewers item.number logins ∈ step.writes ↔
      ∃ change names, step.change? .reviewers = some (change, names) ∧
        logins = Run.removals change item.requestedReviewers names ∧ logins ≠ [] := by
  obtain ⟨operation, context⟩ := step
  rw [writes, Operation.mem_writes_of_target target rfl]
  cases operation with
  | reviewers change values =>
      have single := mem_removal_iff (Mutation.removeReviewers item.number)
        (fun _ _ same => (Mutation.removeReviewers.inj same).2)
        (Run.removals change item.requestedReviewers (context.textsOf values)) logins
      simpa [Operation.writesTo, proposed, change?, Roster.change?] using single
  | _ => simp [Operation.writesTo, change?, Roster.change?]

end Steps

namespace Course

variable {course : Course} {roster : Roster} {item : Item} {wanted : List String}

/-- What is asked of the steps that change a list is asked of the single one. -/
theorem exists_change_iff {change : Change} {names : List String}
    (single : course.changes roster = [(change, names)]) (holds : Change → List String → Prop) :
    (∃ step ∈ course.steps, ∃ change names,
      step.change? roster = some (change, names) ∧ holds change names) ↔ holds change names := by
  have found (wish : Change × List String) :
      (∃ step ∈ course.steps, step.change? roster = some wish) ↔ wish = (change, names) := by
    rw [← List.mem_singleton, ← single, changes, List.mem_filterMap]
  constructor
  · rintro ⟨step, member, other, others, wished, held⟩
    obtain ⟨rfl, rfl⟩ := Prod.mk.inj ((found (other, others)).1 ⟨step, member, wished⟩)
    exact held
  · intro held
    obtain ⟨step, member, wished⟩ := (found (change, names)).2 rfl
    exact ⟨step, member, change, names, wished, held⟩

theorem clean_of_single {change : Change} (single : course.changes roster = [(change, wanted)]) :
    Clean wanted := by
  have member : (change, wanted) ∈ course.changes roster := by
    rw [single]
    exact List.mem_singleton.2 rfl
  obtain ⟨step, _, wished⟩ := List.mem_filterMap.1 member
  obtain ⟨wish, _, same⟩ := Option.map_eq_some_iff.1 wished
  cases same
  exact step.context.clean_texts wish.2

variable (fresh : course.start.operations = .empty)
  (targets : ∀ step ∈ course.steps, step.context.target = some item)
  (single : course.changes roster = [(.set, wanted)])

include fresh in
/-- At the start nothing is pooled, so that all that is pooled are entries of steps. -/
theorem pooled_iff (batch : Pool.Batch) (name : String) :
    course.Pooled batch name ↔ ∃ step ∈ course.steps, ∃ text, (batch, text) ∈ step.entries ∧
      containsAsciiCase (NameSet.add [] text) name = true := by
  rw [Pooled, fresh]
  refine or_iff_right fun held => ?_
  cases batch <;> cases held

include fresh single in
theorem pooled_of_single (batch : Pool.Batch) (texts : Change → List String → List String)
    (entered : ∀ step ∈ course.steps, ∀ text, (batch, text) ∈ step.entries ↔
      ∃ change names, step.change? roster = some (change, names) ∧ text ∈ texts change names)
    (clean : Clean (texts .set wanted)) (name : String) :
    course.Pooled batch name ↔ containsAsciiCase (texts .set wanted) name = true := by
  rw [pooled_iff fresh, ← exists_contains_add clean]
  refine Iff.trans ?_ (exists_change_iff single fun change names =>
    ∃ text ∈ texts change names, containsAsciiCase (NameSet.add [] text) name = true)
  refine exists_congr fun step => and_congr_right fun member => ?_
  constructor
  · rintro ⟨text, pooled, same⟩
    obtain ⟨change, names, wished, named⟩ := (entered step member text).1 pooled
    exact ⟨change, names, wished, text, named, same⟩
  · rintro ⟨change, names, wished, text, named, same⟩
    exact ⟨text, (entered step member text).2 ⟨change, names, wished, named⟩, same⟩

include single in
theorem sent_of_single (current : List String) (removal : List String → Mutation)
    (sent : ∀ step ∈ course.steps, ∀ logins, removal logins ∈ step.writes ↔
      ∃ change names, step.change? roster = some (change, names) ∧
        logins = Run.removals change current names ∧ logins ≠ []) (name : String) :
    (∃ logins, removal logins ∈ course.writes ∧ containsAsciiCase logins name = true) ↔
      containsAsciiCase (subtract current wanted) name = true := by
  have asked := exists_change_iff single fun change names =>
    ∃ logins, (logins = Run.removals change current names ∧ logins ≠ []) ∧
      containsAsciiCase logins name = true
  refine Iff.trans ?_ (asked.trans ?_)
  · constructor
    · rintro ⟨logins, member, held⟩
      obtain ⟨step, ran, written⟩ := List.mem_flatMap.1 member
      obtain ⟨change, names, wished, gone⟩ := (sent step ran logins).1 written
      exact ⟨step, ran, change, names, wished, logins, gone, held⟩
    · rintro ⟨step, ran, change, names, wished, logins, gone, held⟩
      exact ⟨logins, List.mem_flatMap.2 ⟨step, ran, (sent step ran logins).2
        ⟨change, names, wished, gone⟩⟩, held⟩
  · constructor
    · rintro ⟨_, ⟨rfl, _⟩, held⟩
      exact held
    · intro held
      refine ⟨_, ⟨rfl, fun none => ?_⟩, held⟩
      change subtract current wanted = [] at none
      rw [none] at held
      cases held

include fresh targets single in
/-- What a set step wants is all that is added. -/
theorem added_of_single (here : roster.IsOn item) (name : String) :
    course.Pooled roster.batch name ↔ containsAsciiCase wanted name = true :=
  pooled_of_single fresh single roster.batch Operation.additions
    (fun step member _ => Run.Executed.mem_entries_iff (targets step member) here)
    (clean_of_single single) name

include fresh targets single in
/-- What is on the list and not wanted is all that is removed. Labels wait for their removal, and
lose the blanks around them. -/
theorem removed_of_single (here : roster.IsOn item)
    (clean : roster = .labels → Clean item.labels) (name : String) :
    course.Removed roster item.number name ↔
      containsAsciiCase (subtract (roster.names item) wanted) name = true := by
  cases roster with
  | labels =>
      have kept : Clean (subtract item.labels wanted) := fun text member =>
        clean rfl text (List.mem_filter.1 member).1
      exact pooled_of_single fresh single .labelsToRemove
        (fun change names => Run.removals change item.labels names)
        (fun step member _ => Run.Executed.mem_removals_iff (targets step member)) kept name
  | assignees =>
      exact sent_of_single single item.assignees (.removeAssignees item.number)
        (fun step member => Run.Executed.mem_unassigned_iff (targets step member)) name
  | reviewers =>
      exact sent_of_single single item.requestedReviewers (.removeReviewers item.number)
        (fun step member => Run.Executed.mem_dismissed_iff (targets step member) (here rfl)) name

end Course

def Delivery.item? (delivery : Delivery) : Option Item :=
  let shown (name : String) : Option Item :=
    (Context.objectOf delivery.payload name Item.ofJson).toOption.join
  ((shown "pull_request").map fun item => { item with isPullRequest := true }).or (shown "issue")

theorem Context.target_of_payload {delivery : Delivery} {rules : RuleDocument}
    {served : RepositoryRef} {queries : QueryEngine} {context : Context}
    (read : ofPayload delivery.kind delivery.payload rules served delivery.id queries = .ok context) :
    context.target = delivery.item? := by
  obtain ⟨issue, pullRequest, _, issues, pulls, _, rfl⟩ := exists_of_payload read
  unfold Delivery.item?
  simp only [issues, pulls]
  rfl

theorem Run.plan_of_delivered {σ : Type} {services : Services σ} {state after : RunState σ Context}
    {plan : Plan} (plain : state.context.Plain)
    (planned : (Run.plan services).run.run state = (.ok plan, after)) (first : plan.rerun = false) :
    after.context.target = state.context.target ∧
      after.context.operations = state.context.operations := by
  obtain ⟨fresh, rerun, readies, looked⟩ := plan_eq_ok plain planned
  have unasked : state.context.rerun? = none := by
    rw [← Option.isNone_iff_eq_none, ← Option.not_isSome, ← rerun, first, Bool.not_false]
  obtain rfl := readies.kept unasked
  rcases looked with ⟨_, _, context⟩ | ⟨name, remapped, _, _, _, _, context⟩
  · rw [context]
    exact ⟨rfl, rfl⟩
  · rw [context]
    exact ⟨Context.target_of_items (state.context.items_followed name remapped),
      state.context.operations_followed name remapped⟩

namespace Engine

open Effects

variable {σ : Type} {engine : Engine σ} {delivery : Delivery}

/-- The course of a delivery starts where its preparations end. -/
theorem prepared_of_course {course : Course} {store : σ}
    (found : engine.course? delivery store = some course) :
    ∃ plan ready, (engine.withServices delivery
      (prepare engine.rules engine.queries delivery)).run.run ⟨(), store, []⟩ =
        (.ok (plan, course.start), ready) := by
  unfold course? at found
  rcases ran : (engine.withServices delivery
    (Engine.course engine.rules engine.queries delivery)).run.run ⟨(), store, []⟩ with ⟨failure | value, after⟩
  · rw [ran] at found
    cases found
  · rw [ran] at found
    cases found
    obtain ⟨_, _, _, _, _, goes⟩ := with_services_eq_ok ran
    rw [goes] at ran
    obtain ⟨⟨plan, start⟩, ready, prepared, ran⟩ := run_bind_eq_ok ran
    rw [run_bind_ok (run_get _)] at ran
    obtain ⟨_, _, _, ended⟩ := run_bind_eq_ok ran
    cases ended
    exact ⟨plan, ready, (goes _).trans prepared⟩

variable {before ready last : RunState σ Unit} {client : Client σ} {repository : RepositoryRef}
  {delivered : Context} {loaded : RunState σ Unit} {plan : Plan} {start : Context}
  {outcome : Outcome}

/-- A delivery without a rerun is about what its payload shows, and begins with nothing pooled. -/
theorem Prepares.start_of_delivered
    (prepares : engine.Prepares delivery before client repository delivered loaded plan start
      ready)
    (handled : (engine.handle delivery).run.run before = (.ok outcome, last))
    (first : outcome.rerun = false) :
    start.target = delivery.item? ∧ start.operations = .empty := by
  obtain ⟨_, _, empty, plain⟩ := prepares.delivered_eq
  obtain ⟨_, payload⟩ := prepares.payload
  rw [prepares.continued] at handled
  obtain ⟨_, _, _, concluded, _⟩ := carry_out_eq_ok handled
  have same : outcome.rerun = plan.rerun := by
    obtain ⟨_, _, _, concluded⟩ := run_bind_eq_ok concluded
    cases work : plan.work with
    | none | some found =>
        rw [work] at concluded
        cases concluded
        rfl
  obtain ⟨inner, planned, rfl, _⟩ := run_within_eq_ok prepares.planned
  obtain ⟨target, operations⟩ := Run.plan_of_delivered plain planned (same.symm.trans first)
  exact ⟨target.trans (Context.target_of_payload payload), operations.trans empty⟩

end Engine

namespace OfflineRun

variable (run : OfflineRun) {roster : Roster} {item : Item} {wanted : List String}

/-- A list after a delivery: what was added is on it, and what was on it and was not removed. If
nothing is both added and removed, it makes no difference which of the two wins. -/
theorem contains_names_after (target : run.course.target = some item) (here : roster.IsOn item)
    {name : String} (apart : run.course.Removed roster item.number name →
      ¬ run.course.Pooled roster.batch name) (held : Item) :
    containsAsciiCase (roster.names (held.after item.number run.course.sent)) name = true ↔
      run.course.Pooled roster.batch name ∨
        containsAsciiCase (roster.names held) name = true ∧
          ¬ run.course.Removed roster item.number name := by
  have people (removal : List String → Mutation)
      (direct : ∀ logins, (removal logins).isPooled = false) :
      (∀ logins, .called (.write (removal logins)) ∈ run.last.journal →
          ¬ containsAsciiCase logins name = true) ↔
        ¬ ∃ logins, removal logins ∈ run.course.writes ∧ containsAsciiCase logins name = true := by
    rw [not_exists]
    refine forall_congr' fun logins => ?_
    rw [run.mem_journal (direct logins), not_and]
  cases roster with
  | labels =>
      refine (run.has_label_after target held name).trans ?_
      change ¬ run.course.Removed .labels item.number name ∧
        (containsAsciiCase held.labels name = true ∨
          run.course.Pooled Roster.labels.batch name) ↔
        run.course.Pooled Roster.labels.batch name ∨
          containsAsciiCase held.labels name = true ∧
            ¬ run.course.Removed .labels item.number name
      -- here the removal would win, and below the addition, if there were both
      tauto
  | assignees =>
      exact (run.assignees_after target held name).trans (or_congr_right (and_congr_right fun _ =>
        people (.removeAssignees item.number) fun _ => rfl))
  | reviewers =>
      exact (run.reviewers_after target (here rfl) held name).trans (or_congr_right
        (and_congr_right fun _ => people (.removeReviewers item.number) fun _ => rfl))

theorem start_of_delivered (first : run.outcome.rerun = false) :
    run.course.target = run.delivery.item? ∧ run.course.start.operations = .empty := by
  have found : (Engine.fixed (client run.repository) run.page run.rules run.queries).course?
      run.delivery run.seeded = some run.course := (Option.some_get run.course_is_some).symm
  obtain ⟨plan, ready, prepared⟩ := Engine.prepared_of_course found
  obtain ⟨_, _, _, _, prepares⟩ := Engine.exists_prepares prepared
  exact prepares.start_of_delivered run.handle_eq_ok first

/-- In a delivery without a rerun a single step changes a list, and sets it. Then every stored item
that had the list as it was delivered has the names that the step wants, and no others, up to the
case of ASCII letters. Labels are delivered without blanks around them. -/
theorem single_set_step_leaves_wanted (first : run.outcome.rerun = false)
    (shown : run.delivery.item? = some item) (here : roster.IsOn item)
    (clean : roster = .labels → Clean item.labels)
    (single : run.course.changes roster = [(.set, wanted)]) :
    List.Forall₂
      (fun before after : Item => roster.names before = roster.names item →
        ∀ name, containsAsciiCase (roster.names after) name = containsAsciiCase wanted name)
      (run.seeded.copies item.number) (run.last.store.copies item.number) := by
  obtain ⟨target, fresh⟩ := run.start_of_delivered first
  rw [shown] at target
  have targets (step : Run.Executed) (member : step ∈ run.course.steps) :
      step.context.target = some item := (run.course_leaves.targets step member).trans target
  rw [run.copies_last, List.forall₂_map_right_iff, List.forall₂_same]
  intro held _ same name
  have added := run.course.added_of_single fresh targets single here name
  have removed := run.course.removed_of_single fresh targets single here clean name
  rw [contains_subtract] at removed
  rw [Bool.eq_iff_iff, run.contains_names_after target here (fun gone wish => ?apart) held, added,
    removed, same]
  · tauto
  case apart => exact (removed.1 gone).2 (added.1 wish)

def bugAndDocs : Delivery :=
  let label (name : String) : Json := .ofFields [("name", .string name)]
  .opened .issues "issue"
    [("number", .int 7), ("labels", .array [label "Bug", label "docs"])]

def relabeled : OfflineRun where
  repository := ⟨"octo", "docs"⟩
  page _ := none
  rules := .fixed (.onOpened [.action (.operation (.labels .set ["BUG", " triage ", ""]))])
  delivery := bugAndDocs
  seeded := bugAndDocs.seeded
  ends := by decide +kernel

/-- The label that is wanted in another spelling stays as it is. -/
theorem bug_stays_and_docs_goes :
    ∃ before after, relabeled.seeded.copies 7 = [before] ∧ relabeled.last.store.copies 7 = [after] ∧
      before.labels = ["Bug", "docs"] ∧ after.labels = ["Bug", "triage"] ∧
      ∀ name, containsAsciiCase after.labels name = containsAsciiCase ["BUG", "triage"] name := by
  let issue : Item := { Item.blank with number := 7, labels := ["Bug", "docs"] }
  have shown : relabeled.delivery.item? = some issue := by decide +kernel
  have single : relabeled.course.changes .labels = [(.set, ["BUG", "triage"])] := by decide +kernel
  have here : Roster.labels.IsOn issue := nofun
  have trimmed : Clean issue.labels := by decide +kernel
  have left := relabeled.single_set_step_leaves_wanted (by decide +kernel) shown here
    (fun _ => trimmed) single
  have before : relabeled.seeded.copies 7 = [issue] := by decide +kernel
  have after : relabeled.last.store.copies 7 = [{ issue with labels := ["Bug", "triage"] }] := by
    decide +kernel
  change List.Forall₂ _ (relabeled.seeded.copies 7) (relabeled.last.store.copies 7) at left
  rw [before, after, List.forall₂_cons] at left
  exact ⟨_, _, before, after, rfl, rfl, left.1 rfl⟩

end OfflineRun

end RepoRules
