import Mathlib
import RepoRules.Proofs.Rest.Pages

/-!
How a milestone is set. Its title is looked up page by page: the first milestone of that title
decides, no page behind it is asked for, and if there is none among the first thousand nothing is
written. To take the milestone off nothing is looked up.
-/

namespace RepoRules.Rest.Api

variable {τ : Type}

/-- An object that shows the number and the title of a milestone, whatever else it holds. -/
def IsMilestone (item : Json.Written) (entry : Nat × String) : Prop :=
  ∃ entries, item = .object entries ∧ Decode.Named entries ∧
    Decode.Stands entries "number" (.int entry.1) ∧
    Decode.Stands entries "title" (.string entry.2)

def numberField : Decode.RecordField (Nat × String) :=
  ⟨"number", .required, fun entry value => return (← Decode.natural value, entry.2)⟩

def titleField : Decode.RecordField (Nat × String) :=
  ⟨"title", .required, fun entry value => return (entry.1, ← Decode.text value)⟩

theorem milestone_eq_ok {item : Json.Written} {entry : Nat × String}
    (shown : IsMilestone item entry) : milestone item = .ok entry := by
  obtain ⟨entries, rfl, named, number, title⟩ := shown
  change Decode.Stands entries numberField.name (.int entry.1) at number
  change Decode.Stands entries titleField.name (.string entry.2) at title
  obtain ⟨result, read⟩ : ∃ result, milestone (.object entries) = .ok result := by
    apply Decode.exists_record_of "GithubMilestone" (0, "") named
    rw [List.forall_mem_cons, List.forall_mem_singleton]
    exact ⟨⟨_, number, fun before => ⟨(entry.1, before.2), rfl⟩⟩,
      ⟨_, title, fun before => ⟨(before.1, entry.2), rfl⟩⟩⟩
  have numbered : result.1 = entry.1 := by
    apply Decode.view_of_stands read rfl number Prod.fst
    · intro before after entered
      cases entered
      rfl
    · rw [List.forall_mem_cons, List.forall_mem_singleton]
      refine ⟨fun differs => absurd rfl differs, fun _ before value after entered => ?_⟩
      obtain ⟨text, _, entered⟩ := bind_eq_ok entered
      cases entered
      rfl
  have titled : result.2 = entry.2 := by
    apply Decode.view_of_stands read rfl title Prod.snd
    · intro before after entered
      cases entered
      rfl
    · rw [List.forall_mem_cons, List.forall_mem_singleton]
      refine ⟨fun _ before value after entered => ?_, fun differs => absurd rfl differs⟩
      obtain ⟨found, _, entered⟩ := bind_eq_ok entered
      cases entered
      rfl
  exact read.trans (congrArg Except.ok (Prod.ext numbered titled))

section Choice

variable {title : String}

def isTitled (title : String) (entry : Nat × String) : Bool :=
  Text.sameAsciiCase entry.2 title

/-- A page that has a milestone of the title, or that is not full, is the last one. -/
def settlesTitle (title : String) (batch : List (Nat × String)) : Bool :=
  batch.any (isTitled title) || decide (batch.length < pageSize)

def chosen (api : Api τ) (title : String) (milestones : List (Nat × String)) :
    Except Failure Nat :=
  match milestones.find? (isTitled title) with
  | some entry => .ok entry.1
  | none => .error (api.noMilestone title)

theorem chosen_of_some (api : Api τ) {milestones : List (Nat × String)} {entry : Nat × String}
    (found : milestones.find? (isTitled title) = some entry) :
    api.chosen title milestones = .ok entry.1 := by
  rw [chosen, found]

theorem chosen_of_none (api : Api τ) {milestones : List (Nat × String)}
    (missing : milestones.find? (isTitled title) = none) :
    api.chosen title milestones = .error (api.noMilestone title) := by
  rw [chosen, missing]

theorem chosen_append (api : Api τ) {early : List (Nat × String)}
    (missing : early.find? (isTitled title) = none) (late : List (Nat × String)) :
    api.chosen title (early ++ late) = api.chosen title late := by
  rw [chosen, List.find?_append, missing, Option.none_or, chosen]

end Choice

section Lookup

variable (api : Api τ)

/-- The number is that of the milestone chosen from the pages to the last one. -/
theorem milestone_from_eq_pages (title : String) (remaining start : Nat) :
    api.milestoneFrom title remaining start =
      (api.pagesFrom ["milestones"] [("state", "all")] milestone (settlesTitle title) remaining
        start >>= fun batches => liftResult (api.chosen title batches.flatten)) := by
  induction remaining generalizing start with
  | zero => rfl
  | succ remaining induction =>
      rw [milestoneFrom, pagesFrom, bind_assoc]
      congr 1
      funext batch
      cases found : batch.find? fun entry => Text.sameAsciiCase entry.2 title with
      | some entry =>
          have settled : settlesTitle title batch = true := by
            have some_titled : batch.any (isTitled title) = true :=
              List.any_eq_true.2 ⟨entry, List.mem_of_find?_eq_some found, List.find?_some found⟩
            simp [settlesTitle, some_titled]
          rw [if_pos settled, pure_bind, List.flatten_singleton, api.chosen_of_some found]
          rfl
      | none =>
          have none_titled : batch.any (isTitled title) = false := by
            simpa [isTitled] using List.find?_eq_none.1 found
          by_cases short : batch.length < pageSize
          · have settled : settlesTitle title batch = true := by simp [settlesTitle, short]
            dsimp only
            rw [if_pos short, if_pos settled, pure_bind, List.flatten_singleton,
              api.chosen_of_none found]
            rfl
          · have more : settlesTitle title batch = false := by
              simp [settlesTitle, none_titled, short]
            dsimp only
            rw [if_neg short, more, if_neg Bool.false_ne_true, bind_assoc, induction]
            simp only [pure_bind, List.flatten_cons, api.chosen_append found]

def lookedUp (title : String) (lookups : List Sent) : Except Failure Nat :=
  collected (received milestone) lookups >>= fun batches => api.chosen title batches.flatten

def milestonesRequest (names : List String) : Nat → Request :=
  api.pageRequest names ["milestones"] [("state", "all")]

def milestoneRequest (names : List String) (number : Nat) (value : Json) : Request :=
  api.request .patch (api.addressOf names ["issues", toString number]) jsonAccept
    (some (Json.ofFields [("milestone", value)]))

end Lookup

section Runs

variable (api : Api τ) {names : List String} (divided : api.base.path = .segments names)

theorem set_milestone_of_title (number : Nat) (title : String) :
    api.setMilestone number (some title) = (do
      let found ← api.milestoneNumber title
      api.writeTo .patch ["issues", toString number]
        (Json.ofFields [("milestone", .int found)])) := by
  rw [setMilestone]
  simp

include divided

theorem run_milestone_number (title : String) (state : τ) :
    ∃ after lookups,
      (api.milestoneNumber title).run.run state = (api.lookedUp title lookups, after) ∧
      (api.recording.milestoneNumber title).run.run (state, []) =
        (api.lookedUp title lookups, (after, lookups)) ∧
      Turns api.transport (api.milestonesRequest names) (received milestone) (settlesTitle title)
        milestonePages 1 lookups := by
  obtain ⟨after, lookups, runs, records, turns⟩ := api.run_pages_from ["milestones"]
    [("state", "all")] milestone (settlesTitle title) divided milestonePages 1 state []
  rw [List.nil_append] at records
  rw [milestoneNumber, milestoneNumber, milestone_from_eq_pages, milestone_from_eq_pages,
    run_bind_lift, run_bind_lift, runs, records]
  exact ⟨after, lookups, rfl, rfl, turns⟩

theorem run_set_milestone (number : Nat) (title : String) (state : τ) :
    ∃ result after lookups writes,
      (api.setMilestone number (some title)).run.run state = (result, after) ∧
      (api.recording.setMilestone number (some title)).run.run (state, []) =
        (result, (after, lookups ++ writes)) ∧
      Turns api.transport (api.milestonesRequest names) (received milestone) (settlesTitle title)
        milestonePages 1 lookups ∧
      (∀ found, api.lookedUp title lookups = .ok found →
        ∃ answer, writes = [(api.milestoneRequest names number (.int found), answer)] ∧
          result = (judged answer).map fun _ => ()) ∧
      ∀ failure, api.lookedUp title lookups = .error failure →
        writes = [] ∧ result = .error failure := by
  obtain ⟨middle, lookups, runs, records, turns⟩ := api.run_milestone_number divided title state
  rw [set_milestone_of_title, set_milestone_of_title, run_bind, run_bind, runs, records]
  cases numbered : api.lookedUp title lookups with
  | error failure =>
      refine ⟨.error failure, middle, lookups, [], rfl, by rw [List.append_nil], turns, ?_, ?_⟩
      · intro found same
        rw [numbered] at same
        cases same
      · intro other same
        rw [numbered] at same
        cases same
        exact ⟨rfl, rfl⟩
  | ok found =>
      obtain ⟨answer, after, sending⟩ : ∃ answer after, api.transport.send
          (api.milestoneRequest names number (.int found)) middle = (answer, after) :=
        ⟨_, _, rfl⟩
      have written := api.run_write_to divided sending
      have recorded := api.recording.run_write_to divided
        (Transport.send_recording sending lookups)
      refine ⟨_, after, lookups, [(api.milestoneRequest names number (.int found), answer)], written,
        recorded, turns, ?_, ?_⟩
      · intro other same
        rw [numbered] at same
        cases same
        exact ⟨answer, rfl, rfl⟩
      · intro failure same
        rw [numbered] at same
        cases same

theorem run_clear_milestone (number : Nat) (state : τ) :
    ∃ answer after,
      (api.setMilestone number none).run.run state = ((judged answer).map fun _ => (), after) ∧
      (api.recording.setMilestone number none).run.run (state, []) =
        ((judged answer).map fun _ => (),
          (after, [(api.milestoneRequest names number .null, answer)])) := by
  obtain ⟨answer, after, sending⟩ : ∃ answer after, api.transport.send
      (api.milestoneRequest names number .null) state = (answer, after) := ⟨_, _, rfl⟩
  exact ⟨answer, after, api.run_write_to divided sending,
    api.recording.run_write_to divided (Transport.send_recording sending [])⟩

end Runs

section Search

variable {milestones : List (Nat × String)} {title : String} {count : Nat} (positive : 0 < count)
  (earlier : ∀ number, 0 < number → number < count →
    settlesTitle title (page milestones number) = false)

include positive earlier

/-- What the pages in front do not hold is found on the last one or not at all. -/
theorem find_on_last_page :
    (milestones.take (pageSize * count)).find? (isTitled title) =
      (page milestones count).find? (isTitled title) := by
  obtain ⟨before, rfl⟩ : ∃ before, count = before + 1 := ⟨count - 1, by omega⟩
  have apart : milestones.take (pageSize * (before + 1)) =
      milestones.take (pageSize * before) ++ page milestones (before + 1) := by
    simp [page, Nat.mul_succ, List.take_add]
  have missing : (milestones.take (pageSize * before)).find? (isTitled title) = none := by
    rw [← flatten_pages, List.find?_eq_none]
    intro entry member
    obtain ⟨_, listed, inside⟩ := List.mem_flatten.1 member
    obtain ⟨number, within, rfl⟩ := List.mem_map.1 listed
    rw [List.mem_range'_1] at within
    have more := earlier number (by omega) (by omega)
    rw [settlesTitle, Bool.or_eq_false_iff, List.any_eq_false] at more
    exact more.1 entry inside
  rw [apart, List.find?_append, missing, Option.none_or]

/-- The pages behind the last one do not matter, and neither does what stands behind a thousand
milestones. -/
theorem find_in_first_thousand (few : count ≤ milestonePages)
    (ends : count = milestonePages ∨ settlesTitle title (page milestones count) = true) :
    (milestones.take 1000).find? (isTitled title) =
      (page milestones count).find? (isTitled title) := by
  have most : pageSize * count ≤ 1000 := Nat.mul_le_mul_left pageSize few
  rw [← find_on_last_page positive earlier]
  rcases ends with rfl | settled
  · rfl
  · rw [settlesTitle, Bool.or_eq_true, decide_eq_true_eq] at settled
    rcases settled with held | short
    · have found : ((milestones.take (pageSize * count)).find? (isTitled title)).isSome = true := by
        rw [find_on_last_page positive earlier, List.find?_isSome]
        simpa using held
      have onward : milestones.take 1000 = milestones.take (pageSize * count) ++
          (milestones.drop (pageSize * count)).take (1000 - pageSize * count) := by
        rw [← List.take_add, Nat.add_sub_cancel' most]
      rw [onward, List.find?_append, Option.or_of_isSome found]
    · have all : milestones.length ≤ pageSize * count := by
        rw [page_length] at short
        simp only [pageSize] at short ⊢
        omega
      rw [List.take_of_length_le all, List.take_of_length_le (all.trans most)]

end Search

/-- How the milestone of a title is looked up: the pages in order, each once, and no more behind one
that fails. Its failure is that of all, and nothing is written. -/
structure LooksUpTitle (api : Api τ) (names : List String) (lookups writes : List Sent)
    (result : Except Failure Unit) : Prop where
  asks : lookups.map Prod.fst =
    (List.range' 1 lookups.length).map (api.milestonesRequest names)
  begins : lookups ≠ []
  bounded : lookups.length ≤ 10
  fails : ∀ sent ∈ lookups, ∀ failure, received milestone sent.2 = .error failure →
    writes = [] ∧ result = .error failure ∧ lookups.getLast? = some sent

/-- How the milestone of an item is set by its title, where a list of milestones is served in
pages. -/
structure SetsMilestone (api : Api τ) (names : List String) (number : Nat) (title : String)
    (milestones : List (Nat × String)) (lookups writes : List Sent) (result : Except Failure Unit) :
    Prop where
  /-- A page is received whenever its request succeeds. -/
  receives : ∀ place sent, lookups[place]? = some sent → sent.Succeeded →
    received milestone sent.2 = .ok (page milestones (1 + place))
  /-- Pages in front of the last one are full, and have no milestone of the title. -/
  goesOn : ∀ earlier, 0 < earlier → earlier < lookups.length →
    (page milestones earlier).length = 100 ∧
      (page milestones earlier).find? (isTitled title) = none
  /-- If there is one among the first thousand, the first is on the last page, and it is set. -/
  sets : (∀ sent ∈ lookups, sent.Succeeded) → ∀ entry,
    (milestones.take 1000).find? (isTitled title) = some entry →
      (page milestones lookups.length).find? (isTitled title) = some entry ∧
      ∃ answer, writes = [(api.milestoneRequest names number (.int entry.1), answer)] ∧
        result = (judged answer).map fun _ => ()
  misses : (∀ sent ∈ lookups, sent.Succeeded) →
    (milestones.take 1000).find? (isTitled title) = none →
      writes = [] ∧ result = .error (api.noMilestone title) ∧
      (api.noMilestone title).code = .named "GH-MILESTONE" ∧
      (lookups.length = 10 ∨ (page milestones lookups.length).length < 100)

theorem milestone_is_first_of_title (api : Api τ) {names : List String}
    (divided : api.base.path = .segments names) (number : Nat) (state : τ) :
    (∀ title, ∃ result after lookups writes,
      (api.setMilestone number (some title)).run.run state = (result, after) ∧
      (api.recording.setMilestone number (some title)).run.run (state, []) =
        (result, (after, lookups ++ writes)) ∧
      api.LooksUpTitle names lookups writes result ∧
      ∀ milestones, api.transport.Serves (api.milestonesRequest names) IsMilestone milestones →
        api.SetsMilestone names number title milestones lookups writes result) ∧
    ∃ answer after,
      (api.setMilestone number none).run.run state = ((judged answer).map fun _ => (), after) ∧
      (api.recording.setMilestone number none).run.run (state, []) =
        ((judged answer).map fun _ => (),
          (after, [(api.milestoneRequest names number .null, answer)])) := by
  refine ⟨fun title => ?_, api.run_clear_milestone divided number state⟩
  obtain ⟨result, after, lookups, writes, runs, records, turns, written, unwritten⟩ :=
    api.run_set_milestone divided number title state
  have begins : 0 < lookups.length := List.length_pos_iff.2 turns.begins
  have bounded : lookups.length ≤ milestonePages := turns.bounded
  refine ⟨result, after, lookups, writes, runs, records,
    ⟨turns.requests, turns.begins, bounded, ?_⟩, ?_⟩
  · intro sent member failure refused
    obtain ⟨ended, last⟩ := turns.fails member refused
    obtain ⟨nothing, failed⟩ := unwritten failure (by rw [lookedUp, ended]; rfl)
    exact ⟨nothing, failed, last⟩
  intro milestones serves
  have gives := serves.gives fun item entry => milestone_eq_ok
  have earlier (early : Nat) (positive : 0 < early) (inside : early < lookups.length) :
      settlesTitle title (page milestones early) = false :=
    turns.earlier gives Nat.one_pos positive (by omega)
  have in_thousand (succeeded : ∀ sent ∈ lookups, sent.Succeeded) :
      (milestones.take 1000).find? (isTitled title) =
        (page milestones lookups.length).find? (isTitled title) := by
    have ends := turns.ends gives Nat.one_pos succeeded
    rw [Nat.add_sub_cancel_left] at ends
    exact find_in_first_thousand begins earlier bounded ends
  have looked (succeeded : ∀ sent ∈ lookups, sent.Succeeded) :
      api.lookedUp title lookups = api.chosen title (page milestones lookups.length) := by
    rw [lookedUp, turns.received gives Nat.one_pos succeeded]
    change api.chosen title ((List.range' 1 lookups.length).map (page milestones)).flatten = _
    rw [flatten_pages, chosen, find_on_last_page begins earlier, chosen]
  refine ⟨fun place sent found => turns.receives gives Nat.one_pos found, ?_, ?_, ?_⟩
  · intro early positive inside
    have more := earlier early positive inside
    have most := page_length milestones early
    rw [settlesTitle, Bool.or_eq_false_iff, List.any_eq_false, decide_eq_false_iff_not] at more
    refine ⟨?_, List.find?_eq_none.2 more.1⟩
    have least := more.2
    simp only [pageSize] at most least
    omega
  · intro succeeded entry found
    rw [in_thousand succeeded] at found
    rw [looked succeeded, api.chosen_of_some found] at written
    exact ⟨found, written entry.1 rfl⟩
  · intro succeeded missing
    rw [in_thousand succeeded] at missing
    rw [looked succeeded, api.chosen_of_none missing] at unwritten
    obtain ⟨nothing, failed⟩ := unwritten _ rfl
    refine ⟨nothing, failed, rfl, (turns.ends gives Nat.one_pos succeeded).imp_right ?_⟩
    intro settled
    rw [Nat.add_sub_cancel_left, settlesTitle, Bool.or_eq_true, decide_eq_true_eq] at settled
    refine settled.resolve_left ?_
    simpa using List.find?_eq_none.1 missing

def servingMilestones : Api Unit where
  transport := .showing "state=all&per_page=100&page="
    "[\x7b\"number\": 1, \"title\": \"Old\"\x7d, \x7b\"number\": 4, \"title\": \"June\"\x7d, \x7b\"number\": 5, \"title\": \"june\"\x7d]"
  base := granting.base
  token := granting.token
  repository := granting.repository

theorem serves_three_milestones : servingMilestones.transport.Serves
    (servingMilestones.milestonesRequest [""]) IsMilestone
    [(1, "Old"), (4, "June"), (5, "june")] := by
  let shown (number : Nat) (title : String) : Json.Written :=
    .object [(some "number", .number (some (.int number))), (some "title", .string (some title))]
  have shows (number : Nat) (title : String) : IsMilestone (shown number title) (number, title) := by
    refine ⟨_, rfl, by simp [Decode.Named], ⟨by simp, ?_⟩, ⟨by simp, ?_⟩⟩
    · simp [Json.Written.value?, Json.Written.valueWithin?, Json.Number.toJson]
    · simp [Json.Written.value?, Json.Written.valueWithin?]
  have each : List.Forall₂ IsMilestone [shown 1 "Old", shown 4 "June", shown 5 "june"]
      [(1, "Old"), (4, "June"), (5, "june")] :=
    .cons (shows _ _) (.cons (shows _ _) (.cons (shows _ _) .nil))
  apply Transport.showing_serves (fun number => rfl) _ each (by decide)
  cbv

theorem fourth_milestone_is_set :
    servingMilestones.base.path = .segments [""] ∧
      servingMilestones.transport.Serves (servingMilestones.milestonesRequest [""]) IsMilestone
        [(1, "Old"), (4, "June"), (5, "june")] ∧
      (∃ after lookups answer,
        (servingMilestones.recording.setMilestone 7 (some "JUNE")).run.run ((), []) = (.ok (),
          (after, lookups ++ [(servingMilestones.milestoneRequest [""] 7 (.int 4), answer)]))) ∧
      ∃ after answer,
        (servingMilestones.recording.setMilestone 7 none).run.run ((), []) = (.ok (),
          (after, [(servingMilestones.milestoneRequest [""] 7 .null, answer)])) := by
  refine ⟨rfl, serves_three_milestones, ?_⟩
  obtain ⟨of_title, answer, after, runs, records⟩ :=
    milestone_is_first_of_title servingMilestones rfl 7 ()
  constructor
  · obtain ⟨result, after, lookups, writes, runs, records, looks, sets⟩ := of_title "JUNE"
    have done : ((servingMilestones.setMilestone 7 (some "JUNE")).run.run ()).1.toOption =
        some () := by decide +kernel
    rw [runs] at done
    obtain rfl := to_option_eq_some done
    have succeeded : ∀ sent ∈ lookups, sent.Succeeded := by
      intro sent member
      cases came : received milestone sent.2 with
      | ok batch => exact Sent.succeeded_of_received came
      | error failure => cases (looks.fails sent member failure came).2.1
    obtain ⟨_, answer, rfl, _⟩ :=
      (sets _ serves_three_milestones).sets succeeded (4, "June") (by decide +kernel)
    exact ⟨after, lookups, answer, records⟩
  · have done : ((servingMilestones.setMilestone 7 none).run.run ()).1.toOption = some () := by
      decide +kernel
    rw [runs] at done
    have passed : (judged answer).map (fun _ => ()) = .ok () := to_option_eq_some done
    rw [passed] at records
    exact ⟨after, answer, records⟩

end RepoRules.Rest.Api
