import RepoRules.Proofs.Repository.Replay

/-!
Writes to a repository in memory that are made again. A write that has just been made changes
nothing when it is made once more, and what is stored can be had from what was seeded by making the
writes of the log in order. An item that is stored twice, as an issue and as a pull request, takes
every write in both copies: what they had in common they keep in common.
-/

namespace RepoRules

namespace OfflineStore

open Text

theorem merge_of_contained {current values : List String}
    (contained : ∀ value ∈ values, containsAsciiCase current value = true) :
    merge current values = current := by
  induction values with
  | nil => rfl
  | cons value rest induction =>
      obtain ⟨first, others⟩ := List.forall_mem_cons.1 contained
      rw [merge, List.foldl_cons, if_pos first]
      exact induction others

theorem merge_merge (current values : List String) :
    merge (merge current values) values = merge current values := by
  apply merge_of_contained
  intro value member
  rw [contains_merge]
  exact .inr (containsAsciiCase_iff.2 ⟨value, member, sameAsciiCase_refl value⟩)

theorem subtract_subtract (current values : List String) :
    subtract (subtract current values) values = subtract current values := by
  rw [subtract, subtract, List.filter_filter]
  simp only [Bool.and_self]

end OfflineStore

namespace Mutation

open OfflineStore

theorem change_change (mutation : Mutation) (item : Item) :
    mutation.change (mutation.change item) = mutation.change item := by
  cases mutation with
  | addLabels | addAssignees | addReviewers => simp only [change, merge_merge]
  | removeLabels | removeAssignees | removeReviewers => simp only [change, subtract_subtract]
  | setMilestone => rfl
  | postComment | addToProject | removeFromProject => rfl

end Mutation

/-- Two copies of an item are alike in all that writes can change. -/
structure Item.Alike (item other : Item) : Prop where
  labels : item.labels = other.labels
  assignees : item.assignees = other.assignees
  reviewers : item.requestedReviewers = other.requestedReviewers
  milestone : item.milestone = other.milestone

theorem Item.Alike.change {item other : Item} (alike : item.Alike other) (mutation : Mutation) :
    (mutation.change item).Alike (mutation.change other) := by
  obtain ⟨labels, assignees, reviewers, milestone⟩ := alike
  cases mutation with
  | addLabels number names | removeLabels number names =>
      exact ⟨by simp only [Mutation.change, labels], assignees, reviewers, milestone⟩
  | addAssignees number names | removeAssignees number names =>
      exact ⟨labels, by simp only [Mutation.change, assignees], reviewers, milestone⟩
  | addReviewers number names | removeReviewers number names =>
      exact ⟨labels, assignees, by simp only [Mutation.change, reviewers], milestone⟩
  | setMilestone number title => exact ⟨labels, assignees, reviewers, rfl⟩
  | postComment | addToProject | removeFromProject =>
      exact ⟨labels, assignees, reviewers, milestone⟩

theorem Item.Alike.after {item other : Item} (alike : item.Alike other) (number : Nat)
    (mutations : List Mutation) :
    (item.after number mutations).Alike (other.after number mutations) := by
  induction mutations generalizing item other with
  | nil => exact alike
  | cons mutation rest induction =>
      rw [after_cons, after_cons]
      by_cases own : mutation.number? = some number
      · rw [if_pos own, if_pos own]
        exact induction (alike.change mutation)
      · rw [if_neg own, if_neg own]
        exact induction alike

def Call.write? : Call → Option Mutation
  | .write mutation => some mutation
  | .rulesFile _ | .issue _ | .pullRequest _ | .comment _ | .changedFiles _ => none

def Call.writes (calls : List Call) : List Mutation :=
  calls.filterMap Call.write?

def Client.after {σ : Type} (client : Client σ) (calls : List Call) (state : σ) : σ :=
  calls.foldl (fun state call => (client.answer call state).2) state

namespace OfflineStore

section Repeating

variable {α : Type}

theorem adjust_adjust {change : α → α} (settled : ∀ held, change (change held) = change held)
    (number : Nat) (table : List (Nat × α)) :
    adjust number change (adjust number change table) = adjust number change table := by
  rw [adjust, adjust, List.map_map]
  refine List.map_congr_left fun entry _ => ?_
  by_cases own : entry.1 = number
  · simp only [Function.comp_apply, if_pos own, settled]
  · simp only [Function.comp_apply, if_neg own]

theorem apply_apply (store : OfflineStore) (mutation : Mutation) :
    (store.apply mutation).apply mutation = store.apply mutation := by
  cases numbered : mutation.number? with
  | none => simp only [apply, numbered]
  | some number => simp only [apply, numbered, adjust_adjust mutation.change_change]

end Repeating

/-- What is stored, with no writes noted. -/
def contents (store : OfflineStore) : OfflineStore :=
  { store with log := [] }

theorem contents_apply (store : OfflineStore) (mutation : Mutation) :
    (store.apply mutation).contents = store.contents.apply mutation := by
  unfold apply contents
  cases mutation.number? with
  | none => rfl
  | some number => rfl

theorem contents_record (store : OfflineStore) (mutation : Mutation) :
    (store.record mutation).contents = store.contents.apply mutation :=
  contents_apply store mutation

theorem contents_replay (store : OfflineStore) (mutations : List Mutation) :
    (store.replay mutations).contents = mutations.foldl apply store.contents := by
  induction mutations generalizing store with
  | nil => rfl
  | cons mutation rest induction =>
      rw [replay, List.foldl_cons, ← replay, induction, contents_record, List.foldl_cons]

theorem log_replay (store : OfflineStore) (mutations : List Mutation) :
    (store.replay mutations).log = store.log ++ mutations := by
  induction mutations generalizing store with
  | nil => exact (List.append_nil _).symm
  | cons mutation rest induction =>
      rw [replay, List.foldl_cons, ← replay, induction, log_record, List.append_assoc]
      rfl

/-- Calls leave what their writes make of the repository; the others only read. -/
theorem after_eq_replay (repository : RepositoryRef) (calls : List Call) (store : OfflineStore) :
    (client repository).after calls store = store.replay (Call.writes calls) := by
  induction calls generalizing store with
  | nil => rfl
  | cons call rest induction =>
      rw [Client.after, List.foldl_cons, ← Client.after, induction]
      cases call with
      | write mutation => rfl
      | rulesFile | issue | pullRequest | comment | changedFiles => rfl

section Copies

variable {store : OfflineStore} {number : Nat} {issue pull : Item}

/-- Copies that are alike stay alike, whatever is written. -/
theorem alike_replay (issued : store.issues.lookup number = some issue)
    (pulled : store.pulls.lookup number = some pull) (alike : issue.Alike pull)
    (mutations : List Mutation) :
    ∃ laterIssue laterPull,
      (store.replay mutations).issues.lookup number = some laterIssue ∧
        (store.replay mutations).pulls.lookup number = some laterPull ∧
        laterIssue.Alike laterPull := by
  obtain ⟨issues, pulls⟩ := store.lookup_replay mutations number
  rw [issued, Option.map_some] at issues
  rw [pulled, Option.map_some] at pulls
  exact ⟨_, _, issues, pulls, alike.after number mutations⟩

end Copies

/-- A write that is made twice in a row leaves what it leaves when it is made once. After any calls
the log holds their writes, and what is stored is what the log, made again in order, makes of what
was stored at the start. Two copies of one item that are alike at the start are alike after all. -/
theorem writes_can_be_repeated (repository : RepositoryRef) (store : OfflineStore) :
    (∀ mutation, (store.apply mutation).apply mutation = store.apply mutation) ∧
      (∀ earlier later mutation,
        (store.replay (earlier ++ mutation :: mutation :: later)).contents =
          (store.replay (earlier ++ mutation :: later)).contents) ∧
      ∀ calls,
        let after := (client repository).after calls store.contents
        after.log = Call.writes calls ∧
          after.contents = after.log.foldl apply store.contents ∧
          ∀ number issue pull, store.issues.lookup number = some issue →
            store.pulls.lookup number = some pull → issue.Alike pull →
              ∃ laterIssue laterPull, after.issues.lookup number = some laterIssue ∧
                after.pulls.lookup number = some laterPull ∧ laterIssue.Alike laterPull := by
  refine ⟨store.apply_apply, ?_, fun calls => ?_⟩
  · intro earlier later mutation
    rw [contents_replay, contents_replay, List.foldl_append, List.foldl_append, List.foldl_cons,
      List.foldl_cons, List.foldl_cons, apply_apply]
  · have log : (store.contents.replay (Call.writes calls)).log = Call.writes calls :=
      log_replay store.contents (Call.writes calls)
    dsimp only
    rw [after_eq_replay, contents_replay, log]
    refine ⟨rfl, rfl, ?_⟩
    intro number issue pull issued pulled alike
    exact @alike_replay store.contents number issue pull issued pulled alike (Call.writes calls)

def spelledTwice : OfflineStore :=
  let issue := { Item.blank with number := 7, labels := ["Bug", "bug"] }
  { empty with
    issues := [(7, issue)]
    pulls := [(7, { issue with title := "Pull request", isPullRequest := true })] }

def repeatedCalls : List Call :=
  [.write (.removeLabels 7 ["DOCS"]), .write (.addLabels 7 ["BUG", "docs", "Docs"]), .issue 7,
    .write (.addLabels 7 ["BUG", "docs", "Docs"]), .write (.setMilestone 7 (some "Next"))]

theorem spelled_twice_stays_alike :
    let after := (client ⟨"octo", "docs"⟩).after repeatedCalls spelledTwice.contents
    after.log.length = 4 ∧
      ∃ issue pull laterIssue laterPull,
        (spelledTwice.issues.lookup 7 = some issue ∧ spelledTwice.pulls.lookup 7 = some pull ∧
          issue.Alike pull) ∧
        after.issues.lookup 7 = some laterIssue ∧ after.pulls.lookup 7 = some laterPull ∧
        laterIssue.Alike laterPull ∧ laterPull.labels = ["Bug", "bug", "docs"] ∧
        laterPull.milestone = some "Next" := by
  refine ⟨by decide, ?_⟩
  obtain ⟨issue, issued⟩ : ∃ issue, spelledTwice.issues.lookup 7 = some issue := ⟨_, rfl⟩
  obtain ⟨pull, pulled⟩ : ∃ pull, spelledTwice.pulls.lookup 7 = some pull := ⟨_, rfl⟩
  have alike : issue.Alike pull := by
    cases issued
    cases pulled
    exact ⟨rfl, rfl, rfl, rfl⟩
  obtain ⟨laterIssue, laterPull, issues, pulls, later⟩ :=
    ((writes_can_be_repeated ⟨"octo", "docs"⟩ spelledTwice).2.2 repeatedCalls).2.2
      7 issue pull issued pulled alike
  refine ⟨issue, pull, laterIssue, laterPull, ⟨issued, pulled, alike⟩, issues, pulls, later,
    ?_⟩
  have stored : ∃ held, ((client ⟨"octo", "docs"⟩).after repeatedCalls
      spelledTwice.contents).pulls.lookup 7 = some held ∧
        held.labels = ["Bug", "bug", "docs"] ∧ held.milestone = some "Next" := by
    exact ⟨_, rfl, by decide, rfl⟩
  obtain ⟨held, found, labels, milestone⟩ := stored
  cases found.symm.trans pulls
  exact ⟨labels, milestone⟩

end OfflineStore

end RepoRules
