import RepoRules.Proofs.Repository.Seeding
import RepoRules.Proofs.Run.Failures
import RepoRules.Proofs.Run.FilesSteps
import RepoRules.Proofs.Run.Replay

/-!
Changed files in a repository in memory. Which files a run comes to know of is settled before its
walk: neither what it writes nor what it reads anew leads to others.
-/

namespace RepoRules

open Effects

theorem Renews.eq_of_answers {σ α : Type} {read : α → σ → Except Failure α × σ}
    {held fresh : Option α} {before after : σ} (renews : Renews read held fresh before after)
    (answers : ∀ item, held = some item → read item before = (.ok item, before)) :
    fresh = held ∧ after = before := by
  cases renews with
  | absent => exact ⟨rfl, rfl⟩
  | answered answer =>
      rw [answers _ rfl] at answer
      cases answer
      exact ⟨rfl, rfl⟩

namespace OfflineStore

def filesOf (store : OfflineStore) (target : Option Item) : List String :=
  match target.filter Item.isPullRequest with
  | some item => (store.files.lookup item.number).getD []
  | none => []

theorem files_answer (repository : RepositoryRef) (request : Call) (store : OfflineStore) :
    ((client repository).answer request store).2.files = store.files := by
  cases request with
  | write mutation => exact files_record store mutation
  | rulesFile _ | issue _ | pullRequest _ | comment _ | changedFiles _ => rfl

theorem files_of_eq {store other : OfflineStore} (same : store.files = other.files) :
    store.filesOf = other.filesOf := by
  funext target
  rw [filesOf, filesOf, same]

/-- In a repository that is about a delivery, what is read anew is what was delivered. -/
theorem rereads_about {repository : RepositoryRef} {held fresh : Context}
    {files : List (Nat × List String)} {after : OfflineStore}
    (rereads : Rereads (client repository) held fresh (about held files) after) :
    fresh.items = held.items := by
  obtain ⟨first, second, issues, pulls, comments⟩ := rereads
  have stored {α : Type} (what : String) (number : α → Nat) (value : α) :
      found what (number value)
        (List.lookup (number value) ((some value).map fun value => (number value, value)).toList) =
        .ok value := by
    rw [Option.map_some, Option.toList_some, List.lookup_cons, beq_self_eq_true]
    rfl
  obtain ⟨issue, rfl⟩ := issues.eq_of_answers fun item same => by
    dsimp only [client, answer, about]
    rw [same, Option.map_some, Option.toList_some, List.lookup_cons, beq_self_eq_true]
    rfl
  obtain ⟨pullRequest, rfl⟩ := pulls.eq_of_answers fun item same => by
    dsimp only [client, answer, about]
    rw [same]
    exact congrArg (·, _) (stored "pull request" Item.number item)
  obtain ⟨comment, _⟩ := comments.eq_of_answers fun comment same => by
    dsimp only [client, answer, about]
    rw [same]
    exact congrArg (·, _) (stored "comment" Comment.id comment)
  rw [Context.items, issue, pullRequest, comment, Context.items]

end OfflineStore

namespace Run

def Turn.files? {σ : Type} (turn : Turn σ) : Option (FileMatch × Pattern) :=
  match turn.node with
  | .files mode _ pattern _ => some (mode, pattern)
  | .gate _ | .operation _ | .sequence _ => none

variable (repository : RepositoryRef) (page : String → Option String)

def known (state : RunState OfflineStore Context) : List String :=
  state.context.changedFiles.getD (state.store.filesOf state.context.target)

def outlook (state : RunState OfflineStore Context) : Option Item × List String :=
  (state.context.target, known state)

theorem run_changed_files (state : RunState OfflineStore Context) :
    ∃ after, (changedFiles ⟨OfflineStore.client repository, page⟩).run.run state =
        (.ok (known state), after) ∧ outlook after = outlook state := by
  have looked (unlisted : state.context.changedFiles = none) :
      known state = state.store.filesOf state.context.target := by
    rw [known, unlisted, Option.getD_none]
  cases listed : state.context.changedFiles with
  | some files =>
      have same : known state = files := by rw [known, listed, Option.getD_some]
      rw [same]
      exact ⟨state, changed_files_known listed, rfl⟩
  | none =>
      cases proposed : state.context.isPullRequest with
      | false =>
          have same : known state = [] := by
            rw [looked listed, OfflineStore.filesOf, Option.filter_eq_none_iff.2]
            intro item target proposes
            rw [is_pull_request_of_target target proposes] at proposed
            cases proposed
          rw [same]
          refine ⟨_, changed_files_elsewhere proposed listed, ?_⟩
          rw [outlook, outlook, same]
          rfl
      | true =>
          obtain ⟨item, target, proposes⟩ := exists_target proposed
          have same : known state = (state.store.files.lookup item.number).getD [] := by
            rw [looked listed, OfflineStore.filesOf, target, Option.filter_some, proposes]
            rfl
          rw [same]
          refine ⟨_, changed_files_listed target proposes listed rfl, ?_⟩
          rw [outlook, outlook, same]
          rfl

theorem run_files_accepted (mode : FileMatch) (pattern : Pattern)
    (state : RunState OfflineStore Context) :
    ∃ after, (filesAccepted ⟨OfflineStore.client repository, page⟩ mode pattern).run.run state =
        (.ok (state.context.isPullRequest && mode.accepts pattern.occursIn (known state)), after) ∧
      outlook after = outlook state := by
  unfold filesAccepted
  rw [run_bind_ok (run_context state)]
  cases state.context.isPullRequest with
  | false => exact ⟨state, rfl, rfl⟩
  | true =>
      obtain ⟨after, taken, same⟩ := run_changed_files repository page state
      exact ⟨after, run_bind_ok taken, same⟩

theorem outlook_law : TurnLaw (⟨OfflineStore.client repository, page⟩ : Services OfflineStore)
    fun before turns after =>
      outlook after = outlook before ∧ ∀ turn ∈ turns, outlook turn.state = outlook before := by
  refine .of_view outlook ?_ ?_ ?_
  · intro condition state
    rw [run_pass_gate]
    rfl
  · intro operation state
    have acts : ActsAs ⟨OfflineStore.client repository, page⟩ operation (operate _ operation)
        state := acts_operate operation state
    -- mutations change the items of a repository, and never what files it lists
    rw [acts, run_bind_ok (run_writes _ _), run_modify_context]
    unfold outlook known
    dsimp only
    rw [OfflineStore.files_of_eq (OfflineStore.files_replay _ _)]
    rfl
  · intro mode pattern state
    obtain ⟨after, taken, same⟩ :=
      run_files_accepted repository page mode pattern state
    rw [taken]
    exact same

end Run

section Plans

variable {σ : Type} {services : Services σ}

theorem Plans.unlisted {before after : RunState σ Context} (plans : Plans services before after)
    (unlisted : before.context.changedFiles = none) : after.context.changedFiles = none := by
  cases plans with
  | forgotten => rfl
  | fetched _ | read _ _ | marked _ | renewed _ _ _ | described _ _ _ => exact unlisted

/-- No files have been listed when a walk begins. -/
theorem Run.unlisted_of_plan {state after : RunState σ Context} {plan : Plan}
    (planned : (Run.plan services).run.run state = (.ok plan, after))
    (unlisted : state.context.changedFiles = none) : after.context.changedFiles = none := by
  have moves : Moves (Plans services) (Run.plan services) state := Run.moves_plan
  rw [Moves, planned] at moves
  exact holds_of_steps (·.context.changedFiles = none) (fun _ _ => Plans.unlisted) moves unlisted

theorem Run.files_of_plan {repository : RepositoryRef} {page : String → Option String}
    {state after : RunState OfflineStore Context} {plan : Plan}
    (planned : (Run.plan ⟨OfflineStore.client repository, page⟩).run.run state =
      (.ok plan, after)) : after.store.files = state.store.files := by
  have moves : Moves (Plans ⟨OfflineStore.client repository, page⟩) (Run.plan _) state :=
    Run.moves_plan
  rw [Moves, planned] at moves
  refine eq_of_steps (·.store.files) (fun before after plans => ?_) moves
  cases plans with
  | read request _ => exact OfflineStore.files_answer repository request before.store
  | fetched _ | marked _ | renewed _ _ _ | forgotten | described _ _ _ => rfl

end Plans

end RepoRules
