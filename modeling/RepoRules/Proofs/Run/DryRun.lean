import RepoRules.Proofs.Repository.Replay
import RepoRules.Proofs.Run.Stages

/-!
Dry runs of a repository in memory. A dry run ends as the real run does, writes the same mutations
down and leaves the repository as it was. The writes of the real run change items, but behind the
first write only changed files are read, and no write changes these.
-/

namespace RepoRules

def Engine.fixed {σ : Type} (client : Client σ) (page : String → Option String)
    (rules : RulesSource) (queries : QueryEngine := Query.run) : Engine σ where
  clientFor _ _ store := (.ok client, store)
  page := page
  rules := rules
  queries := queries

def Call.IsLate : Call → Prop
  | .changedFiles _ | .write _ => True
  | .rulesFile _ | .issue _ | .pullRequest _ | .comment _ => False

def Event.IsLate : Event → Prop
  | .called call => call.IsLate
  | .fetched _ | .evaluated _ => True

theorem Event.is_late_walk : WalkAllowed Event.IsLate :=
  ⟨fun _ => trivial, fun _ _ => trivial⟩

namespace OfflineStore

/-- What a real run and a dry run have in common when writes have been made. -/
structure Logged (seeded written : OfflineStore) (dry : OfflineStore × List Mutation) : Prop where
  untouched : dry.1 = seeded
  files : written.files = seeded.files
  log : written.log = seeded.log ++ dry.2

theorem Logged.start (seeded : OfflineStore) : Logged seeded seeded (seeded, []) :=
  ⟨rfl, rfl, (List.append_nil _).symm⟩

theorem Logged.answer {seeded written : OfflineStore} {dry : OfflineStore × List Mutation}
    (logged : Logged seeded written dry) (repository : RepositoryRef) :
    (request : Call) → request.IsLate →
    ((client repository).answer request written).1 =
        ((client repository).dryRun.answer request dry).1 ∧
      Logged seeded ((client repository).answer request written).2
        ((client repository).dryRun.answer request dry).2
  | .changedFiles number, _ => by
      refine ⟨?_, logged⟩
      change Except.ok ((written.files.lookup number).getD []) =
        Except.ok ((dry.1.files.lookup number).getD [])
      rw [logged.files, logged.untouched]
  | .write mutation, _ => by
      refine ⟨rfl, logged.untouched, ?_, ?_⟩
      · exact (files_record written mutation).trans logged.files
      · change (written.record mutation).log = seeded.log ++ (dry.2 ++ [mutation])
        rw [log_record, logged.log, List.append_assoc]

variable (repository : RepositoryRef) (page : String → Option String) (seeded : OfflineStore)

/-- Once writes may have been made, only late calls cannot tell the runs apart. -/
theorem services_agree_late :
    Services.Agree Event.IsLate (Logged seeded) ⟨client repository, page⟩
      ⟨(client repository).dryRun, page⟩ :=
  ⟨rfl, fun request late _ _ logged => logged.answer repository request late⟩

/-- As long as nothing is written, no call can tell the runs apart. -/
theorem services_agree_reading :
    Services.Agree Event.IsRead (fun store dry => store = seeded ∧ dry = (seeded, []))
      ⟨client repository, page⟩ ⟨(client repository).dryRun, page⟩ := by
  refine ⟨rfl, ?_⟩
  rintro request read _ _ ⟨rfl, rfl⟩
  cases request with
  | write mutation => exact absurd rfl (read mutation)
  | rulesFile path => exact ⟨rfl, rfl, rfl⟩
  | issue number => exact ⟨rfl, rfl, rfl⟩
  | pullRequest number => exact ⟨rfl, rfl, rfl⟩
  | comment id => exact ⟨rfl, rfl, rfl⟩
  | changedFiles number => exact ⟨rfl, rfl, rfl⟩

end OfflineStore

namespace Engine

open Effects OfflineStore

variable {σ : Type}

def finish (services : Services σ) (plan : Plan) (context : Context) :
    Effects σ Unit Outcome := do
  let (_, context) ← within context (Run.walkPlan services plan)
  let (outcome, _) ← within context (Run.conclude services plan)
  return outcome

theorem handle_fixed (client : Client σ) (page : String → Option String) (rules : RulesSource)
    (queries : QueryEngine) (delivery : Delivery) (state : RunState σ Unit) :
    ((fixed client page rules queries).handle delivery).run.run state =
      match Context.repositoryOf? delivery.payload with
      | none => (.error noRepository, state)
      | some named =>
          (prepare rules queries delivery ⟨client, page⟩ named >>= fun prepared =>
            finish ⟨client, page⟩ prepared.1 prepared.2).run.run state := by
  rw [handle_eq]
  unfold withServices
  cases Context.repositoryOf? delivery.payload with
  | none => rfl
  | some named =>
      refine (run_bind_ok (run_on_store _ state)).trans ?_
      simp only [serve, prepareAndWalk, finish, bind_assoc, pure_bind]
      rfl

theorem agree_finish (repository : RepositoryRef) (page : String → Option String)
    (seeded : OfflineStore) (plan : Plan) (context : Context) :
    Effects.Agree Event.IsLate (Logged seeded) (finish ⟨client repository, page⟩ plan context)
      (finish ⟨(client repository).dryRun, page⟩ plan context) := by
  have services := services_agree_late repository page seeded
  have walk := Run.agree_walk_plan services Event.is_late_walk (fun _ => trivial) plan
  have conclude := Run.agree_conclude services (fun _ => trivial) plan
  refine (walk.within context).bind fun walked => ?_
  exact (conclude.within walked.2).bind fun concluded => agree_pure concluded.1

/-- A dry run ends as the real run on the same repository does and makes the same calls. Its log is
what the real run adds to the log of the repository, which the dry run leaves as it was. -/
theorem dry_run_is_faithful (repository : RepositoryRef) (page : String → Option String)
    (rules : RulesSource) (queries : QueryEngine) (delivery : Delivery) (seeded : OfflineStore) :
    let direct :=
      ((fixed (client repository) page rules queries).handle delivery).run.run ⟨(), seeded, []⟩
    let dry := ((fixed (client repository).dryRun page rules queries).handle delivery).run.run
      ⟨(), (seeded, []), []⟩
    dry.1 = direct.1 ∧ dry.2.journal = direct.2.journal ∧
      direct.2.store.log = seeded.log ++ dry.2.store.2 ∧ dry.2.store.1 = seeded := by
  simp only [handle_fixed]
  cases Context.repositoryOf? delivery.payload with
  | none => exact ⟨rfl, rfl, (List.append_nil _).symm, rfl⟩
  | some named =>
      -- up to the walk nothing is written, and both stores are still as they were seeded
      obtain ⟨result, _, left, right, reading, hereRun, thereRun, ⟨rfl, rfl⟩, _⟩ :=
        agree_prepare (services_agree_reading repository page seeded) rfl Event.is_read_planning
          rules queries delivery named () seeded (seeded, []) [] [] ⟨rfl, rfl⟩
      simp only
      cases result with
      | error failure =>
          rw [run_bind_error hereRun, run_bind_error thereRun]
          exact ⟨rfl, rfl, (List.append_nil _).symm, rfl⟩
      | ok prepared =>
          rw [run_bind_ok hereRun, run_bind_ok thereRun]
          obtain ⟨result, _, left, right, events, hereRun, thereRun, logged, _⟩ :=
            agree_finish repository page left prepared.1 prepared.2 () left (left, [])
              ([] ++ reading) ([] ++ reading) (Logged.start left)
          rw [hereRun, thereRun]
          exact ⟨rfl, rfl, logged.log, logged.untouched⟩

end Engine

end RepoRules
