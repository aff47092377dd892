import RepoRules.CommandLine.Report
import RepoRules.Proofs.Run.Beginning
import RepoRules.Proofs.Run.Listing

/-!
Changed files that are given to a command. The command that evaluates a payload lists them as those
of its pull request. They are only found by walks over payloads that have an object for this; an
issue that is marked as a pull request, as payloads of its comments have it, changes no files.
-/

namespace RepoRules.CommandLine

open Effects

/-- What the command that evaluates a payload is given. -/
structure Given where
  kind : EventKind
  payload : Json
  repository : RepositoryRef
  document : RuleDocument
  store : OfflineStore
  page : String → Option String
  queries : QueryEngine

namespace Given

def delivery (given : Given) : Delivery :=
  ⟨given.kind, given.payload, some "local"⟩

def engine (given : Given) : Engine OfflineStore :=
  Report.engineOf given.repository given.document given.page given.queries

def services (given : Given) : Services OfflineStore :=
  ⟨OfflineStore.client given.repository, given.engine.page⟩

def state (given : Given) : RunState OfflineStore Unit :=
  ⟨(), given.store, []⟩

def report (given : Given) : Except String Report := do
  let (result, state) := (given.engine.handle given.delivery).run.run given.state
  let outcome ← result.mapError Failure.display
  let report := Json.ofFields
    [("outcome", outcome.toJson), ("mutations", .array (state.store.log.map Mutation.toJson))]
  return ⟨report.indented 0 ++ "\n",
    if outcome.status = .failed then
      some ("action-set finished with failures: " ++ outcome.failure.getD "")
    else none⟩

def hasPullRequest (given : Given) : Bool :=
  (given.payload.field? "pull_request").any Json.isObject

end Given

namespace Report

def given (options : RunOptions) (payload rules : Except String String)
    (page : String → Option String) (queries : QueryEngine) : Except String Given := do
  let kind ← match EventKind.ofName? options.event with
    | some kind => pure kind
    | none => throw ("unsupported event '" ++ options.event ++ "'")
  let payload ← payloadOf options.payload payload
  let repository ← match Context.repositoryOf? payload with
    | some repository => pure repository
    | none => throw "payload has no repository.full_name"
  let document ← (RuleDocument.ofLocalFile options.rules rules).mapError Failure.display
  let store ← (storeOf payload options.files).mapError Failure.display
  return ⟨kind, payload, repository, document, store, page, queries⟩

theorem of_run_eq (options : RunOptions) (payload rules : Except String String)
    (page : String → Option String) (queries : QueryEngine) :
    ofRun options payload rules page queries =
      given options payload rules page queries >>= Given.report := by
  unfold ofRun given
  cases EventKind.ofName? options.event with
  | none => rfl
  | some kind =>
      cases payloadOf options.payload payload with
      | error reason => rfl
      | ok payload =>
          dsimp only [bind, Except.bind, pure, Except.pure]
          cases Context.repositoryOf? payload with
          | none => rfl
          | some repository =>
              dsimp only
              cases RuleDocument.ofLocalFile options.rules rules with
              | error failure => rfl
              | ok document =>
                  dsimp only [Except.mapError]
                  cases storeOf payload options.files with
                  | error failure => rfl
                  | ok store => rfl

theorem given_eq_ok {options : RunOptions} {payload rules : Except String String}
    {page : String → Option String} {queries : QueryEngine} {given : Given}
    (read : Report.given options payload rules page queries = .ok given) :
    given.payload.Sorted ∧ storeOf given.payload options.files = .ok given.store := by
  unfold Report.given at read
  cases named : EventKind.ofName? options.event with
  | none =>
      rw [named] at read
      cases read
  | some kind =>
  rw [named] at read
  obtain ⟨_, _, read⟩ := bind_eq_ok read
  obtain ⟨json, parsed, read⟩ := bind_eq_ok read
  cases found : Context.repositoryOf? json with
  | none =>
      rw [found] at read
      cases read
  | some repository =>
  rw [found] at read
  obtain ⟨_, _, read⟩ := bind_eq_ok read
  obtain ⟨document, _, read⟩ := bind_eq_ok read
  obtain ⟨store, stored, read⟩ := bind_eq_ok read
  cases read
  refine ⟨?_, map_error_eq_ok stored⟩
  unfold payloadOf at parsed
  split at parsed
  · cases parsed
  · split at parsed
    · next text payload found =>
        cases parsed
        exact Json.sorted_of_parse found
    · cases parsed

end Report

/-- The changed files as they are stored: under the number of the object for the pull request. -/
def filed (payload : Json) (files : List String) : List (Nat × List String) :=
  (((payload.path? ["pull_request", "number"]).bind Json.natural?).map (·, files)).toList

theorem Report.store_of_eq_about {kind : EventKind} {payload : Json} {files : List String}
    {store : OfflineStore} {document : RuleDocument} {served : RepositoryRef}
    {delivery : Option String} {queries : QueryEngine} {delivered : Context}
    (stored : storeOf payload files = .ok store)
    (read : Context.ofPayload kind payload document served delivery queries = .ok delivered) :
    store = OfflineStore.about delivered (filed payload files) := by
  obtain ⟨seeded, seeding, stored⟩ := bind_eq_ok stored
  obtain rfl := OfflineStore.of_payload_eq_about seeding read
  unfold filed
  split at stored
  · next number found =>
      cases stored
      rw [found]
      rfl
  · next missing =>
      cases stored
      rw [missing]
      rfl

theorem files_of_filed {payload : Json} (sorted : payload.Sorted) {files : List String}
    {kind : EventKind} {document : RuleDocument} {served : RepositoryRef}
    {delivery : Option String} {queries : QueryEngine} {delivered : Context} {store : OfflineStore}
    (read : Context.ofPayload kind payload document served delivery queries = .ok delivered)
    (stored : store.files = filed payload files) :
    if (payload.field? "pull_request").any Json.isObject then
      delivered.isPullRequest = true ∧ store.filesOf delivered.target = files
    else store.filesOf delivered.target = [] := by
  have path : payload.path? ["pull_request", "number"] =
      (payload.field? "pull_request").bind (Json.field? "number") := by
    rw [Json.path?]
    refine congrArg _ (funext fun value => ?_)
    rw [Json.path?]
    exact Option.bind_fun_some _
  have unfiled (missing : payload.path? ["pull_request", "number"] = none) :
      store.filesOf delivered.target = [] := by
    rw [filed, missing] at stored
    unfold OfflineStore.filesOf
    rw [stored]
    split <;> rfl
  cases found : payload.field? "pull_request" with
  | none =>
      rw [found] at path
      exact unfiled path
  | some value =>
      rw [found] at path
      cases value with
      | null | bool | int | float | string | array => exact unfiled path
      | object entries =>
          rw [Option.any_some, Json.isObject, if_pos rfl]
          obtain ⟨issue, pullRequest, comment, _, proposed, _, rfl⟩ :=
            Context.exists_of_payload read
          rw [Context.objectOf, found] at proposed
          obtain ⟨item, decoded, rfl⟩ := map_eq_ok proposed
          have number := Item.number_of_object (sorted.field found).ordered
            (map_error_eq_ok decoded)
          have filed : store.files = [(item.number, files)] := by
            rw [stored, filed, path, Option.bind_some, Json.field?, number]
            rfl
          refine ⟨rfl, ?_⟩
          unfold OfflineStore.filesOf
          rw [filed]
          change (List.lookup item.number [(item.number, files)]).getD [] = files
          rw [List.lookup_cons, beq_self_eq_true]
          rfl

section Walks

variable {options : RunOptions} {payload rules : Except String String}
  {page : String → Option String} {queries : QueryEngine} {given : Given}
  {rerun : Bool} {action : String} {tree : ActionTree} {start : Context}
  {ready : RunState OfflineStore Unit}

theorem Given.begins (read : Report.given options payload rules page queries = .ok given)
    (prepared : (given.engine.withServices given.delivery
      (Engine.prepare given.engine.rules given.engine.queries given.delivery)).run.run given.state =
        (.ok (⟨rerun, some (action, tree)⟩, start), ready)) :
    ∃ delivered, Context.ofPayload given.kind given.payload given.document given.repository
        (some "local") given.queries = .ok delivered ∧
      start.target = delivered.target ∧ start.changedFiles = none ∧
      ready.store.files = filed given.payload options.files := by
  obtain ⟨_, stored⟩ := Report.given_eq_ok read
  obtain ⟨client, repository, delivered, loaded, prepares⟩ := Engine.exists_prepares prepared
  obtain ⟨entered, found, started⟩ := prepares.started
  cases found
  obtain ⟨document, loading, delivering⟩ := Engine.starting_context_eq_ok started
  cases loading
  obtain ⟨_, _, _, plain⟩ := prepares.delivered_eq
  obtain ⟨inner, planned, rfl, rfl⟩ := run_within_eq_ok prepares.planned
  have planned : (Run.plan given.services).run.run ⟨delivered, given.store, []⟩ =
      (.ok ⟨rerun, some (action, tree)⟩, inner) := planned
  have about : given.store = .about delivered (filed given.payload options.files) :=
    Report.store_of_eq_about stored delivering
  have begins := Run.begins_of_plan plain planned
  refine ⟨delivered, delivering, Context.target_of_items ?_, ?_, ?_⟩
  · -- a rerun reads its item anew, which is there as it was delivered
    cases asked : delivered.rerun? with
    | none => exact begins.kept asked
    | some _ =>
        have reread : Rereads (OfflineStore.client given.repository) delivered inner.context
            given.store inner.store := begins.reread (by rw [asked]; rfl)
        rw [about] at reread
        exact OfflineStore.rereads_about reread
  · refine Run.unlisted_of_plan planned ?_
    obtain ⟨_, _, _, _, _, _, rfl⟩ := Context.exists_of_payload delivering
    rfl
  · exact (Run.files_of_plan planned).trans (congrArg OfflineStore.files about)

/-- What the steps that ask for changed files see on a walk over a payload that the command accepts:
the files that it was given, in order, if there is an object for the pull request, which then is
what the walk is about. Without such an object they see none, and it does not matter that the issue
is marked as a pull request. -/
theorem changed_files_at_turns (read : Report.given options payload rules page queries = .ok given)
    (prepared : (given.engine.withServices given.delivery
      (Engine.prepare given.engine.rules given.engine.queries given.delivery)).run.run given.state =
        (.ok (⟨rerun, some (action, tree)⟩, start), ready)) :
    let seen := if given.hasPullRequest then options.files else []
    Report.ofRun options payload rules page queries = given.report ∧
      (given.hasPullRequest → start.isPullRequest = true) ∧
      ∀ turn ∈ Run.turns given.services tree.children ⟨start, ready.store, ready.journal⟩,
        ∀ mode pattern, turn.files? = some (mode, pattern) →
          ((Run.changedFiles given.services).run.run turn.state).1 = .ok seen ∧
          ((Run.filesAccepted given.services mode pattern).run.run turn.state).1 =
            .ok (start.isPullRequest && mode.accepts pattern.occursIn seen) := by
  intro seen
  obtain ⟨delivered, delivering, target, unlisted, stored⟩ := Given.begins read prepared
  obtain ⟨sorted, _⟩ := Report.given_eq_ok read
  have filed := files_of_filed sorted delivering stored
  rw [← target] at filed
  have settled : ready.store.filesOf start.target = seen ∧
      (given.hasPullRequest → start.isPullRequest = true) := by
    unfold seen Given.hasPullRequest
    split at filed
    · next object =>
        rw [if_pos object]
        refine ⟨filed.2, fun _ => ?_⟩
        rw [Context.isPullRequest, target]
        exact filed.1
    · next other =>
        rw [if_neg other]
        exact ⟨filed, fun object => absurd object other⟩
  have evaluates : Report.ofRun options payload rules page queries = given.report := by
    rw [Report.of_run_eq, read]
    rfl
  refine ⟨evaluates, settled.2, fun turn member mode pattern _ => ?_⟩
  have same : Run.outlook turn.state = (start.target, ready.store.filesOf start.target) := by
    refine (((Run.outlook_law _ _).walk_nodes tree.children _).2 turn member).trans ?_
    rw [Run.outlook, Run.known, unlisted]
    rfl
  rw [settled.1] at same
  obtain ⟨at_hand, known⟩ := Prod.mk.inj same
  rw [← known]
  constructor
  · obtain ⟨after, seen, _⟩ :=
      Run.run_changed_files given.repository given.engine.page turn.state
    exact congrArg Prod.fst seen
  · obtain ⟨after, accepted, _⟩ :=
      Run.run_files_accepted given.repository given.engine.page mode pattern turn.state
    refine (congrArg Prod.fst accepted).trans ?_
    rw [Context.isPullRequest, at_hand, Context.isPullRequest]

end Walks

/-- Whether the walk over what is given is about a pull request, and what each of its steps that ask
for changed files sees. -/
def Given.sights (given : Given) : Option (Bool × List (Option (List String))) :=
  match (given.engine.withServices given.delivery
      (Engine.prepare given.engine.rules given.engine.queries given.delivery)).run.run
        given.state with
  | (.ok (⟨_, some (_, tree)⟩, start), ready) =>
      some (start.isPullRequest,
        (Run.turns given.services tree.children ⟨start, ready.store, ready.journal⟩).filterMap
          fun turn => turn.files?.map fun _ =>
            ((Run.changedFiles given.services).run.run turn.state).1.toOption)
  | _ => none

theorem Given.exists_walk {options : RunOptions} {payload rules : Except String String}
    {page : String → Option String} {queries : QueryEngine} {asked proposed : Bool} {seen : List String}
    (computed : ((Report.given options payload rules page queries).toOption.bind fun given =>
      given.sights.map fun sights => (given.hasPullRequest, sights)) =
        some (asked, proposed, [some seen])) :
    ∃ given rerun action tree start ready,
      Report.given options payload rules page queries = .ok given ∧
      (given.engine.withServices given.delivery
        (Engine.prepare given.engine.rules given.engine.queries given.delivery)).run.run
          given.state =
          (.ok (⟨rerun, some (action, tree)⟩, start), ready) ∧
      given.hasPullRequest = asked ∧ start.isPullRequest = proposed ∧
      ∃ turn ∈ Run.turns given.services tree.children ⟨start, ready.store, ready.journal⟩,
        turn.files?.isSome ∧
          ((Run.changedFiles given.services).run.run turn.state).1 = .ok seen := by
  obtain ⟨given, read, computed⟩ := Option.bind_eq_some_iff.1 computed
  obtain ⟨sights, looked, same⟩ := Option.map_eq_some_iff.1 computed
  cases same
  unfold Given.sights at looked
  split at looked
  · next rerun action tree start ready prepared =>
      obtain ⟨proposed, sights⟩ := Prod.mk.inj (Option.some.inj looked)
      have first := List.mem_singleton_self (some seen)
      rw [← sights] at first
      obtain ⟨turn, member, asked⟩ := List.mem_filterMap.1 first
      obtain ⟨looks, found, same⟩ := Option.map_eq_some_iff.1 asked
      refine ⟨given, rerun, action, tree, start, ready, to_option_eq_some read, prepared, rfl,
        proposed, turn, member, ?_, to_option_eq_some same⟩
      rw [found]
      rfl
  · cases looked

def RunOptions.documented (event : String) : RunOptions where
  event := event
  payload := "payload.json"
  rules := "rules.yml"
  files := ["docs/a.md"]

def documentedRules (event : String) : String :=
  "revision: 1\nschema-version: 5\nowner-ms-alias: docsbot\nconfig: \x7b\x7d\n" ++ event ++
    ": \x7bcreated: [files-any: \x7bpattern: ^docs, steps: [labels-add: docs]\x7d]\x7d\n"

def proposedPayload : String :=
  "\x7b\"action\": \"created\", \"repository\": \x7b\"full_name\": \"octo/docs\"\x7d, " ++
    "\"pull_request\": \x7b\"number\": 7\x7d\x7d"

theorem given_file_is_seen :
    ∃ given rerun action tree start ready,
      Report.given (.documented "pull_request") (.ok proposedPayload)
        (.ok (documentedRules "pull_request")) (fun _ => none) Query.run = .ok given ∧
      (given.engine.withServices given.delivery
        (Engine.prepare given.engine.rules given.engine.queries given.delivery)).run.run
          given.state =
          (.ok (⟨rerun, some (action, tree)⟩, start), ready) ∧
      start.isPullRequest = true ∧
      ∃ turn ∈ Run.turns given.services tree.children ⟨start, ready.store, ready.journal⟩,
        turn.files?.isSome ∧
          ((Run.changedFiles given.services).run.run turn.state).1 = .ok ["docs/a.md"] := by
  have computed : ((Report.given (.documented "pull_request") (.ok proposedPayload)
      (.ok (documentedRules "pull_request")) (fun _ => none) Query.run).toOption.bind fun given =>
        given.sights.map fun sights => (given.hasPullRequest, sights)) =
          some (true, true, [some ["docs/a.md"]]) := by decide +kernel
  obtain ⟨given, rerun, action, tree, start, ready, read, prepared, object, _, turn, member, asks,
    _⟩ := Given.exists_walk computed
  obtain ⟨⟨mode, pattern⟩, asks⟩ := Option.isSome_iff_exists.1 asks
  obtain ⟨_, proposed, sees⟩ := changed_files_at_turns read prepared
  have seen := (sees turn member mode pattern asks).1
  rw [if_pos object] at seen
  exact ⟨given, rerun, action, tree, start, ready, read, prepared, proposed object, turn, member,
    by rw [asks]; rfl, seen⟩

def commentedPayload : String :=
  "\x7b\"action\": \"created\", \"repository\": \x7b\"full_name\": \"octo/docs\"\x7d, " ++
    "\"issue\": \x7b\"number\": 7, \"pull_request\": \x7b\x7d\x7d\x7d"

/-- The walk is about a pull request, but the file that was given is not seen. -/
theorem given_file_of_marked_issue_is_not_seen :
    ∃ given rerun action tree start ready,
      Report.given (.documented "issue_comment") (.ok commentedPayload)
        (.ok (documentedRules "issue_comment")) (fun _ => none) Query.run = .ok given ∧
      (given.engine.withServices given.delivery
        (Engine.prepare given.engine.rules given.engine.queries given.delivery)).run.run
          given.state =
          (.ok (⟨rerun, some (action, tree)⟩, start), ready) ∧
      start.isPullRequest = true ∧
      ∃ turn ∈ Run.turns given.services tree.children ⟨start, ready.store, ready.journal⟩,
        turn.files?.isSome ∧ ((Run.changedFiles given.services).run.run turn.state).1 = .ok [] := by
  have computed : ((Report.given (.documented "issue_comment") (.ok commentedPayload)
      (.ok (documentedRules "issue_comment")) (fun _ => none) Query.run).toOption.bind fun given =>
        given.sights.map fun sights => (given.hasPullRequest, sights)) =
          some (false, true, [some []]) := by decide +kernel
  obtain ⟨given, rerun, action, tree, start, ready, read, prepared, _, proposed, sees⟩ :=
    Given.exists_walk computed
  exact ⟨given, rerun, action, tree, start, ready, read, prepared, proposed, sees⟩

end RepoRules.CommandLine
