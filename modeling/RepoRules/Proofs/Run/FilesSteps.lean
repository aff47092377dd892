import RepoRules.Proofs.Run.Standing

/-!
Files steps. On a pull request the first of them lists the changed files, and those behind it decide
on the same list, however they lie inside one another. If that listing fails, the walk ends there
and no list is kept. On anything else no list is read and no body is run.
-/

namespace RepoRules

open Effects

def FileMatch.Holds (mode : FileMatch) (pattern : Pattern) (files : List String) : Prop :=
  match mode with
  | .any => ∃ file ∈ files, pattern.occursIn file = true
  | .all => files ≠ [] ∧ ∀ file ∈ files, pattern.occursIn file = true
  | .none => ∀ file ∈ files, pattern.occursIn file = false

namespace FileMatch

variable {pattern : Pattern} {files : List String}

theorem accepts_iff {mode : FileMatch} :
    mode.accepts pattern.occursIn files = true ↔ mode.Holds pattern files := by
  cases mode with
  | any => exact List.any_eq_true
  | all => simp [accepts, Holds]
  | none => simp [accepts, Holds]

theorem holds_none_iff :
    FileMatch.none.Holds pattern files ↔ ¬FileMatch.any.Holds pattern files := by
  simp [Holds]

theorem holds_any_of_all (all : FileMatch.all.Holds pattern files) :
    FileMatch.any.Holds pattern files := by
  obtain ⟨filled, every⟩ := all
  obtain ⟨file, member⟩ := List.exists_mem_of_ne_nil files filled
  exact ⟨file, member, every file member⟩

end FileMatch

def Event.listing? : Event → Option Nat
  | .called (.changedFiles number) => some number
  | .called (.rulesFile _) | .called (.issue _) | .called (.pullRequest _) | .called (.comment _)
  | .called (.write _) | .fetched _ | .evaluated _ => none

namespace Run

variable {σ : Type} {services : Services σ} {state : RunState σ Context}

def listings (state : RunState σ Context) : List Nat :=
  state.journal.filterMap Event.listing?

section Records

def filesRecord (state : RunState σ Context) : Option Item × Option (List String) × List Nat :=
  (state.context.target, state.context.changedFiles, listings state)

theorem record_of_evaluates {before after : RunState σ Context}
    (evaluates : Evaluates before after) : filesRecord after = filesRecord before := by
  cases evaluates with
  | noted source => simp [filesRecord, listings, Event.listing?]
  | failed message => rfl

theorem record_writes (mutations : List Mutation) (state : RunState σ Context) :
    filesRecord ((mutations.forM (write services)).run.run state).2 = filesRecord state := by
  obtain ⟨_, _, sent, going, _⟩ := writes_go_out services.client mutations state
  have written := congrArg (fun ended => filesRecord ended.2) going
  have unlisted : (sent.map fun mutation => Event.called (.write mutation)).filterMap
      Event.listing? = [] := by
    simp [List.filterMap_eq_nil_iff, Event.listing?]
  refine written.trans ?_
  simp [filesRecord, listings, unlisted]

theorem record_pass_gate (condition : Option Condition) (state : RunState σ Context) :
    filesRecord ((passGate condition : Run σ Flow).run.run state).2 = filesRecord state :=
  eq_of_steps filesRecord (fun _ _ => record_of_evaluates) (moves_pass_gate condition)

theorem record_operate (operation : Operation) (state : RunState σ Context) :
    filesRecord ((operate services operation).run.run state).2 = filesRecord state := by
  have evaluated : filesRecord (state.evaluating (operation.evaluations state.context)) =
      filesRecord state :=
    eq_of_steps filesRecord (fun _ _ => record_of_evaluates) (state.steps_evaluating _)
  apply @holds_after_operate _ services fun after => filesRecord after = filesRecord state
  · exact (record_writes (operation.writes state.context) _).trans evaluated
  · exact fun _ same => same

end Records

section Looks

variable {mode : FileMatch} {pattern : Pattern} {item : Item} {files : List String}

theorem is_pull_request_of_target (target : state.context.target = some item)
    (proposed : item.isPullRequest = true) : state.context.isPullRequest = true := by
  rw [Context.isPullRequest, target]
  exact proposed

theorem exists_target (proposed : state.context.isPullRequest = true) :
    ∃ item, state.context.target = some item ∧ item.isPullRequest = true :=
  (Option.any_eq_true _ _).1 proposed

theorem changed_files_known (known : state.context.changedFiles = some files) :
    (changedFiles services).run.run state = (.ok files, state) := by
  unfold changedFiles
  rw [run_bind_ok (run_context state), known]
  rfl

theorem changed_files_elsewhere (elsewhere : state.context.isPullRequest = false)
    (unknown : state.context.changedFiles = none) :
    (changedFiles services).run.run state =
      (.ok [], { state with context := { state.context with changedFiles := some [] } }) := by
  unfold changedFiles
  rw [run_bind_ok (run_context state), unknown]
  cases target : state.context.target with
  | none => rfl
  | some item =>
      rw [Context.isPullRequest, target, Option.any_some] at elsewhere
      simp only [elsewhere, Bool.false_eq_true, if_false]
      rfl

def listed (services : Services σ) (item : Item) (state : RunState σ Context) :
    RunState σ Context :=
  state.called services.client (.changedFiles item.number)

theorem call_listed {result : Except Failure (List String)}
    (answer : (services.client.answer (.changedFiles item.number) state.store).1 = result) :
    (call services (.changedFiles item.number)).run.run state =
      (result, listed services item state) := by
  rw [call, run_call, answer]
  rfl

theorem changed_files_listed (target : state.context.target = some item)
    (proposed : item.isPullRequest = true) (unknown : state.context.changedFiles = none)
    (answer : (services.client.answer (.changedFiles item.number) state.store).1 = .ok files) :
    (changedFiles services).run.run state =
      (.ok files, { listed services item state with
        context := { state.context with changedFiles := some files } }) := by
  unfold changedFiles
  rw [run_bind_ok (run_context state), unknown, target]
  simp only [if_pos proposed]
  exact run_bind_ok (call_listed answer)

theorem changed_files_failed {failure : Failure} (target : state.context.target = some item)
    (proposed : item.isPullRequest = true) (unknown : state.context.changedFiles = none)
    (answer : (services.client.answer (.changedFiles item.number) state.store).1 =
      .error failure) :
    (changedFiles services).run.run state = (.error failure, listed services item state) := by
  unfold changedFiles
  rw [run_bind_ok (run_context state), unknown, target]
  simp only [if_pos proposed]
  exact run_bind_error (call_listed answer)

theorem accepted_elsewhere (elsewhere : state.context.isPullRequest = false) :
    (filesAccepted services mode pattern).run.run state = (.ok false, state) := by
  unfold filesAccepted
  rw [run_bind_ok (run_context state), elsewhere]
  rfl

theorem accepted_known (proposed : state.context.isPullRequest = true)
    (known : state.context.changedFiles = some files) :
    (filesAccepted services mode pattern).run.run state =
      (.ok (mode.accepts pattern.occursIn files), state) := by
  unfold filesAccepted
  rw [run_bind_ok (run_context state), proposed]
  exact run_bind_ok (changed_files_known known)

theorem accepted_listed (target : state.context.target = some item)
    (proposed : item.isPullRequest = true) (unknown : state.context.changedFiles = none)
    (answer : (services.client.answer (.changedFiles item.number) state.store).1 = .ok files) :
    (filesAccepted services mode pattern).run.run state =
      (.ok (mode.accepts pattern.occursIn files), { listed services item state with
        context := { state.context with changedFiles := some files } }) := by
  unfold filesAccepted
  rw [run_bind_ok (run_context state), is_pull_request_of_target target proposed]
  exact run_bind_ok (changed_files_listed target proposed unknown answer)

theorem accepted_failed {failure : Failure} (target : state.context.target = some item)
    (proposed : item.isPullRequest = true) (unknown : state.context.changedFiles = none)
    (answer : (services.client.answer (.changedFiles item.number) state.store).1 =
      .error failure) :
    (filesAccepted services mode pattern).run.run state =
      (.error failure, listed services item state) := by
  unfold filesAccepted
  rw [run_bind_ok (run_context state), is_pull_request_of_target target proposed]
  exact run_bind_error (changed_files_failed target proposed unknown answer)

theorem listings_listed (services : Services σ) (item : Item) (state : RunState σ Context) :
    listings (listed services item state) = listings state ++ [item.number] := by
  simp [listings, listed, RunState.called, Event.listing?]

end Looks

section Courses

structure Turn.AsksFor (turn : Turn σ) (item : Item) : Prop where
  node : ∃ mode source pattern body, turn.node = .files mode source pattern body
  target : turn.state.context.target = some item
  proposed : item.isPullRequest = true

def Unasked (turns : List (Turn σ)) : Prop :=
  ∀ turn ∈ turns, turn.state.context.changedFiles = none ∧ ∀ item, ¬turn.AsksFor item

def Knowing (files : List String) (turns : List (Turn σ)) : Prop :=
  ∀ turn ∈ turns, turn.state.context.changedFiles = some files

/-- How the changed files come to be known on a walk, and for which pull requests they are asked
for: they are known from the start, no step asks for them, the first step that does lists them, or
it fails to and the walk ends. -/
inductive Acquires (services : Services σ) (before : RunState σ Context) :
    List (Turn σ) → Option Failure × RunState σ Context → List Nat → Prop
  | known {files : List String} {visited : List (Turn σ)}
      {ended : Option Failure × RunState σ Context}
      (start : before.context.changedFiles = some files) (turns : Knowing files visited)
      (kept : ended.2.context.changedFiles = some files) :
      Acquires services before visited ended []
  | unasked {visited : List (Turn σ)} {ended : Option Failure × RunState σ Context}
      (start : before.context.changedFiles = none) (turns : Unasked visited)
      (kept : ended.2.context.changedFiles = none) :
      Acquires services before visited ended []
  | listed {early late : List (Turn σ)} {reading : Turn σ} {item : Item} {files : List String}
      {ended : Option Failure × RunState σ Context}
      (start : before.context.changedFiles = none) (turns : Unasked early)
      (unknown : reading.state.context.changedFiles = none) (asks : reading.AsksFor item)
      (answer :
        (services.client.answer (.changedFiles item.number) reading.state.store).1 = .ok files)
      (others : Knowing files late) (kept : ended.2.context.changedFiles = some files) :
      Acquires services before (early ++ reading :: late) ended [item.number]
  | failed {early : List (Turn σ)} {reading : Turn σ} {item : Item} {failure : Failure}
      {ended : Option Failure × RunState σ Context}
      (start : before.context.changedFiles = none) (turns : Unasked early)
      (unknown : reading.state.context.changedFiles = none) (asks : reading.AsksFor item)
      (answer :
        (services.client.answer (.changedFiles item.number) reading.state.store).1 =
          .error failure)
      (stopped : ended.1 = some failure) (kept : ended.2.context.changedFiles = none) :
      Acquires services before (early ++ [reading]) ended [item.number]

/-- What a walk makes of the changed files. The item stays the same. -/
structure FilesCourse (services : Services σ) (before : RunState σ Context)
    (visited : List (Turn σ)) (ended : Option Failure × RunState σ Context) : Prop where
  target : ended.2.context.target = before.context.target
  targets : ∀ turn ∈ visited, turn.state.context.target = before.context.target
  acquires : ∃ asked, listings ended.2 = listings before ++ asked ∧
    Acquires services before visited ended asked

variable {before middle : RunState σ Context} {first others : List (Turn σ)}
  {ended : Option Failure × RunState σ Context}

theorem Acquires.chain {asked more : List Nat}
    (early : Acquires services before first (none, middle) asked)
    (late : Acquires services middle others ended more) :
    Acquires services before (first ++ others) ended (asked ++ more) := by
  cases early with
  | known start turns kept =>
      cases late with
      | known again later last =>
          rw [kept] at again
          cases again
          exact .known start (List.forall_mem_append.2 ⟨turns, later⟩) last
      | unasked again _ _ | listed again _ _ _ _ _ _ | failed again _ _ _ _ _ _ =>
          rw [kept] at again
          cases again
  | unasked start turns kept =>
      cases late with
      | known again _ _ =>
          rw [kept] at again
          cases again
      | unasked _ later last =>
          exact .unasked start (List.forall_mem_append.2 ⟨turns, later⟩) last
      | listed _ later unknown asks answer behind last =>
          rw [← List.append_assoc]
          exact .listed start (List.forall_mem_append.2 ⟨turns, later⟩) unknown asks answer behind
            last
      | failed _ later unknown asks answer stopped last =>
          rw [← List.append_assoc]
          exact .failed start (List.forall_mem_append.2 ⟨turns, later⟩) unknown asks answer stopped
            last
  | listed start turns unknown asks answer behind kept =>
      cases late with
      | known again later last =>
          rw [kept] at again
          cases again
          rw [List.append_assoc, List.cons_append]
          exact .listed start turns unknown asks answer (List.forall_mem_append.2 ⟨behind, later⟩)
            last
      | unasked again _ _ | listed again _ _ _ _ _ _ | failed again _ _ _ _ _ _ =>
          rw [kept] at again
          cases again
  | failed _ _ _ _ _ stopped _ => cases stopped

theorem FilesCourse.of_record {visited : List (Turn σ)}
    (here : ∀ turn ∈ visited, turn.state = before ∧
      (before.context.changedFiles = none → ∀ item, ¬turn.AsksFor item))
    (same : filesRecord ended.2 = filesRecord before) :
    FilesCourse services before visited ended := by
  obtain ⟨target, kept⟩ := Prod.mk.inj same
  obtain ⟨kept, listings⟩ := Prod.mk.inj kept
  refine ⟨target, fun turn member => by rw [(here turn member).1], [], ?_, ?_⟩
  · rw [listings, List.append_nil]
  · cases start : before.context.changedFiles with
    | some files =>
        refine .known start (fun turn member => ?_) (kept.trans start)
        rw [(here turn member).1, start]
    | none =>
        refine .unasked start (fun turn member => ?_) (kept.trans start)
        obtain ⟨at_start, unasked⟩ := here turn member
        exact ⟨by rw [at_start, start], unasked start⟩

theorem FilesCourse.files (mode : FileMatch) (source : String) (pattern : Pattern)
    (body : List Tree.Node) (state : RunState σ Context) :
    FilesCourse services state [⟨.files mode source pattern body, state⟩]
      (ending (filesAccepted services mode pattern) state) := by
  have alone (unneeded : state.context.changedFiles = none → ∀ item,
      ¬Turn.AsksFor ⟨.files mode source pattern body, state⟩ item) :
      ∀ turn ∈ [(⟨.files mode source pattern body, state⟩ : Turn σ)], turn.state = state ∧
        (state.context.changedFiles = none → ∀ item, ¬turn.AsksFor item) :=
    List.forall_mem_singleton.2 ⟨rfl, unneeded⟩
  cases proposed : state.context.isPullRequest with
  | false =>
      rw [ending_ok (accepted_elsewhere proposed)]
      refine .of_record (alone fun _ item asks => ?_) rfl
      rw [is_pull_request_of_target asks.target asks.proposed] at proposed
      cases proposed
  | true =>
      obtain ⟨item, target, proposes⟩ := exists_target proposed
      have asks : Turn.AsksFor ⟨.files mode source pattern body, state⟩ item :=
        ⟨⟨mode, source, pattern, body, rfl⟩, target, proposes⟩
      cases start : state.context.changedFiles with
      | some files =>
          rw [ending_ok (accepted_known proposed start)]
          exact .of_record (alone fun unknown => by
            rw [start] at unknown
            cases unknown) rfl
      | none =>
          have same : ∀ turn ∈ [(⟨.files mode source pattern body, state⟩ : Turn σ)],
              turn.state.context.target = state.context.target :=
            List.forall_mem_singleton.2 rfl
          cases answer : (services.client.answer (.changedFiles item.number) state.store).1 with
          | ok files =>
              rw [ending_ok (accepted_listed target proposes start answer)]
              exact ⟨rfl, same, [item.number], listings_listed services item state,
                .listed start (List.forall_mem_nil _) start asks answer (List.forall_mem_nil _) rfl⟩
          | error failure =>
              rw [ending_error (accepted_failed target proposes start answer)]
              exact ⟨rfl, same, [item.number], listings_listed services item state,
                .failed start (List.forall_mem_nil _) start asks answer rfl start⟩

theorem files_law : EndLaw services (FilesCourse services) where
  idle _ := .of_record (List.forall_mem_nil _) rfl
  chain early late := by
    obtain ⟨target, targets, asked, listings, acquires⟩ := early
    obtain ⟨others, later, more, grown, acquired⟩ := late
    refine ⟨others.trans target, List.forall_mem_append.2 ⟨targets, fun turn member => ?_⟩,
      asked ++ more, ?_, acquires.chain acquired⟩
    · exact (later turn member).trans target
    · rw [grown, listings, List.append_assoc]
  gate condition state :=
    .of_record (List.forall_mem_singleton.2 ⟨rfl, fun _ _ asks => nomatch asks.node⟩)
      (record_pass_gate condition state)
  operation operation state :=
    .of_record (List.forall_mem_singleton.2 ⟨rfl, fun _ _ asks => nomatch asks.node⟩)
      (record_operate operation state)
  files := .files

end Courses

section Decisions

def Turn.RunsBody (services : Services σ) (turn : Turn σ) : Prop :=
  ∃ mode source pattern body after, turn.node = .files mode source pattern body ∧
    (filesAccepted services mode pattern).run.run turn.state = (.ok true, after)

/-- A files step goes by a list. Its body is run if the list is as the mode asks, and the walk goes
on behind it otherwise; the list is known from then on. -/
structure Turn.GoesBy (services : Services σ) (files : List String) (turn : Turn σ)
    (mode : FileMatch) (pattern : Pattern) (body : List Tree.Node) : Prop where
  runs : turn.RunsBody services ↔ mode.Holds pattern files
  walked : ∃ after : RunState σ Context,
    after.context = { turn.state.context with changedFiles := some files } ∧
    (walkNode services turn.node).run.run turn.state =
      if mode.accepts pattern.occursIn files then
        (do
          walkNodes services body
          return Flow.proceed : Run σ Flow).run.run after
      else (.ok .proceed, after)

variable {turn : Turn σ} {mode : FileMatch} {source : String} {pattern : Pattern}
  {body : List Tree.Node} {files : List String} {after : RunState σ Context}

theorem runs_body_iff {result : Except Failure Bool}
    (node : turn.node = .files mode source pattern body)
    (taken : (filesAccepted services mode pattern).run.run turn.state = (result, after)) :
    turn.RunsBody services ↔ result = .ok true := by
  constructor
  · intro runs
    obtain ⟨_, _, _, _, _, same, accepted⟩ := runs
    rw [node] at same
    cases same
    rw [taken] at accepted
    exact (Prod.mk.inj accepted).1
  · intro same
    rw [same] at taken
    exact ⟨mode, source, pattern, body, after, node, taken⟩

theorem walk_files {accepted : Bool} {state : RunState σ Context}
    (taken : (filesAccepted services mode pattern).run.run state = (.ok accepted, after)) :
    (walkNode services (.files mode source pattern body)).run.run state =
      if accepted then
        (do
          walkNodes services body
          return Flow.proceed : Run σ Flow).run.run after
      else (.ok .proceed, after) := by
  rw [walkNode, run_bind_ok taken]
  cases accepted with
  | true => rfl
  | false => rfl

theorem goes_by_of_accepted (node : turn.node = .files mode source pattern body)
    (taken : (filesAccepted services mode pattern).run.run turn.state =
      (.ok (mode.accepts pattern.occursIn files), after))
    (kept : after.context = { turn.state.context with changedFiles := some files }) :
    turn.GoesBy services files mode pattern body := by
  constructor
  · rw [runs_body_iff node taken, Except.ok.injEq, FileMatch.accepts_iff]
  · rw [node]
    exact ⟨after, kept, walk_files taken⟩

theorem goes_by_of_known (node : turn.node = .files mode source pattern body)
    (proposed : turn.state.context.isPullRequest = true)
    (known : turn.state.context.changedFiles = some files) :
    turn.GoesBy services files mode pattern body := by
  apply goes_by_of_accepted node (accepted_known proposed known)
  rw [← known]

theorem goes_by_of_listed {item : Item} (node : turn.node = .files mode source pattern body)
    (asks : turn.AsksFor item) (unknown : turn.state.context.changedFiles = none)
    (answer : (services.client.answer (.changedFiles item.number) turn.state.store).1 =
      .ok files) :
    turn.GoesBy services files mode pattern body :=
  goes_by_of_accepted node (accepted_listed asks.target asks.proposed unknown answer) rfl

/-- A list is known from the start of a walk, or it is the answer to a files step. -/
def Origin (services : Services σ) (start : RunState σ Context) (visited : List (Turn σ))
    (files : List String) : Prop :=
  start.context.changedFiles = some files ∨ ∃ reading ∈ visited, ∃ item, reading.AsksFor item ∧
    (services.client.answer (.changedFiles item.number) reading.state.store).1 = .ok files

def Shared (services : Services σ) (start : RunState σ Context) (visited : List (Turn σ))
    (files : List String) : Prop :=
  ∀ turn ∈ visited, ∀ mode source pattern body, turn.node = .files mode source pattern body →
    Origin services start visited files ∧ turn.GoesBy services files mode pattern body

/-- A turn is the first files step and fails to list the files. The walk ends there with that
failure: no body has been run, and no list is kept. -/
structure InterruptedAt (services : Services σ) (visited : List (Turn σ))
    (ended : Option Failure × RunState σ Context) (reading : Turn σ) (failure : Failure) :
    Prop where
  last : ∃ early, visited = early ++ [reading] ∧ ∀ turn ∈ early, ∀ mode source pattern body,
    turn.node ≠ .files mode source pattern body
  refused : ∃ item, reading.AsksFor item ∧
    (services.client.answer (.changedFiles item.number) reading.state.store).1 = .error failure
  skipped : ¬reading.RunsBody services
  stopped : ended.1 = some failure
  forgotten : ended.2.context.changedFiles = none

variable {start : RunState σ Context} {visited : List (Turn σ)}
  {ended : Option Failure × RunState σ Context}

/-- On a pull request every files step needs the list. -/
theorem asks_of_node (target : turn.state.context.target = start.context.target)
    (proposed : start.context.isPullRequest = true)
    (node : turn.node = .files mode source pattern body) : ∃ item, turn.AsksFor item := by
  obtain ⟨item, here, proposes⟩ := exists_target proposed
  exact ⟨item, ⟨mode, source, pattern, body, node⟩, target.trans here, proposes⟩

theorem FilesCourse.shares (course : FilesCourse services start visited ended)
    (proposed : start.context.isPullRequest = true) :
    ∃ files, Shared services start visited files ∨
      ∃ reading failure, InterruptedAt services visited ended reading failure := by
  obtain ⟨_, targets, asked, _, acquires⟩ := course
  have pull : ∀ turn ∈ visited, turn.state.context.isPullRequest = true := by
    intro turn member
    rw [Context.isPullRequest, targets turn member]
    exact proposed
  have silent {turn : Turn σ} {turns : List (Turn σ)} (unasked : Unasked turns)
      (member : turn ∈ turns) (here : turn ∈ visited) {mode : FileMatch} {source : String}
      {pattern : Pattern} {body : List Tree.Node} :
      turn.node ≠ .files mode source pattern body := by
    intro node
    obtain ⟨item, asks⟩ := asks_of_node (targets turn here) proposed node
    exact (unasked turn member).2 item asks
  cases acquires with
  | @known files _ _ begins turns _ =>
      refine ⟨files, .inl fun turn member mode source pattern body node => ?_⟩
      exact ⟨.inl begins, goes_by_of_known node (pull turn member) (turns turn member)⟩
  | unasked _ turns _ =>
      refine ⟨[], .inl fun turn member mode source pattern body node => ?_⟩
      exact absurd node (silent turns member member)
  | @listed early late reading item files _ _ turns unknown asks answer others _ =>
      have inside : reading ∈ early ++ reading :: late := by simp
      refine ⟨files, .inl fun turn member mode source pattern body node => ?_⟩
      refine ⟨.inr ⟨reading, inside, item, asks, answer⟩, ?_⟩
      rcases List.mem_append.1 member with before | behind
      · exact absurd node (silent turns before member)
      · rcases List.mem_cons.1 behind with rfl | behind
        · exact goes_by_of_listed node asks unknown answer
        · exact goes_by_of_known node (pull turn member) (others turn behind)
  | @failed early reading item failure _ _ turns unknown asks answer stopped kept =>
      have skipped : ¬reading.RunsBody services := by
        obtain ⟨mode, source, pattern, body, node⟩ := asks.node
        rw [runs_body_iff node (accepted_failed asks.target asks.proposed unknown answer)]
        exact nofun
      have last : ∃ before, early ++ [reading] = before ++ [reading] ∧ ∀ turn ∈ before,
          ∀ mode source pattern body, turn.node ≠ .files mode source pattern body := by
        refine ⟨early, rfl, fun turn member mode source pattern body => ?_⟩
        exact silent turns member (List.mem_append_left _ member)
      exact ⟨[], .inr ⟨reading, failure, last, ⟨item, asks, answer⟩, skipped, stopped, kept⟩⟩

/-- After a failed listing there is only the one files step. -/
theorem InterruptedAt.alone {reading : Turn σ} {failure : Failure}
    (interrupted : InterruptedAt services visited ended reading failure) (member : turn ∈ visited)
    (node : turn.node = .files mode source pattern body) : turn = reading := by
  obtain ⟨early, split, silent⟩ := interrupted.last
  rw [split] at member
  rcases List.mem_append.1 member with before | same
  · exact absurd node (silent turn before mode source pattern body)
  · exact List.mem_singleton.1 same

theorem FilesCourse.asks (course : FilesCourse services start visited ended) :
    ∃ asked, listings ended.2 = listings start ++ asked ∧ asked.length ≤ 1 ∧
      ∀ number ∈ asked, start.context.changedFiles = none ∧ ∃ item,
        start.context.target = some item ∧ item.isPullRequest = true ∧ item.number = number := by
  obtain ⟨_, targets, asked, listings, acquires⟩ := course
  refine ⟨asked, listings, ?_⟩
  have own {reading : Turn σ} {item : Item} (member : reading ∈ visited)
      (unlisted : start.context.changedFiles = none) (asks : reading.AsksFor item) :
      ∀ number ∈ [item.number], start.context.changedFiles = none ∧ ∃ item,
        start.context.target = some item ∧ item.isPullRequest = true ∧ item.number = number := by
    rw [List.forall_mem_singleton]
    have target := (targets reading member).symm.trans asks.target
    exact ⟨unlisted, item, target, asks.proposed, rfl⟩
  cases acquires with
  | known _ _ _ => exact ⟨Nat.zero_le 1, List.forall_mem_nil _⟩
  | unasked _ _ _ => exact ⟨Nat.zero_le 1, List.forall_mem_nil _⟩
  | listed begins _ _ asks _ _ _ => exact ⟨Nat.le_refl 1, own (by simp) begins asks⟩
  | failed begins _ _ asks _ _ _ => exact ⟨Nat.le_refl 1, own (by simp) begins asks⟩

/-- What the files steps of a walk have in common: the list they go by, and the pull requests whose
files the walk has listed. -/
structure SharesFiles (services : Services σ) (start : RunState σ Context)
    (visited : List (Turn σ)) (ended : Option Failure × RunState σ Context)
    (files : List String) (asked : List Nat) : Prop where
  listings : listings ended.2 = listings start ++ asked
  once : asked.length ≤ 1
  /-- Only the files of the pull request at hand are listed, and only if they are not known. -/
  own : ∀ number ∈ asked, start.context.changedFiles = none ∧ ∃ item,
    start.context.target = some item ∧ item.isPullRequest = true ∧ item.number = number
  shared : start.context.isPullRequest = true →
    Shared services start visited files ∨
      ∃ reading failure, InterruptedAt services visited ended reading failure
  /-- Of two steps that ask whether some and whether no files match, one runs its body. -/
  apart : start.context.isPullRequest = true → ∀ first ∈ visited, ∀ second ∈ visited,
    ∀ source other pattern body rest, first.node = .files .any source pattern body →
      second.node = .files .none other pattern rest →
        (first.RunsBody services ↔ ¬second.RunsBody services)
  /-- Where all files match, some do. -/
  every : start.context.isPullRequest = true → ∀ first ∈ visited, ∀ source pattern body,
    first.node = .files .all source pattern body → first.RunsBody services →
      files ≠ [] ∧ ∀ second ∈ visited, ∀ other rest,
        second.node = .files .any other pattern rest → second.RunsBody services
  elsewhere : start.context.isPullRequest = false → ∀ turn ∈ visited,
    ∀ mode source pattern body, turn.node = .files mode source pattern body →
      ¬turn.RunsBody services ∧
        (walkNode services turn.node).run.run turn.state = (.ok .proceed, turn.state)

theorem Shared.apart (shared : Shared services start visited files) :
    ∀ first ∈ visited, ∀ second ∈ visited, ∀ source other pattern body rest,
      first.node = .files .any source pattern body →
        second.node = .files .none other pattern rest →
          (first.RunsBody services ↔ ¬second.RunsBody services) := by
  intro first member second there source other pattern body rest node last
  have early := (shared first member _ _ _ _ node).2
  have late := (shared second there _ _ _ _ last).2
  rw [early.runs, late.runs, FileMatch.holds_none_iff]
  exact Classical.not_not.symm

theorem Shared.every (shared : Shared services start visited files) :
    ∀ first ∈ visited, ∀ source pattern body, first.node = .files .all source pattern body →
      first.RunsBody services → files ≠ [] ∧ ∀ second ∈ visited, ∀ other rest,
        second.node = .files .any other pattern rest → second.RunsBody services := by
  intro first member source pattern body node runs
  have holds := (shared first member _ _ _ _ node).2.runs.1 runs
  constructor
  · exact holds.1
  · intro second there other rest last
    rw [(shared second there _ _ _ _ last).2.runs]
    exact FileMatch.holds_any_of_all holds

/-- On a pull request all files steps of a walk go by one list of changed files, which is listed at
most once, by the first of them. On anything else none is listed and no body is run. -/
theorem files_steps_share_one_list (services : Services σ) (tree : ActionTree)
    (start : RunState σ Context) : ∃ files asked,
      SharesFiles services start (turns services tree.children start)
        (ending (walk services tree) start) files asked := by
  have course : FilesCourse services start (turns services tree.children start)
      (ending (walk services tree) start) := files_law.walk_nodes tree.children start
  obtain ⟨asked, listings, once, own⟩ := course.asks
  cases proposed : start.context.isPullRequest with
  | false =>
      refine ⟨[], asked, listings, once, own, ?_, ?_, ?_, ?_⟩
      · rw [proposed]
        exact nofun
      · rw [proposed]
        exact nofun
      · rw [proposed]
        exact nofun
      · intro _ turn member mode source pattern body node
        have elsewhere : turn.state.context.isPullRequest = false := by
          rw [Context.isPullRequest, course.targets turn member]
          exact proposed
        have skipped := @accepted_elsewhere _ services _ mode pattern elsewhere
        rw [runs_body_iff node skipped, node, walk_files skipped]
        exact ⟨nofun, rfl⟩
  | true =>
      obtain ⟨files, shares⟩ := course.shares proposed
      refine ⟨files, asked, listings, once, own, fun _ => shares, fun _ => ?_, fun _ => ?_, ?_⟩
      · rcases shares with shared | ⟨reading, failure, interrupted⟩
        · exact shared.apart
        · intro first member second there source other pattern body rest node last
          rw [interrupted.alone member node] at node
          rw [interrupted.alone there last, node] at last
          cases last
      · rcases shares with shared | ⟨reading, failure, interrupted⟩
        · exact shared.every
        · intro first member source pattern body node runs
          rw [interrupted.alone member node] at runs
          exact absurd runs interrupted.skipped
      · rw [proposed]
        exact nofun

end Decisions

end Run

end RepoRules
