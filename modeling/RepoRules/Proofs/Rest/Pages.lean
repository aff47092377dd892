import RepoRules.Proofs.Repository.Seeding
import RepoRules.Proofs.Rest.LabelRemoval

/-!
Lists that come in pages. The pages are asked for one after another, from the first one on, until one
of them settles what is looked for, fails, or is the last one that may be asked for. What comes is
the list itself, page by page, if the service shows the entries of each page.
-/

namespace RepoRules

theorem eq_of_same_digits {number other : Nat} (same : toString number = toString other) :
    number = other := by
  have digits (number : Nat) : (toString number).toList = Nat.toDigits 10 number := by
    rw [Nat.toString_eq_ofList_toDigits, String.toList_ofList]
  have equal : Nat.toDigits 10 number = Nat.toDigits 10 other := by
    rw [← digits, ← digits, same]
  rw [← Nat.ofDigitChars_ten_toDigits (n := number), equal, Nat.ofDigitChars_ten_toDigits]

namespace Rest

variable {τ α β : Type}

def page (entries : List α) (number : Nat) : List α :=
  (entries.drop (Api.pageSize * (number - 1))).take Api.pageSize

theorem page_behind {entries : List α} {number : Nat}
    (behind : entries.length ≤ Api.pageSize * (number - 1)) : page entries number = [] := by
  rw [page, List.drop_of_length_le behind, List.take_nil]

theorem first_page {entries : List α} (few : entries.length ≤ Api.pageSize) :
    page entries 1 = entries := by
  rw [page, Nat.sub_self, Nat.mul_zero, List.drop_zero, List.take_of_length_le few]

section Pages

variable (entries : List α)

theorem page_length (number : Nat) :
    (page entries number).length =
      min Api.pageSize (entries.length - Api.pageSize * (number - 1)) := by
  simp [page]

theorem flatten_pages (count : Nat) :
    ((List.range' 1 count).map (page entries)).flatten = entries.take (Api.pageSize * count) := by
  induction count with
  | zero => simp
  | succ count induction =>
      rw [List.range'_1_concat, List.map_append, List.flatten_append, induction]
      simp [page, Nat.mul_succ, List.take_add]

end Pages

/-- A request, and what came back for it. -/
abbrev Sent := Request × Except String Response

/-- A transport that keeps a record of what it is to send and of what comes back. -/
def Transport.recording (transport : Transport τ) : Transport (τ × List Sent) where
  send request state :=
    let (answer, after) := transport.send request state.1
    (answer, (after, state.2 ++ [(request, answer)]))

theorem Transport.send_recording {transport : Transport τ} {request : Request} {state after : τ}
    {answer : Except String Response} (sending : transport.send request state = (answer, after))
    (sent : List Sent) :
    transport.recording.send request (state, sent) =
      (answer, (after, sent ++ [(request, answer)])) := by
  simp only [recording, sending]

theorem run_map (view : α → β) (steps : Exchange τ α) (state : τ) :
    (view <$> steps).run.run state =
      ((steps.run.run state).1.map view, (steps.run.run state).2) := by
  rw [map_eq_pure_bind, run_bind]
  rcases steps.run.run state with ⟨_ | _, after⟩
  · rfl
  · rfl

theorem run_lift_result (result : Except Failure α) (state : τ) :
    (Api.liftResult result : Exchange τ α).run.run state = (result, state) := by
  cases result <;> rfl

theorem run_bind_lift (steps : Exchange τ α) (next : α → Except Failure β) (state : τ) :
    (steps >>= fun value => Api.liftResult (next value)).run.run state =
      ((steps.run.run state).1 >>= next, (steps.run.run state).2) := by
  rw [run_bind]
  rcases steps.run.run state with ⟨_ | _, after⟩
  · rfl
  · exact run_lift_result _ _

namespace Api

variable (api : Api τ)

def recording : Api (τ × List Sent) :=
  ⟨api.transport.recording, api.base, api.token, api.repository⟩

def addressOf (names segments : List String) : Url :=
  let all := ["repos", api.repository.owner, api.repository.name] ++ segments
  { api.base with path := .segments (all.foldl Url.pushSegment (Url.withoutFinalSlash names)) }

def pageUrl (names segments : List String) (pairs : List (String × String)) (number : Nat) : Url :=
  let query := pairs ++ [("per_page", toString pageSize), ("page", toString number)]
  query.foldl (fun url pair => url.addQuery pair.1 pair.2) (api.addressOf names segments)

def pageRequest (names segments : List String) (pairs : List (String × String)) (number : Nat) :
    Request :=
  api.request .get (api.pageUrl names segments pairs number) jsonAccept none

/-- What is taken from an answer: the entries of a page, or why there are none. -/
def received (read : Decode.Reading α) (answer : Except String Response) :
    Except Failure (List α) :=
  judged answer >>= bodyAs (Decode.listOf read)

section Requests

variable {names : List String} (divided : api.base.path = .segments names)

include divided

theorem repository_url_of_segments (segments : List String) :
    api.repositoryUrl segments = pure (api.addressOf names segments) := by
  have extended : urlUnder api.base (["repos", api.repository.owner, api.repository.name] ++
      segments) = .ok (api.addressOf names segments) := by
    rw [urlUnder, Url.extend_of_segments divided]
    rfl
  rw [repositoryUrl, extended]
  rfl

theorem run_list_page {segments : List String} {pairs : List (String × String)} {number : Nat}
    (read : Decode.Reading α) {state after : τ} {answer : Except String Response}
    (sending : api.transport.send (api.pageRequest names segments pairs number) state =
      (answer, after)) :
    (api.listPage segments pairs number read).run.run state = (received read answer, after) := by
  have opened : api.listPage segments pairs number read =
      (do
        let response ← api.perform .get (api.pageUrl names segments pairs number) jsonAccept none
        liftResult (bodyAs (Decode.listOf read) response)) := by
    rw [listPage, api.repository_url_of_segments divided, pure_bind]
    rfl
  rw [pageRequest] at sending
  rw [opened, run_bind, run_perform, sending, received]
  cases judged answer with
  | error failure => rfl
  | ok response => exact run_lift_result _ _

theorem run_list_page_recording {segments : List String} {pairs : List (String × String)}
    {number : Nat} (read : Decode.Reading α) {state after : τ}
    {answer : Except String Response}
    (sending : api.transport.send (api.pageRequest names segments pairs number) state =
      (answer, after)) (sent : List Sent) :
    (api.recording.listPage segments pairs number read).run.run (state, sent) =
      (received read answer,
        (after, sent ++ [(api.pageRequest names segments pairs number, answer)])) := by
  apply api.recording.run_list_page divided
  exact Transport.send_recording sending sent

theorem run_write_to {method : Method} {segments : List String} {body : Json} {state after : τ}
    {answer : Except String Response}
    (sending : api.transport.send
      (api.request method (api.addressOf names segments) jsonAccept (some body)) state =
        (answer, after)) :
    (api.writeTo method segments body).run.run state =
      ((judged answer).map fun _ => (), after) := by
  have opened : api.writeTo method segments body =
      (fun _ => ()) <$> api.perform method (api.addressOf names segments) jsonAccept (some body) := by
    rw [writeTo, api.repository_url_of_segments divided, pure_bind, map_eq_pure_bind]
  rw [opened, run_map, run_perform, sending]

end Requests

end Api

section Turns

def Transport.Answers (transport : Transport τ) (request : Request)
    (answer : Except String Response) : Prop :=
  ∃ state, (transport.send request state).1 = answer

/-- How pages are asked for from one on, so many at most. A page that could not be had is the last
one, and so is one that settles what is looked for. -/
inductive Turns (transport : Transport τ) (request : Nat → Request)
    (receive : Except String Response → Except Failure (List α)) (settles : List α → Bool) :
    (remaining start : Nat) → List Sent → Prop
  | limit (start : Nat) : Turns transport request receive settles 0 start []
  | failed {remaining start : Nat} {answer : Except String Response} {failure : Failure}
      (asked : transport.Answers (request start) answer) (refused : receive answer = .error failure) :
      Turns transport request receive settles (remaining + 1) start [(request start, answer)]
  | settled {remaining start : Nat} {answer : Except String Response} {batch : List α}
      (asked : transport.Answers (request start) answer) (came : receive answer = .ok batch)
      (enough : settles batch = true) :
      Turns transport request receive settles (remaining + 1) start [(request start, answer)]
  | onward {remaining start : Nat} {answer : Except String Response} {batch : List α}
      {log : List Sent} (asked : transport.Answers (request start) answer)
      (came : receive answer = .ok batch) (more : settles batch = false)
      (rest : Turns transport request receive settles remaining (start + 1) log) :
      Turns transport request receive settles (remaining + 1) start ((request start, answer) :: log)

/-- What all pages of a record come to: their entries, or the first failure. -/
def collected (receive : Except String Response → Except Failure (List α)) (log : List Sent) :
    Except Failure (List (List α)) :=
  log.mapM fun sent => receive sent.2

section Collected

variable {receive : Except String Response → Except Failure (List α)} {sent : Sent}

theorem collected_of_error {failure : Failure} (refused : receive sent.2 = .error failure)
    (log : List Sent) : collected receive (sent :: log) = .error failure := by
  rw [collected, List.mapM_cons, refused]
  rfl

theorem collected_of_ok {batch : List α} (came : receive sent.2 = .ok batch) (log : List Sent) :
    collected receive (sent :: log) = (collected receive log).map (batch :: ·) := by
  rw [collected, List.mapM_cons, came, collected]
  cases log.mapM fun sent => receive sent.2 with
  | error failure => rfl
  | ok batches => rfl

end Collected

def Sent.Succeeded (sent : Sent) : Prop :=
  ∃ response, sent.2 = .ok response ∧ response.isSuccess = true

theorem Sent.Succeeded.judged {sent : Sent} (succeeded : sent.Succeeded) :
    ∃ response, Api.judged sent.2 = .ok response := by
  obtain ⟨response, answered, success⟩ := succeeded
  exact ⟨response, by rw [answered, Api.judged, if_pos success]⟩

theorem Sent.succeeded_of_received {read : Decode.Reading α} {sent : Sent} {batch : List α}
    (came : Api.received read sent.2 = .ok batch) : sent.Succeeded := by
  obtain ⟨response, judged, _⟩ := bind_eq_ok came
  unfold Api.judged at judged
  split at judged
  · next answered =>
      split at judged
      · next success => exact ⟨_, answered, success⟩
      · cases judged
  · cases judged

/-- A transport that has a list in pages: what comes for a page is that page, or else the failure of
the request. -/
def Transport.Gives (transport : Transport τ) (request : Nat → Request)
    (receive : Except String Response → Except Failure (List α)) (entries : List α) : Prop :=
  ∀ number, 0 < number → ∀ answer, transport.Answers (request number) answer →
    receive answer = (Api.judged answer).map fun _ => page entries number

namespace Turns

variable {transport : Transport τ} {request : Nat → Request}
  {receive : Except String Response → Except Failure (List α)} {settles : List α → Bool}
  {remaining start : Nat} {log : List Sent}

theorem bounded (turns : Turns transport request receive settles remaining start log) :
    log.length ≤ remaining := by
  induction turns with
  | limit | failed | settled => simp
  | onward _ _ _ _ induction => simpa using induction

theorem begins (turns : Turns transport request receive settles (remaining + 1) start log) :
    log ≠ [] := by
  cases turns <;> simp

theorem requests (turns : Turns transport request receive settles remaining start log) :
    log.map Prod.fst = (List.range' start log.length).map request := by
  induction turns with
  | limit | failed | settled => simp
  | onward _ _ _ _ induction => simp [List.range'_succ, induction]

/-- A page that could not be had ends the turns, and what it came to is what all comes to. -/
theorem fails (turns : Turns transport request receive settles remaining start log) {sent : Sent}
    (member : sent ∈ log) {failure : Failure} (refused : receive sent.2 = .error failure) :
    collected receive log = .error failure ∧ log.getLast? = some sent := by
  induction turns with
  | limit => cases member
  | failed =>
      obtain rfl := List.mem_singleton.1 member
      exact ⟨collected_of_error refused [], rfl⟩
  | settled _ came _ =>
      obtain rfl := List.mem_singleton.1 member
      rw [came] at refused
      cases refused
  | onward _ came _ _ induction =>
      rcases List.mem_cons.1 member with rfl | later
      · rw [came] at refused
        cases refused
      · obtain ⟨ended, last⟩ := induction later
        rw [collected_of_ok came, ended, List.getLast?_cons, last]
        exact ⟨rfl, rfl⟩

section Given

variable {entries : List α} (gives : transport.Gives request receive entries)

include gives

theorem batch_eq {number : Nat} (positive : 0 < number) {answer : Except String Response}
    (asked : transport.Answers (request number) answer) {batch : List α}
    (came : receive answer = .ok batch) : batch = page entries number := by
  rw [gives number positive answer asked] at came
  obtain ⟨_, _, same⟩ := map_eq_ok came
  exact same.symm

theorem comes {number : Nat} (positive : 0 < number) {answer : Except String Response}
    (asked : transport.Answers (request number) answer)
    (succeeded : Sent.Succeeded (request number, answer)) :
    receive answer = .ok (page entries number) := by
  obtain ⟨response, taken⟩ := succeeded.judged
  rw [gives number positive answer asked]
  exact congrArg (Except.map fun _ => page entries number) taken

theorem receives (turns : Turns transport request receive settles remaining start log)
    (positive : 0 < start) {place : Nat} {sent : Sent} (found : log[place]? = some sent)
    (succeeded : sent.Succeeded) : receive sent.2 = .ok (page entries (start + place)) := by
  induction turns generalizing place with
  | limit => cases found
  | failed asked | settled asked =>
      cases place with
      | zero =>
          cases found
          exact comes gives positive asked succeeded
      | succ place => cases found
  | onward asked _ _ _ induction =>
      cases place with
      | zero =>
          cases found
          exact comes gives positive asked succeeded
      | succ place =>
          rw [Nat.add_comm place, ← Nat.add_assoc]
          exact induction (by omega) found

theorem received (turns : Turns transport request receive settles remaining start log)
    (positive : 0 < start) (succeeded : ∀ sent ∈ log, sent.Succeeded) :
    collected receive log = .ok ((List.range' start log.length).map (page entries)) := by
  induction turns with
  | limit => rfl
  | failed asked refused =>
      rw [comes gives positive asked (succeeded _ List.mem_cons_self)] at refused
      cases refused
  | settled asked came _ =>
      rw [collected_of_ok came, batch_eq gives positive asked came]
      rfl
  | onward asked came _ _ induction =>
      have others := induction (by omega)
        (fun sent member => succeeded sent (List.mem_cons_of_mem _ member))
      rw [collected_of_ok came, others, batch_eq gives positive asked came]
      simp [List.range'_succ, Except.map]

theorem earlier (turns : Turns transport request receive settles remaining start log)
    (positive : 0 < start) {number : Nat} (from_start : start ≤ number)
    (inside : number + 1 < start + log.length) : settles (page entries number) = false := by
  induction turns with
  | limit | failed | settled =>
      simp only [List.length_nil, List.length_singleton] at inside
      omega
  | @onward _ start _ _ _ asked came more _ induction =>
      rw [List.length_cons] at inside
      by_cases first : number = start
      · rw [first, ← batch_eq gives positive asked came]
        exact more
      · exact induction (by omega) (by omega) (by omega)

/-- Where every request succeeded, the last one settled it, unless no more may be asked for. -/
theorem ends (turns : Turns transport request receive settles remaining start log)
    (positive : 0 < start) (succeeded : ∀ sent ∈ log, sent.Succeeded) :
    log.length = remaining ∨
      settles (page entries (start + log.length - 1)) = true := by
  induction turns with
  | limit => exact .inl rfl
  | failed asked refused =>
      rw [comes gives positive asked (succeeded _ List.mem_cons_self)] at refused
      cases refused
  | settled asked came enough =>
      right
      rw [batch_eq gives positive asked came] at enough
      simpa using enough
  | @onward remaining start _ _ log _ came _ _ induction =>
      have others := induction (by omega)
        (fun sent member => succeeded sent (List.mem_cons_of_mem _ member))
      have next : start + 1 + log.length - 1 = start + (log.length + 1) - 1 := by omega
      rw [next] at others
      rw [List.length_cons]
      exact others.imp_left (congrArg (· + 1))

end Given

end Turns

namespace Api

def pagesFrom (api : Api τ) (segments : List String) (pairs : List (String × String))
    (read : Decode.Reading α) (settles : List α → Bool) :
    (remaining start : Nat) → Exchange τ (List (List α))
  | 0, _ => return []
  | remaining + 1, start => do
      let batch ← api.listPage segments pairs start read
      if settles batch then return [batch]
      else return batch :: (← pagesFrom api segments pairs read settles remaining (start + 1))

section Runs

variable (segments : List String) (pairs : List (String × String))
  (read : Decode.Reading α) (settles : List α → Bool)

theorem run_pages_succ (api : Api τ) (remaining start : Nat) (state : τ) :
    (api.pagesFrom segments pairs read settles (remaining + 1) start).run.run state =
      match (api.listPage segments pairs start read).run.run state with
      | (.error failure, after) => (.error failure, after)
      | (.ok batch, after) =>
          if settles batch then (.ok [batch], after)
          else
            let (others, last) :=
              (api.pagesFrom segments pairs read settles remaining (start + 1)).run.run after
            (others.map (batch :: ·), last) := by
  rw [pagesFrom, run_bind]
  rcases (api.listPage segments pairs start read).run.run state with ⟨_ | batch, after⟩
  · rfl
  · dsimp only
    cases settles batch with
    | true => rfl
    | false =>
        rw [if_neg Bool.false_ne_true, if_neg Bool.false_ne_true, run_bind]
        rcases (api.pagesFrom segments pairs read settles remaining (start + 1)).run.run after with
          ⟨_ | _, last⟩
        · rfl
        · rfl

/-- With a record or without one, the pages are those that came, unless one failed. -/
theorem run_pages_from (api : Api τ) {names : List String}
    (divided : api.base.path = .segments names) (remaining start : Nat) (state : τ)
    (sent : List Sent) :
    ∃ after log,
      (api.pagesFrom segments pairs read settles remaining start).run.run state =
        (collected (received read) log, after) ∧
      (api.recording.pagesFrom segments pairs read settles remaining start).run.run (state, sent) =
        (collected (received read) log, (after, sent ++ log)) ∧
      Turns api.transport (api.pageRequest names segments pairs) (received read) settles
        remaining start log := by
  -- what was sent before is arbitrary, as it grows with every page
  induction remaining generalizing start state sent with
  | zero =>
      refine ⟨state, [], rfl, ?_, .limit start⟩
      rw [List.append_nil]
      rfl
  | succ remaining induction =>
      obtain ⟨answer, current, sending⟩ : ∃ answer current,
          api.transport.send (api.pageRequest names segments pairs start) state =
            (answer, current) := ⟨_, _, rfl⟩
      have asked : api.transport.Answers (api.pageRequest names segments pairs start) answer :=
        ⟨state, by rw [sending]⟩
      have listed := api.run_list_page divided read sending
      have recorded := api.run_list_page_recording divided read sending sent
      rw [run_pages_succ, run_pages_succ, listed, recorded]
      cases came : received read answer with
      | error failure =>
          refine ⟨current, [(api.pageRequest names segments pairs start, answer)], ?_, ?_,
            .failed asked came⟩
          all_goals
            rw [collected_of_error came]
      | ok batch =>
          dsimp only
          cases enough : settles batch with
          | true =>
              refine ⟨current, [(api.pageRequest names segments pairs start, answer)], ?_, ?_,
                .settled asked came enough⟩
              all_goals
                rw [if_pos rfl, collected_of_ok came]
                rfl
          | false =>
              obtain ⟨after, log, runs, records, turns⟩ := induction (start + 1) current
                (sent ++ [(api.pageRequest names segments pairs start, answer)])
              rw [List.append_assoc] at records
              refine ⟨after, (api.pageRequest names segments pairs start, answer) :: log, ?_, ?_,
                .onward asked came enough turns⟩
              · rw [if_neg Bool.false_ne_true, runs, collected_of_ok came]
              · rw [if_neg Bool.false_ne_true, records, collected_of_ok came]
                rfl

end Runs

end Api

end Turns

section Shown

/-- A transport that serves a list in pages. Every success has a body that shows the entries of the
page one after the other. -/
def Transport.Serves (transport : Transport τ) (request : Nat → Request)
    (shows : Json.Written → α → Prop) (entries : List α) : Prop :=
  ∀ number, 0 < number → ∀ state response,
    (transport.send (request number) state).1 = .ok response → response.isSuccess = true →
      ∃ items, Json.Written.ofText? response.body = some (.array items) ∧
        List.Forall₂ shows items (page entries number)

/-- Pages that are shown in a way in which entries are read are the pages that come. -/
theorem Transport.Serves.gives {transport : Transport τ} {request : Nat → Request}
    {read : Decode.Reading α} {shows : Json.Written → α → Prop}
    {entries : List α} (serves : transport.Serves request shows entries)
    (reads : ∀ item entry, shows item entry → read item = .ok entry) :
    transport.Gives request (Api.received read) entries := by
  rintro number positive _ ⟨state, rfl⟩
  rw [Api.received]
  cases answered : (transport.send (request number) state).1 with
  | error message => rfl
  | ok response =>
      rw [Api.judged]
      split
      · next success =>
          obtain ⟨items, written, shown⟩ := serves number positive state response answered success
          have taken : items.mapM read = .ok (page entries number) :=
            mapM_eq_ok_iff.2 (shown.imp reads)
          change bodyAs (Decode.listOf read) response = .ok (page entries number)
          rw [bodyAs, written]
          exact congrArg (Except.mapError undecoded) taken
      · rfl

def Transport.showing (front text : String) : Transport Unit where
  send request state :=
    let body := if request.url.query = some (front ++ toString 1) then text else "[]"
    (.ok ⟨200, body⟩, state)

theorem Transport.showing_serves {request : Nat → Request} {front text : String}
    (asks : ∀ number, (request number).url.query = some (front ++ toString number))
    {shows : Json.Written → α → Prop} {items : List Json.Written} {entries : List α}
    (written : Json.Written.ofText? text = some (.array items))
    (shown : List.Forall₂ shows items entries) (few : entries.length ≤ Api.pageSize) :
    (showing front text).Serves request shows entries := by
  rintro number positive state _ ⟨⟩ _
  dsimp only
  rw [asks]
  by_cases first : number = 1
  · subst first
    rw [if_pos rfl, first_page few]
    exact ⟨items, written, shown⟩
  · have other : some (front ++ toString number) ≠ some (front ++ toString 1) := by
      intro same
      exact first (eq_of_same_digits (String.append_right_inj _ |>.1 (Option.some.inj same)))
    have behind : entries.length ≤ Api.pageSize * (number - 1) :=
      few.trans (Nat.le_mul_of_pos_right _ (by omega))
    rw [if_neg other, page_behind behind]
    exact ⟨[], by cbv, .nil⟩

end Shown

end Rest

end RepoRules
