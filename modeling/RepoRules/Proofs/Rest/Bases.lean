import RepoRules.Proofs.Net.PlainPath
import RepoRules.Rest.App

/-!
Requests under a base. If the base has segments, every address can be written, and no request fails
with a failure that is put down to the configuration. If its path is only text, nothing can be asked
for: every call fails before anything is sent.
-/

namespace RepoRules.Rest

section Exchanges

variable {τ α β : Type}

theorem run_bind (steps : Exchange τ α) (next : α → Exchange τ β) (state : τ) :
    (steps >>= next).run.run state =
      match steps.run.run state with
      | (.ok value, after) => (next value).run.run after
      | (.error failure, after) => (.error failure, after) := by
  rw [ExceptT.run_bind, StateT.run_bind]
  rcases steps.run.run state with ⟨_ | _, after⟩
  · rfl
  · rfl

theorem run_get (state : τ) : (get : Exchange τ τ).run.run state = (.ok state, state) := rfl

theorem run_catch (attempt : Exchange τ α) (handle : Failure → Exchange τ α) (state : τ) :
    (tryCatch attempt handle).run.run state =
      match attempt.run.run state with
      | (.ok value, after) => (.ok value, after)
      | (.error failure, after) => (handle failure).run.run after := by
  simp only [tryCatch, tryCatchThe, MonadExceptOf.tryCatch, ExceptT.tryCatch, ExceptT.run,
    ExceptT.mk, StateT.run, bind, StateT.bind]
  rcases attempt state with ⟨_ | _, after⟩
  · rfl
  · rfl

/-- Failures of such steps are not put down to the configuration. -/
def Configured (steps : Exchange τ α) : Prop :=
  ∀ state failure, (steps.run.run state).1 = .error failure → failure.category ≠ .configuration

def Stranded (steps : Exchange τ α) : Prop :=
  ∀ state, steps.run.run state = (.error Api.noBase, state)

namespace Configured

theorem pure (value : α) : Configured (Pure.pure value : Exchange τ α) := by
  intro state failure failed
  cases failed

theorem throw {failure : Failure} (other : failure.category ≠ .configuration) :
    Configured (MonadExcept.throw failure : Exchange τ α) := by
  intro state thrown failed
  cases failed
  exact other

theorem bind {steps : Exchange τ α} {next : α → Exchange τ β} (first : Configured steps)
    (behind : ∀ value, Configured (next value)) : Configured (steps >>= next) := by
  intro state failure failed
  rw [run_bind] at failed
  rcases taken : steps.run.run state with ⟨thrown | value, after⟩
  · rw [taken] at failed
    cases failed
    exact first state failure (by rw [taken])
  · rw [taken] at failed
    exact behind value after failure failed

theorem handled {attempt : Exchange τ α} {handle : Failure → Exchange τ α}
    (behind : ∀ failure, failure.category ≠ .configuration → Configured (handle failure))
    (first : Configured attempt) : Configured (tryCatch attempt handle) := by
  intro state failure failed
  rw [run_catch] at failed
  rcases taken : attempt.run.run state with ⟨thrown | value, after⟩
  · rw [taken] at failed
    exact behind thrown (first state thrown (by rw [taken])) after failure failed
  · rw [taken] at failed
    cases failed

theorem lift {result : Except Failure α}
    (others : ∀ failure, result = .error failure → failure.category ≠ .configuration) :
    Configured (Api.liftResult result : Exchange τ α) := by
  cases result with
  | ok value => exact pure value
  | error failure => exact throw (others failure rfl)

end Configured

theorem Stranded.bind {steps : Exchange τ α} (stranded : Stranded steps)
    (next : α → Exchange τ β) : Stranded (steps >>= next) := by
  intro state
  rw [run_bind, stranded]

end Exchanges

section Failures

variable {τ α : Type}

theorem category_of_http (status : Option Nat) (message : String) :
    (httpFailure status message).category ≠ .configuration := by
  unfold httpFailure Failure.withSource Failure.withCode Failure.of
  dsimp only
  split <;> decide

theorem category_of_status (response : Response) :
    (Api.statusFailure response).category ≠ .configuration := by
  unfold Api.statusFailure Failure.withCode Failure.of
  dsimp only
  split <;> decide

theorem category_of_body {read : Decode.Reading α} {response : Response}
    {failure : Failure} (failed : bodyAs read response = .error failure) :
    failure.category ≠ .configuration := by
  unfold bodyAs at failed
  split at failed
  · cases failed
    exact category_of_http _ _
  · next written _ =>
      cases taken : read written with
      | ok found =>
          rw [taken] at failed
          cases failed
      | error fault =>
          rw [taken] at failed
          cases failed
          exact category_of_http _ _

theorem Configured.send (transport : Transport τ) (request : Request) :
    Configured (send transport request) := by
  intro state failure failed
  rcases sent : transport.send request state with ⟨message | response, after⟩
  · simp only [Rest.send, run_bind, run_get, sent] at failed
    cases failed
    exact category_of_http _ _
  · simp only [Rest.send, run_bind, run_get, sent] at failed
    cases failed

theorem Configured.body (read : Decode.Reading α) (response : Response) :
    Configured (Api.liftResult (bodyAs read response) : Exchange τ α) :=
  .lift fun _ => category_of_body

end Failures

namespace Api

variable {τ α : Type} (api : Api τ)

section Divided

/-- Under a base that has segments every address can be written. -/
theorem url_under_of_divided {base : Url} (divided : ∀ text, base.path ≠ .plain text)
    (segments : List String) : ∃ url, urlUnder base segments = .ok url := by
  have extended := mt (Url.extend_eq_none_iff segments).1 (not_exists.2 divided)
  obtain ⟨url, found⟩ := Option.ne_none_iff_exists'.1 extended
  exact ⟨url, by rw [urlUnder, found]⟩

theorem configured_url {base : Url} (divided : ∀ text, base.path ≠ .plain text)
    (segments : List String) :
    Configured (liftResult (urlUnder base segments) : Exchange τ Url) := by
  obtain ⟨url, found⟩ := url_under_of_divided divided segments
  rw [found]
  exact .pure url

theorem configured_perform (method : Method) (url : Url) (accept : String) (body : Option Json) :
    Configured (api.perform method url accept body) := by
  refine .bind (.send _ _) fun response => ?_
  split
  · exact .pure response
  · exact .throw (category_of_status response)

theorem configured_read (read : Json → Except Decode.Fault α) (value : Json) :
    Configured (readAs read value : Exchange τ α) := by
  refine .lift fun failure failed => ?_
  cases taken : read value with
  | ok found =>
      rw [taken] at failed
      cases failed
  | error fault =>
      rw [taken] at failed
      cases failed
      exact nofun

theorem configured_unless_missing {attempt : Exchange τ α} (value : α)
    (attempted : Configured attempt) :
    Configured (tryCatch attempt fun failure =>
      if isNotFound failure then pure value else throw failure) := by
  refine .handled (fun failure other => ?_) attempted
  split
  · exact .pure value
  · exact .throw other

variable (divided : ∀ text, api.base.path ≠ .plain text)

include divided

theorem configured_json (segments : List String) : Configured (api.getJson segments) :=
  .bind (configured_url divided _) fun url =>
    .bind (api.configured_perform _ url _ _) fun response => .body _ response

theorem configured_write_to (method : Method) (segments : List String) (body : Json) :
    Configured (api.writeTo method segments body) :=
  .bind (configured_url divided _) fun url =>
    .bind (api.configured_perform _ url _ _) fun _ => .pure ()

theorem configured_rules_file (path : String) : Configured (api.rulesFile path) :=
  .bind (configured_url divided _) fun url => configured_unless_missing none <|
    .bind (api.configured_perform _ url _ _) fun response => .pure (some response.body)

theorem configured_list (segments : List String) (pairs : List (String × String)) (page : Nat)
    (read : Decode.Reading α) : Configured (api.listPage segments pairs page read) :=
  .bind (configured_url divided _) fun _ =>
    .bind (api.configured_perform _ _ _ _) fun response => .body _ response

theorem configured_files (number remaining page : Nat) :
    Configured (api.filesFrom number remaining page) := by
  induction remaining generalizing page with
  | zero => exact .pure []
  | succ remaining induction =>
      refine .bind (api.configured_list divided _ _ _ _) fun batch => ?_
      split
      · exact .pure batch
      · exact .bind (induction (page + 1)) fun others => .pure (batch ++ others)

theorem configured_milestone (title : String) (remaining page : Nat) :
    Configured (api.milestoneFrom title remaining page) := by
  have missing : Configured (throw (api.noMilestone title) : Exchange τ Nat) :=
    .throw nofun
  induction remaining generalizing page with
  | zero => exact missing
  | succ remaining induction =>
      refine .bind (api.configured_list divided _ _ _ _) fun batch => ?_
      split
      · exact .pure _
      · split
        · exact missing
        · exact induction (page + 1)

theorem configured_remove_labels (number : Nat) (labels : List String) :
    Configured (api.removeLabels number labels) := by
  induction labels with
  | nil => exact .pure ()
  | cons label rest induction =>
      refine .bind (configured_url divided _) fun url => .bind ?_ fun _ => induction
      exact configured_unless_missing () <|
        .bind (api.configured_perform _ url _ _) fun _ => .pure ()

theorem configured_graphql (query : String) (arguments : List (String × String)) :
    Configured (api.graphql query arguments) := by
  refine .bind (configured_url divided _) fun url =>
    .bind (api.configured_perform _ url _ _) fun response =>
      .bind (.body _ response) fun value => ?_
  split
  · exact .throw nofun
  · exact .pure _

theorem configured_write (mutation : Mutation) : Configured (api.write mutation) := by
  cases mutation with
  | removeLabels number labels => exact api.configured_remove_labels divided number labels
  | setMilestone number title =>
      cases title with
      | none => exact api.configured_write_to divided _ _ _
      | some title =>
          exact .bind (api.configured_milestone divided title _ _) fun _ =>
            api.configured_write_to divided _ _ _
  | addToProject content project =>
      exact .bind (api.configured_graphql divided _ _) fun _ => .pure ()
  | removeFromProject content project =>
      refine .bind (api.configured_graphql divided _ _) fun data => ?_
      split
      · exact .pure ()
      · exact .bind (api.configured_graphql divided _ _) fun _ => .pure ()
  | _ => exact api.configured_write_to divided _ _ _

/-- No call fails with a failure that is put down to the configuration. -/
theorem configured_answer (call : Call) : Configured (api.answer call) := by
  cases call with
  | rulesFile path => exact api.configured_rules_file divided path
  | issue number | comment id =>
      exact .bind (api.configured_json divided _) fun value => configured_read _ value
  | pullRequest number =>
      refine .bind (api.configured_json divided _) fun value => ?_
      exact .bind (configured_read _ value) fun item => .pure _
  | changedFiles number => exact api.configured_files divided number _ _
  | write mutation => exact api.configured_write divided mutation

end Divided

section Plain

theorem url_under_of_plain {base : Url} {text : String} (plain : base.path = .plain text)
    (segments : List String) : urlUnder base segments = .error noBase := by
  rw [urlUnder, (Url.extend_eq_none_iff segments).2 ⟨text, plain⟩]

theorem stranded_url {base : Url} {text : String} (plain : base.path = .plain text)
    (segments : List String) : Stranded (liftResult (urlUnder base segments) : Exchange τ Url) := by
  rw [url_under_of_plain plain]
  exact fun state => rfl

variable {text : String} (plain : api.base.path = .plain text)

include plain

theorem stranded_json (segments : List String) : Stranded (api.getJson segments) :=
  (stranded_url plain _).bind _

theorem stranded_list (segments : List String) (pairs : List (String × String)) (page : Nat)
    (read : Decode.Reading α) : Stranded (api.listPage segments pairs page read) :=
  (stranded_url plain _).bind _

theorem stranded_graphql (query : String) (arguments : List (String × String)) :
    Stranded (api.graphql query arguments) :=
  (stranded_url plain _).bind _

theorem stranded_write {mutation : Mutation}
    (asking : ∀ number, mutation ≠ .removeLabels number []) : Stranded (api.write mutation) := by
  cases mutation with
  | removeLabels number labels =>
      cases labels with
      | nil => exact absurd rfl (asking number)
      | cons label rest => exact (stranded_url plain _).bind _
  | setMilestone number title =>
      cases title with
      | none => exact (stranded_url plain _).bind _
      | some title => exact ((api.stranded_list plain _ _ _ _).bind _).bind _
  | addToProject content project | removeFromProject content project =>
      exact (api.stranded_graphql plain _ _).bind _
  | _ => exact (stranded_url plain _).bind _

/-- Every call fails for want of a base. Only the removal of no labels at all asks for nothing. -/
theorem stranded_answer {call : Call} (asking : ∀ number, call ≠ .write (.removeLabels number [])) :
    Stranded (api.answer call) := by
  cases call with
  | rulesFile path => exact (stranded_url plain _).bind _
  | issue number | pullRequest number | comment id => exact (api.stranded_json plain _).bind _
  | changedFiles number => exact (api.stranded_list plain _ _ _ _).bind _
  | write mutation =>
      refine api.stranded_write plain fun number => ?_
      rintro rfl
      exact asking number rfl

end Plain

end Api

namespace App

variable {τ α : Type} (app : App) (transport : Transport τ)

theorem category_of_signing {key : AppKey} {failure : Failure}
    (failed : key.signing = .error failure) : failure.category ≠ .configuration := by
  unfold AppKey.signing at failed
  split at failed
  · cases failed
  · cases failed
    exact nofun

theorem category_of_response {read : Decode.Reading α} {response : Response}
    {failure : Failure} (failed : (withoutFault response).bind (bodyAs read) = .error failure) :
    failure.category ≠ .configuration := by
  unfold withoutFault at failed
  split at failed
  · cases failed
    exact category_of_http _ _
  · exact category_of_body failed

theorem configured_request (divided : ∀ text, app.base.path ≠ .plain text) (method : Method)
    (segments : List String) (read : Decode.Reading α) :
    Configured (app.request transport method segments read) := by
  have received (response : Response) :
      Configured (Api.liftResult ((withoutFault response).bind (bodyAs read)) : Exchange τ α) :=
    .lift fun _ => category_of_response
  refine .bind (Api.configured_url divided _) fun url =>
    .bind (.lift fun _ => category_of_signing) fun _ => .bind (.send _ _) fun response => ?_
  split
  · exact .bind (.throw nofun) fun _ => received response
  · exact received response

theorem run_on_transport (steps : Exchange τ α) (state : AppState τ) :
    (onTransport steps).run.run state =
      ((steps.run.run state.transport).1,
        { state with transport := (steps.run.run state.transport).2 }) := by
  rcases taken : steps.run.run state.transport with ⟨failure | value, after⟩
  · simp only [onTransport, run_bind, run_get, taken]
    rfl
  · simp only [onTransport, run_bind, run_get, taken]
    rfl

theorem run_installation_token (now : Instant) (installation : Nat) (state : AppState τ) :
    (app.installationToken transport now installation).run.run state =
      match state.tokens.usable? installation now with
      | none => (.error TokenCache.stopped, state)
      | some (some token) => (.ok token.value, state)
      | some none =>
          match (app.newToken transport installation).run.run state.transport with
          | (.ok token, after) => (.ok token.value, ⟨after, state.tokens.put installation token⟩)
          | (.error failure, after) => (.error failure, ⟨after, state.tokens⟩) := by
  unfold installationToken
  rw [run_bind, run_get]
  rcases held : state.tokens.usable? installation now with _ | _ | token
  · simp only [TokenCache.getOrRefresh, held]
    rfl
  · simp only [TokenCache.getOrRefresh, held]
    rw [StateT.run_bind]
    rcases (app.newToken transport installation).run.run state.transport with ⟨_ | _, after⟩
    · rfl
    · rfl
  · simp only [TokenCache.getOrRefresh, held]
    rfl

theorem configured_on_transport {steps : Exchange τ α} (configured : Configured steps) :
    Configured (onTransport steps) := by
  intro state failure failed
  rw [run_on_transport] at failed
  exact configured state.transport failure failed

theorem configured_installation_token (divided : ∀ text, app.base.path ≠ .plain text)
    (now : Instant) (installation : Nat) :
    Configured (app.installationToken transport now installation) := by
  intro state failure failed
  have refreshed : Configured (app.newToken transport installation) :=
    app.configured_request transport divided _ _ _
  rw [run_installation_token] at failed
  split at failed
  · cases failed
    exact nofun
  · cases failed
  · rcases asked : (app.newToken transport installation).run.run state.transport with
      ⟨refused | token, after⟩
    · rw [asked] at failed
      cases failed
      exact refreshed state.transport failure (by rw [asked])
    · rw [asked] at failed
      cases failed

/-- To find a client is no failure that is put down to the configuration either. -/
theorem configured_client_for (divided : ∀ text, app.base.path ≠ .plain text) (now : Instant)
    (installation : Option Nat) (repository : RepositoryRef) :
    Configured (app.clientFor transport now installation repository) := by
  have signed (id : Nat) : Configured (app.installationToken transport now id >>= fun token =>
      pure (withTokens (Api.client ⟨transport, app.base, token, repository⟩))) :=
    .bind (app.configured_installation_token transport divided now id) fun _ => .pure _
  cases installation with
  | some id => exact signed id
  | none => exact .bind (configured_on_transport (app.configured_request _ divided _ _ _)) signed

theorem client_of_client_for {now : Instant} {installation : Option Nat}
    {repository : RepositoryRef} {state after : AppState τ} {client : Client (AppState τ)}
    (given : (app.clientFor transport now installation repository).run.run state =
      (.ok client, after)) :
    ∃ token, client = withTokens (Api.client ⟨transport, app.base, token, repository⟩) := by
  have signed (id : Nat) {state : AppState τ}
      (given : (app.installationToken transport now id >>= fun token =>
        pure (withTokens (Api.client ⟨transport, app.base, token, repository⟩)) :
          Exchange (AppState τ) _).run.run state = (.ok client, after)) :
      ∃ token, client = withTokens (Api.client ⟨transport, app.base, token, repository⟩) := by
    rw [run_bind] at given
    rcases asked : (app.installationToken transport now id).run.run state with
      ⟨failure | token, middle⟩
    · rw [asked] at given
      cases given
    · rw [asked] at given
      cases given
      exact ⟨token, rfl⟩
  cases installation with
  | some id => exact signed id given
  | none =>
      unfold clientFor at given
      dsimp only at given
      rw [run_bind] at given
      rcases looked : (onTransport (app.installationFor transport repository)).run.run state with
        ⟨failure | id, middle⟩
      · rw [looked] at given
        cases given
      · rw [looked] at given
        exact signed id given

theorem stranded_request {text : String} (plain : app.base.path = .plain text) (method : Method)
    (segments : List String) (read : Decode.Reading α) :
    Stranded (app.request transport method segments read) :=
  (Api.stranded_url plain _).bind _

/-- Without a token that can still be used no client is found. -/
theorem stranded_client_for {text : String} (plain : app.base.path = .plain text) {now : Instant}
    {installation : Option Nat} (repository : RepositoryRef) {state : AppState τ}
    (stale : ∀ id, installation = some id → state.tokens.usable? id now = some none) :
    (app.clientFor transport now installation repository).run.run state =
      (.error Api.noBase, state) := by
  cases installation with
  | some id =>
      have refused : (app.newToken transport id).run.run state.transport =
          (.error Api.noBase, state.transport) :=
        app.stranded_request transport plain _ _ _ state.transport
      unfold clientFor
      dsimp only
      rw [pure_bind, run_bind, run_installation_token, stale id rfl]
      simp only [refused]
  | none =>
      have refused : (app.installationFor transport repository).run.run state.transport =
          (.error Api.noBase, state.transport) :=
        app.stranded_request transport plain _ _ _ state.transport
      unfold clientFor
      dsimp only
      rw [run_bind, run_on_transport, refused]

/-- No request of an app or of its clients fails for want of a base. -/
structure Reaches (app : App) : Prop where
  addresses : ∀ segments, ∃ url, Api.urlUnder app.base segments = .ok url
  clients : ∀ {τ : Type} (transport : Transport τ) now installation repository,
    Configured (app.clientFor transport now installation repository)
  calls : ∀ {τ : Type} (transport : Transport τ) now installation repository state client after,
    (app.clientFor transport now installation repository).run.run state = (.ok client, after) →
      ∀ call current failure, (client.answer call current).1 = .error failure →
        failure.category ≠ .configuration

/-- All requests do, and nothing is ever sent. -/
structure Strands (app : App) : Prop where
  addresses : ∀ segments, Api.urlUnder app.base segments = .error Api.noBase
  clients : ∀ {τ : Type} (transport : Transport τ) now installation repository state,
    (∀ id, installation = some id → state.tokens.usable? id now = some none) →
      (app.clientFor transport now installation repository).run.run state =
        (.error Api.noBase, state)
  calls : ∀ {τ : Type} (transport : Transport τ) now installation repository state client after,
    (app.clientFor transport now installation repository).run.run state = (.ok client, after) →
      ∀ call current, (∀ number, call ≠ .write (.removeLabels number [])) →
        client.answer call current = (.error Api.noBase, current)

variable {app}

theorem reaches_of_divided (divided : ∀ text, app.base.path ≠ .plain text) : app.Reaches where
  addresses := Api.url_under_of_divided divided
  clients transport now installation repository :=
    app.configured_client_for transport divided now installation repository
  calls := by
    intro τ transport now installation repository state client after given call current failure
    obtain ⟨token, rfl⟩ := app.client_of_client_for transport given
    exact Api.configured_answer ⟨transport, app.base, token, repository⟩ divided call
      current.transport failure

theorem strands_of_plain {text : String} (plain : app.base.path = .plain text) : app.Strands where
  addresses := Api.url_under_of_plain plain
  clients transport now installation repository state stale :=
    app.stranded_client_for transport plain repository stale
  calls := by
    intro τ transport now installation repository state client after given call current asking
    obtain ⟨token, rfl⟩ := app.client_of_client_for transport given
    have stranded := Api.stranded_answer ⟨transport, app.base, token, repository⟩ plain asking
      current.transport
    change (((Api.answer _ call).run.run current.transport).1,
      { current with transport := ((Api.answer _ call).run.run current.transport).2 }) = _
    rw [stranded]

end App

end RepoRules.Rest
