import RepoRules.Proofs.Webhook.Signature

/-!
What rejections keep to themselves. Runs that end with failures of the service, or in which it was
turned away, cannot be told apart by the sender.
-/

namespace RepoRules

namespace Failure

def IsRefusal (failure : Failure) : Prop :=
  failure.category = .forbidden ∨ failure.category = .authentication ∨
    failure.code = .named "GH-429"

def IsInternal (failure : Failure) : Prop :=
  ¬ failure.IsRefusal ∧
    failure.category ∉ [.configuration, .compilation, .resolution, .query, .validation]

end Failure

namespace Webhook

namespace Rejection

variable {failure : Failure}

theorem is_access_failure_iff : isAccessFailure failure = true ↔ failure.IsRefusal := by
  simp only [isAccessFailure, Bool.or_eq_true, beq_iff_eq, or_assoc, Failure.IsRefusal]

theorem is_sender_failure_iff : isSenderFailure failure = true ↔
    failure.category ∈ [.configuration, .compilation, .resolution, .query, .validation] := by
  unfold isSenderFailure
  generalize failure.category = category
  cases category <;> decide

theorem of_failure_of_refusal (verbose : Bool) (refusal : failure.IsRefusal) :
    ofFailure verbose failure = accessRefused :=
  if_pos (is_access_failure_iff.2 refusal)

theorem of_failure_of_internal (kept : failure.IsInternal) :
    ofFailure false failure = internal "internal server error" := by
  rw [ofFailure, if_neg fun refusal => kept.1 (is_access_failure_iff.1 refusal),
    if_neg fun mended => kept.2 (is_sender_failure_iff.1 mended)]
  rfl

end Rejection

variable {σ τ : Type}

def FailsWith (engine : Engine σ) (options : Options) (request : Request)
    (state : RunState σ Unit) (failure : Failure) : Prop :=
  ∃ delivery after, accept options request = .ok (.deliver delivery) ∧
    (engine.handle delivery).run.run state = (.error failure, after)

theorem receive_of_fails {engine : Engine σ} {options : Options} {request : Request}
    {state : RunState σ Unit} {failure : Failure}
    (fails : FailsWith engine options request state failure) :
    ((receive engine options request).run state).1 =
      (Rejection.ofFailure options.verboseErrors failure).response := by
  obtain ⟨delivery, after, accepted, handled⟩ := fails
  rw [receive, accepted]
  dsimp only
  rw [StateT.run_bind, handled]
  rfl

/-- Two refusals look alike to whoever sends a delivery, however the listener is set, and so do two
internal failures unless it is set to be verbose: neither the rejections nor the responses of any
two runs that end with them differ. -/
theorem failures_of_service_look_alike (first second : Failure) (options others : Options)
    (alike : first.IsRefusal ∧ second.IsRefusal ∨
      (options.verboseErrors = false ∧ others.verboseErrors = false) ∧
        first.IsInternal ∧ second.IsInternal) :
    Rejection.ofFailure options.verboseErrors first =
        Rejection.ofFailure others.verboseErrors second ∧
      ∀ {σ τ : Type} (engine : Engine σ) (other : Engine τ) (request again : Request)
        (state : RunState σ Unit) (there : RunState τ Unit),
        FailsWith engine options request state first →
        FailsWith other others again there second →
          ((receive engine options request).run state).1 =
            ((receive other others again).run there).1 := by
  have same : Rejection.ofFailure options.verboseErrors first =
      Rejection.ofFailure others.verboseErrors second := by
    rcases alike with ⟨refused, refusal⟩ | ⟨⟨quiet, silent⟩, kept, hidden⟩
    · rw [Rejection.of_failure_of_refusal _ refused, Rejection.of_failure_of_refusal _ refusal]
    · rw [quiet, silent, Rejection.of_failure_of_internal kept,
        Rejection.of_failure_of_internal hidden]
  refine ⟨same, ?_⟩
  intro σ τ engine other request again state there fails failed
  rw [receive_of_fails fails, receive_of_fails failed, same]

def refusingEngine (failure : Failure) : Engine Unit where
  clientFor _ _ store := (.error failure, store)
  page _ := none
  rules := .repository

def Request.issues (secret body : String) : Request :=
  .ofEvent "issues" (Signature.sign secret body.toByteArray.data.toList) body.toByteArray.data.toList

theorem payload_of_text {body : String} {value : Json} (parsed : Json.parse? body = some value)
    (fields : value.isObject = true) : payload body.toByteArray.data.toList = .ok value := by
  have text : Bytes.text? body.toByteArray.data.toList = some body := dif_pos body.isValidUTF8
  rw [payload, text, Option.bind_some, parsed]
  exact if_pos fields

theorem fails_of_refusing {secret body : String} {maximum : Nat} {value : Json}
    {repository : RepositoryRef} (parsed : Json.parse? body = some value)
    (fields : value.isObject = true) (named : Context.repositoryOf? value = some repository)
    (fits : (Request.issues secret body).holdsTooMuch maximum = false) (verbose : Bool)
    (state : RunState Unit Unit) (failure : Failure) :
    FailsWith (refusingEngine failure) ⟨secret, maximum, verbose⟩ (.issues secret body) state
      failure := by
  have signed : (Request.issues secret body).IsSigned secret :=
    is_signed_of_sign (Request.find_signature "issues" _ _)
  have event : (Request.issues secret body).header? "x-github-event" = some "issues" := by
    have same : Text.sameAsciiCase "X-GitHub-Event" "x-github-event" = true := by decide
    simp only [Request.header?, Request.rawHeader?, Request.issues, Request.ofEvent,
      List.find?_cons, same]
    decide
  have kind : EventKind.ofName? "issues" = some .issues := by decide
  refine ⟨⟨.issues, value, (Request.issues secret body).header? "x-github-delivery"⟩, state,
    ?_, ?_⟩
  · have accepted : accept ⟨secret, maximum, verbose⟩ (.issues secret body) =
        readDelivery (.issues secret body) := accept_of_signed fits signed
    rw [accepted, readDelivery, event]
    dsimp only
    rw [kind]
    dsimp only
    rw [show (Request.issues secret body).body = body.toByteArray.data.toList from rfl,
      payload_of_text parsed fields]
    rfl
  · rw [Engine.handle, named]
    rfl

/-- Being forbidden to look at one repository looks like having asked too often about another. -/
theorem forbidden_looks_like_too_many :
    let forbidden := Failure.of .forbidden "octo/vault is private"
    let limited := (Failure.of .remote "quota of octo/docs is used up").withCode "GH-429"
    let request := Request.issues "hush" "\x7b\"repository\":\x7b\"full_name\":\"octo/docs\"\x7d\x7d"
    let start : RunState Unit Unit := ⟨(), (), []⟩
    Rejection.ofFailure false forbidden = Rejection.ofFailure true limited ∧
      ((receive (refusingEngine forbidden) ⟨"hush", 1024, false⟩ request).run start).1 =
        ((receive (refusingEngine limited) ⟨"hush", 1024, true⟩ request).run start).1 := by
  intro forbidden limited request start
  have named : ((Json.parse? "\x7b\"repository\":\x7b\"full_name\":\"octo/docs\"\x7d\x7d").filter
      fun value => value.isObject && (Context.repositoryOf? value).isSome).isSome = true := by
    decide +kernel
  obtain ⟨value, read⟩ := Option.isSome_iff_exists.1 named
  rw [Option.filter_eq_some_iff, Bool.and_eq_true] at read
  obtain ⟨parsed, fields, named⟩ := read
  obtain ⟨repository, named⟩ := Option.isSome_iff_exists.1 named
  have fits : request.holdsTooMuch 1024 = false := by decide +kernel
  have fails := fails_of_refusing parsed fields named fits
  obtain ⟨rejections, responses⟩ := failures_of_service_look_alike forbidden limited
    ⟨"hush", 1024, false⟩ ⟨"hush", 1024, true⟩ (.inl ⟨.inl rfl, .inr (.inr rfl)⟩)
  exact ⟨rejections, responses _ _ _ _ _ _ (fails false start forbidden)
    (fails true start limited)⟩

end Webhook

end RepoRules
