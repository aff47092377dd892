import RepoRules.Proofs.Digest.Hex
import RepoRules.Proofs.Text.Case
import RepoRules.Webhook.Service

/-!
Who gets through to the engine. A request does so only with a signature that is the digest of its
whole body under the secret; any other one is turned away, in one of four ways, before anything is
read of its body.
-/

namespace RepoRules

namespace Signature

theorem clear_scheme {character : Char} (found : character ∈ scheme.toList) :
    Webhook.Request.isVisible character = true ∧ Text.isBlank character = false := by
  have clear : scheme.toList.all (fun character =>
      Webhook.Request.isVisible character && !Text.isBlank character) = true := by
    decide
  simpa using List.all_eq_true.1 clear character found

theorem clear_digit : ∀ value < 16,
    Webhook.Request.isVisible (Hex.digit value) = true ∧
      Text.isBlank (Hex.digit value) = false := by
  decide

theorem clear_signature {bytes : Bytes} {character : Char}
    (found : character ∈ (scheme ++ Hex.encode bytes).toList) :
    Webhook.Request.isVisible character = true ∧ Text.isBlank character = false := by
  rw [String.toList_append, List.mem_append] at found
  rcases found with scheme | digit
  · exact clear_scheme scheme
  · obtain ⟨value, small, rfl⟩ := Hex.digit_of_mem_encode digit
    exact clear_digit value small

theorem visible_signature (bytes : Bytes) :
    (scheme ++ Hex.encode bytes).toList.all Webhook.Request.isVisible = true :=
  List.all_eq_true.2 fun _ found => (clear_signature found).1

theorem trim_signature (bytes : Bytes) :
    Text.trim (scheme ++ Hex.encode bytes) = scheme ++ Hex.encode bytes := by
  rw [Text.trim, Text.trim_chars_of_trimmed, String.ofList_toList]
  constructor
  · intro first found
    exact (clear_signature (List.mem_of_head? found)).2
  · intro last found
    exact (clear_signature (List.mem_of_getLast? found)).2

variable {secret : String} {body : Bytes}

theorem check_of_scheme {digits : String} :
    check secret body (some (scheme ++ digits)) =
      match Hex.decode? digits with
      | none => .error .notHex
      | some given => if given = digest secret body then .ok () else .error .mismatch := by
  have behind : Text.stripPrefix? (scheme ++ digits) scheme = some digits :=
    Text.stripPrefix?_eq_some_iff.2 rfl
  cases decoded : Hex.decode? digits <;> simp only [check, behind, decoded]

theorem check_of_other {signature : String} (other : ∀ digits, signature ≠ scheme ++ digits) :
    check secret body (some signature) = .error .otherScheme := by
  have none : Text.stripPrefix? signature scheme = none := by
    rw [Option.eq_none_iff_forall_ne_some]
    exact fun digits found => other digits (Text.stripPrefix?_eq_some_iff.1 found)
  rw [check, none]

/-- Nothing but the digits of the whole digest behind the scheme is accepted. -/
theorem check_eq_ok_iff {signature : Option String} :
    check secret body signature = .ok () ↔ ∃ digits, signature = some (scheme ++ digits) ∧
      Text.asciiLower digits = Hex.encode (digest secret body) := by
  constructor
  · intro accepted
    cases signature with
    | none => cases accepted
    | some signature =>
        cases found : Text.stripPrefix? signature scheme with
        | none =>
            rw [check, found] at accepted
            cases accepted
        | some digits =>
            obtain rfl := Text.stripPrefix?_eq_some_iff.1 found
            refine ⟨digits, rfl, ?_⟩
            rw [check_of_scheme] at accepted
            split at accepted
            · cases accepted
            · next decoded =>
                rw [← Hex.decode_eq_some_iff, decoded]
                split at accepted
                · next same => rw [same]
                · cases accepted
  · rintro ⟨digits, rfl, written⟩
    rw [check_of_scheme, Hex.decode_eq_some_iff.2 written]
    exact if_pos rfl

end Signature

namespace Webhook

/-- The signature header, less the blanks around it, is the name of the scheme and then, in digits
of either case, the digest of the whole body under the secret. -/
def Request.IsSigned (secret : String) (request : Request) : Prop :=
  ∃ sent digits, request.rawHeader? "x-hub-signature-256" = some sent ∧
    Text.trim sent = Signature.scheme ++ digits ∧
    Text.asciiLower digits = Hex.encode (Signature.digest secret request.body)

/-- A request gets a response of this status from whatever engine there is, which is not asked. -/
def Refuses (options : Options) (request : Request) (status : Nat) : Prop :=
  ∃ response : Response, response.status = status ∧
    ∀ {σ : Type} (engine : Engine σ) (state : RunState σ Unit),
      (receive engine options request).run state = (response, state)

section Requests

variable {options : Options} {request : Request}

theorem header_eq_some {name sent : String} (found : request.rawHeader? name = some sent)
    (clear : Text.trim sent ≠ "") : request.header? name = some (Text.trim sent) := by
  rw [Request.header?, found, Option.map_some]
  exact Option.filter_some_pos (by simpa using clear)

theorem header_eq_none {name : String}
    (blank : ∀ sent, request.rawHeader? name = some sent → Text.trim sent = "") :
    request.header? name = none := by
  rw [Request.header?]
  cases found : request.rawHeader? name with
  | none => rfl
  | some sent =>
      rw [Option.map_some, blank sent found]
      rfl

theorem scheme_append_ne_empty (digits : String) : Signature.scheme ++ digits ≠ "" := by
  intro empty
  have short := congrArg String.length empty
  rw [String.length_append] at short
  exact absurd short (by simp [Signature.scheme])

theorem raw_header_of_signature {name : String} {bytes : Bytes}
    (found : request.headers.find? (fun header =>
      Text.sameAsciiCase header.1 "x-hub-signature-256") =
        some (name, Signature.scheme ++ Hex.encode bytes)) :
    request.rawHeader? "x-hub-signature-256" = some (Signature.scheme ++ Hex.encode bytes) := by
  rw [Request.rawHeader?, found]
  exact if_pos (Signature.visible_signature bytes)

theorem is_signed_iff_check :
    request.IsSigned options.secret ↔
      Signature.check options.secret request.body (request.header? "x-hub-signature-256") =
        .ok () := by
  rw [Signature.check_eq_ok_iff]
  constructor
  · rintro ⟨sent, digits, found, written, digest⟩
    refine ⟨digits, ?_, digest⟩
    have clear := scheme_append_ne_empty digits
    rw [← written] at clear ⊢
    exact header_eq_some found clear
  · rintro ⟨digits, found, digest⟩
    rw [Request.header?, Option.filter_eq_some_iff, Option.map_eq_some_iff] at found
    obtain ⟨⟨sent, found, written⟩, _⟩ := found
    exact ⟨sent, digits, found, written, digest⟩

theorem is_signed_of_sign {secret name : String}
    (found : request.headers.find? (fun header =>
      Text.sameAsciiCase header.1 "x-hub-signature-256") =
        some (name, Signature.sign secret request.body)) :
    request.IsSigned secret :=
  ⟨Signature.sign secret request.body, Hex.encode (Signature.digest secret request.body),
    raw_header_of_signature found, Signature.trim_signature _,
    Hex.decode_eq_some_iff.1 (Hex.decode?_encode _)⟩

theorem accept_of_signed (fits : request.holdsTooMuch options.maxBodyBytes = false)
    (signed : request.IsSigned options.secret) :
    accept options request = readDelivery request := by
  rw [accept, fits, is_signed_iff_check.1 signed]
  rfl

theorem accept_of_unsigned (unsigned : ¬ request.IsSigned options.secret) :
    ∃ rejection, accept options request = .error rejection := by
  unfold accept
  split
  · exact ⟨_, rfl⟩
  · split
    · exact ⟨_, rfl⟩
    · next accepted => exact absurd (is_signed_iff_check.2 accepted) unsigned

theorem refuses_of_check (fits : request.holdsTooMuch options.maxBodyBytes = false)
    (fault : Signature.Fault)
    (refused : Signature.check options.secret request.body
      (request.header? "x-hub-signature-256") = .error fault) :
    Refuses options request (Rejection.ofSignature fault).status := by
  refine ⟨(Rejection.ofSignature fault).response, rfl, ?_⟩
  intro σ engine state
  have rejected : accept options request = .error (.ofSignature fault) := by
    rw [accept, fits, refused]
    rfl
  rw [receive, rejected]
  rfl

/-- What is offered without the engine is answered without it, and a delivery that is turned away
gives the same response whatever the engine is. -/
theorem serve_of_rejected {rejection : Rejection}
    (rejected : accept options request = .error rejection) (route : Route) :
    ∃ response, ∀ {σ : Type} (engine : Engine σ),
      serve engine options route request = pure response := by
  have received : ∀ {σ : Type} (engine : Engine σ),
      receive engine options request = pure rejection.response := by
    intro σ engine
    rw [receive, rejected]
  unfold serve
  split
  · exact ⟨_, received⟩
  · exact ⟨_, fun _ => rfl⟩
  · exact ⟨_, fun _ => rfl⟩
  · exact ⟨_, fun _ => rfl⟩

theorem answer_of_rejected {rejection : Rejection}
    (rejected : accept options request = .error rejection) :
    ∃ response, ∀ {σ : Type} (engine : Engine σ) (state : RunState σ Unit),
      (answer engine options request).run state = (response, state) := by
  unfold answer
  cases Route.ofPath? request.path with
  | none => exact ⟨_, fun _ _ => rfl⟩
  | some route =>
      obtain ⟨response, served⟩ := serve_of_rejected rejected route
      dsimp only
      split
      · exact ⟨_, fun _ _ => rfl⟩
      · refine ⟨if request.method = "HEAD" then response.withoutBody else response, ?_⟩
        intro σ engine state
        rw [served]
        rfl

/-- A request reaches the engine only when it is signed. As far as bodies are read at all, what is
signed is accepted, in particular with a signature that was made for it; a signature that is not
there or blank gets 401, one of another scheme or without hexadecimal digits 400, and the digits of
any bytes but those of the digest 401. -/
theorem only_signed_requests_are_delivered (options : Options) (request : Request) :
    (¬ request.IsSigned options.secret → ∃ response, ∀ {σ : Type} (engine : Engine σ)
      (state : RunState σ Unit), (answer engine options request).run state = (response, state)) ∧
    (∀ name, request.headers.find? (fun header =>
        Text.sameAsciiCase header.1 "x-hub-signature-256") =
          some (name, Signature.sign options.secret request.body) →
      request.IsSigned options.secret) ∧
    (request.holdsTooMuch options.maxBodyBytes = false →
      (request.IsSigned options.secret → accept options request = readDelivery request) ∧
      ((∀ sent, request.rawHeader? "x-hub-signature-256" = some sent → Text.trim sent = "") →
        Refuses options request 401) ∧
      ∀ sent, request.rawHeader? "x-hub-signature-256" = some sent → Text.trim sent ≠ "" →
        ((∀ digits, Text.trim sent ≠ Signature.scheme ++ digits) → Refuses options request 400) ∧
        ∀ digits, Text.trim sent = Signature.scheme ++ digits →
          ((∀ bytes, Text.asciiLower digits ≠ Hex.encode bytes) → Refuses options request 400) ∧
          ∀ bytes, Text.asciiLower digits = Hex.encode bytes →
            bytes ≠ Signature.digest options.secret request.body →
              Refuses options request 401) := by
  refine ⟨?unsigned, fun name => is_signed_of_sign,
    fun fits => ⟨accept_of_signed fits, ?missing, ?given⟩⟩
  case unsigned =>
    intro unsigned
    obtain ⟨rejection, rejected⟩ := accept_of_unsigned unsigned
    exact answer_of_rejected rejected
  case missing =>
    intro blank
    exact refuses_of_check fits .missing (by rw [header_eq_none blank]; rfl)
  case given =>
    intro sent found clear
    have header := header_eq_some found clear
    refine ⟨?_, ?_⟩
    · intro other
      exact refuses_of_check fits .otherScheme
        (by rw [header, Signature.check_of_other other])
    · intro digits written
      rw [written] at header
      refine ⟨?_, ?_⟩
      · intro malformed
        exact refuses_of_check fits .notHex
          (by rw [header, Signature.check_of_scheme, Hex.decode_eq_none_iff.2 malformed])
      · intro bytes same other
        refine refuses_of_check fits .mismatch ?_
        rw [header, Signature.check_of_scheme, Hex.decode_eq_some_iff.2 same]
        exact if_neg other

end Requests

def Request.ofEvent (event signature : String) (body : Bytes) : Request :=
  ⟨"POST", "/api/webhook", [("X-GitHub-Event", event), ("X-Hub-Signature-256", signature)], body⟩

theorem Request.find_signature (event signature : String) (body : Bytes) :
    (ofEvent event signature body).headers.find?
        (fun header => Text.sameAsciiCase header.1 "x-hub-signature-256") =
      some ("X-Hub-Signature-256", signature) := by
  have other : Text.sameAsciiCase "X-GitHub-Event" "x-hub-signature-256" = false := by decide
  have same : Text.sameAsciiCase "X-Hub-Signature-256" "x-hub-signature-256" = true := by decide
  simp only [ofEvent, List.find?_cons, other, same]

/-- With its signature a request is accepted, with all of the digest but its last byte refused. -/
theorem ping_needs_whole_digest :
    let options : Options := ⟨"hush", 1024, false⟩
    let body : Bytes := [0x7b, 0x7d]
    let digest := Signature.digest "hush" body
    let signed := Request.ofEvent "ping" (Signature.sign "hush" body) body
    let truncated := Request.ofEvent "ping" (Signature.scheme ++ Hex.encode (digest.take 31)) body
    accept options signed = readDelivery signed ∧ Refuses options truncated 401 := by
  intro options body digest signed truncated
  have short : digest.take 31 ≠ digest := by
    intro same
    have length := congrArg List.length same
    rw [List.length_take, show digest.length = 32 from rfl] at length
    cases length
  have written := Signature.trim_signature (digest.take 31)
  obtain ⟨_, made, read⟩ := only_signed_requests_are_delivered options signed
  refine ⟨(read (by decide)).1 (made _ (Request.find_signature _ _ _)), ?_⟩
  obtain ⟨_, _, read⟩ := only_signed_requests_are_delivered options truncated
  obtain ⟨_, _, given⟩ := read (by decide)
  have found : truncated.rawHeader? "x-hub-signature-256" =
      some (Signature.scheme ++ Hex.encode (digest.take 31)) :=
    raw_header_of_signature (Request.find_signature _ _ _)
  obtain ⟨_, scheme⟩ := given _ found (by rw [written]; exact scheme_append_ne_empty _)
  exact (scheme _ written).2 _ (Hex.decode_eq_some_iff.1 (Hex.decode?_encode _)) short

end Webhook

end RepoRules
