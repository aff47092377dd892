import RepoRules.Proofs.Webhook.Deployment

/-!
The margin of the tokens, from the settings to the comparison with the end of a token. It is used as
it is set up to a limit. Beyond the limit the service does not start, except that the largest margins
become negative; and a margin that leads out of the calendar leaves the comparison without an answer.
-/

namespace RepoRules

namespace Instant

def count (instant : Instant) : Int :=
  instant.seconds * nanosecondsPerSecond + instant.nanoseconds

def Ordinary (instant : Instant) : Prop :=
  instant.nanoseconds < nanosecondsPerSecond

instance (instant : Instant) : Decidable instant.Ordinary :=
  inferInstanceAs (Decidable (_ < _))

/-- Where an instant stands among those that are not within a leap second. A leap second is over for
them as soon as it begins. -/
def limit (instant : Instant) : Int :=
  min instant.count ((instant.seconds + 1) * nanosecondsPerSecond)

section Ordinary

variable {instant : Instant} (ordinary : instant.Ordinary)

include ordinary

theorem limit_of_ordinary : instant.limit = instant.count := by
  unfold Ordinary nanosecondsPerSecond at ordinary
  simp only [limit, count, nanosecondsPerSecond]
  omega

theorem is_before_of_ordinary (other : Instant) :
    instant.isBefore other = decide (instant.count < other.limit) := by
  unfold Ordinary nanosecondsPerSecond at ordinary
  rw [Bool.eq_iff_iff, decide_eq_true_iff]
  simp only [isBefore, limit, count, nanosecondsPerSecond, Bool.or_eq_true, Bool.and_eq_true,
    decide_eq_true_eq, beq_iff_eq]
  omega

theorem after_of_ordinary (seconds : Int) :
    instant.after? seconds =
      if isCounted (instant.seconds + seconds) then
        some ⟨instant.seconds + seconds, instant.nanoseconds⟩
      else none := by
  have sum : instant.addSeconds seconds = ⟨instant.seconds + seconds, instant.nanoseconds⟩ :=
    if_pos (.inl ordinary)
  rw [after?, sum]

end Ordinary

end Instant

namespace Rest

/-- How a token is compared with a clock reading: over the integers, if the seconds of the sum are
within the calendar. -/
theorem Token.outlasts_of_ordinary (token : Token) {now : Instant} (ordinary : now.Ordinary)
    (margin : Int) :
    token.outlasts? now margin =
      if Instant.isCounted (now.seconds + margin) then
        some (decide (now.count + margin * 1000000000 < token.expiry.limit))
      else none := by
  rw [outlasts?, Instant.after_of_ordinary ordinary]
  split
  · have sum : (Instant.mk (now.seconds + margin) now.nanoseconds).count =
        now.count + margin * 1000000000 := by
      simp only [Instant.count, Instant.nanosecondsPerSecond]
      omega
    have kept : (Instant.mk (now.seconds + margin) now.nanoseconds).Ordinary := ordinary
    rw [Option.map_some, Instant.is_before_of_ordinary kept, sum]
  · rfl

namespace TokenCache

section Margins

variable {seconds : Nat}

theorem margin_of_small (small : seconds ≤ 9223372036854775) :
    marginOf? seconds = some (seconds : Int) := by
  have signed : (seconds : Int).bmod 0x10000000000000000 = seconds := by
    rw [Int.bmod_def]
    omega
  rw [marginOf?, signed, if_pos (by omega)]

theorem margin_of_large (large : 9223372036854775 < seconds)
    (inside : seconds < 18446744073709551616 - 9223372036854775) : marginOf? seconds = none := by
  have outside : ¬ ((seconds : Int).bmod 0x10000000000000000).natAbs ≤ 0x7fffffffffffffff / 1000 := by
    rw [Int.bmod_def]
    omega
  rw [marginOf?, if_neg outside]

theorem margin_of_wrapped (wrapped : 18446744073709551616 - 9223372036854775 ≤ seconds)
    (bounded : seconds < 18446744073709551616) :
    marginOf? seconds = some ((seconds : Int) - 18446744073709551616) := by
  have signed : (seconds : Int).bmod 0x10000000000000000 = seconds - 18446744073709551616 := by
    rw [Int.bmod_def]
    omega
  rw [marginOf?, signed, if_pos (by omega)]

end Margins

end TokenCache

end Rest

def Settings.withMargin (settings : Settings) (margin : Nat) : Settings :=
  { settings with hosting := { settings.hosting with tokenMargin := margin } }

theorem Settings.check_with_margin (settings : Settings) (margin : Nat) :
    (settings.withMargin margin).checkServing = settings.checkServing := rfl

namespace Webhook.Deployment

section Started

variable {settings : Settings} (accepted : settings.checkServing = .ok ())

include accepted

theorem start_of_no_margin (outside : Rest.TokenCache.marginOf? settings.hosting.tokenMargin = none) :
    start settings = .error .invalidMargin := by
  obtain ⟨base, address, secret, id, key, complete⟩ := settings.complete_of_accepted accepted
  rw [start_of_complete complete accepted, outside]

theorem start_of_margin {margin : Int}
    (inside : Rest.TokenCache.marginOf? settings.hosting.tokenMargin = some margin) :
    start settings ≠ .error .invalidMargin ∧
      ∀ deployment, start settings = .ok deployment → deployment.margin = margin := by
  obtain ⟨base, address, secret, id, key, complete⟩ := settings.complete_of_accepted accepted
  rw [start_of_complete complete accepted, inside]
  cases AppKey.parse key with
  | error failure => simp
  | ok signing =>
      dsimp only
      split
      · refine ⟨by simp, ?_⟩
        intro deployment same
        cases same
        rfl
      · simp

end Started

/-- What becomes of the margin in the settings. -/
structure UsesMargin (settings : Settings) : Prop where
  /-- A margin of which the milliseconds fit in a signed number of 64 bits is used as it is. -/
  small : settings.hosting.tokenMargin ≤ 9223372036854775 →
    start settings ≠ .error .invalidMargin ∧
      ∀ deployment, start settings = .ok deployment →
        deployment.margin = settings.hosting.tokenMargin
  /-- With a larger one the service does not start. -/
  large : 9223372036854775 < settings.hosting.tokenMargin →
    settings.hosting.tokenMargin < 18446744073709551616 - 9223372036854775 →
      start settings = .error .invalidMargin
  /-- The largest margins become negative. -/
  wrapped : 18446744073709551616 - 9223372036854775 ≤ settings.hosting.tokenMargin →
    start settings ≠ .error .invalidMargin ∧
      ∀ deployment, start settings = .ok deployment →
        deployment.margin = (settings.hosting.tokenMargin : Int) - 18446744073709551616
  /-- What a token is compared with, unless the margin leads out of the calendar. -/
  compares : ∀ deployment, start settings = .ok deployment → ∀ (token : Rest.Token) (now : Instant),
    now.Ordinary → token.outlasts? now deployment.margin =
      if Instant.isCounted (now.seconds + deployment.margin) then
        some (decide (now.count + deployment.margin * 1000000000 < token.expiry.limit))
      else none
  /-- Within these limits the comparison is that of the integers. -/
  exact : settings.hosting.tokenMargin ≤ 9223372036854775 → ∀ deployment,
    start settings = .ok deployment → ∀ (token : Rest.Token) (now : Instant),
      now.Ordinary → token.expiry.Ordinary →
      Instant.isCounted (now.seconds + settings.hosting.tokenMargin) = true →
        (token.isFresh now deployment.margin = true ↔
          now.count + settings.hosting.tokenMargin * 1000000000 < token.expiry.count)

theorem margin_is_exact_within_limits (settings : Settings)
    (accepted : settings.checkServing = .ok ())
    (bounded : settings.hosting.tokenMargin < 18446744073709551616) : UsesMargin settings := by
  have compares (deployment : Deployment) (token : Rest.Token) (now : Instant)
      (ordinary : now.Ordinary) := token.outlasts_of_ordinary ordinary deployment.margin
  constructor
  · intro small
    exact start_of_margin accepted (Rest.TokenCache.margin_of_small small)
  · intro large inside
    exact start_of_no_margin accepted (Rest.TokenCache.margin_of_large large inside)
  · intro wrapped
    exact start_of_margin accepted (Rest.TokenCache.margin_of_wrapped wrapped bounded)
  · intro deployment _ token now ordinary
    exact compares deployment token now ordinary
  · intro small deployment started token now ordinary ends inside
    have margin := (start_of_margin accepted
      (Rest.TokenCache.margin_of_small small)).2 deployment started
    rw [Rest.Token.isFresh, token.outlasts_of_ordinary ordinary, margin, if_pos inside,
      Instant.limit_of_ordinary ends, beq_iff_eq, Option.some.injEq, decide_eq_true_iff]

def settingsWithMargin (margin : Nat) : Settings :=
  (settingsUnder "https://[::1]/api/v3").withMargin margin

theorem accepted_with_margin (margin : Nat) : (settingsWithMargin margin).checkServing = .ok () := by
  have read : (Url.parse "https://[::1]/api/v3").toOption.isSome = true := by decide +kernel
  cases parsed : Url.parse "https://[::1]/api/v3" with
  | error fault =>
      rw [parsed] at read
      cases read
  | ok url => exact (Settings.check_with_margin _ margin).trans (accepted_under parsed)

theorem starts_with_margin (seconds : Nat) {margin : Int}
    (inside : Rest.TokenCache.marginOf? seconds = some margin) :
    ∃ deployment, start (settingsWithMargin seconds) = .ok deployment ∧
      deployment.margin = margin := by
  have accepted := accepted_with_margin seconds
  have given := start_of_margin accepted inside
  cases started : start (settingsWithMargin seconds) with
  | ok deployment => exact ⟨deployment, rfl, given.2 deployment started⟩
  | error fault =>
      obtain ⟨_, _, _, _, _, complete⟩ := Settings.complete_of_accepted accepted
      cases hindrance_of_start complete accepted started with
      | margin outside => cases inside.symm.trans outside
      | key known unread =>
          exact absurd (.key known unread) (unhindered_under "https://[::1]/api/v3" _)
      | address found other =>
          exact absurd (.address found other) (unhindered_under "https://[::1]/api/v3" _)

/-- With a margin of five minutes a token is used until five minutes before its end. -/
theorem five_minutes_are_used :
    UsesMargin (settingsWithMargin 300) ∧
      ∃ deployment, start (settingsWithMargin 300) = .ok deployment ∧ deployment.margin = 300 ∧
        (Rest.Token.mk "token" ⟨301, 0⟩).isFresh ⟨0, 999999999⟩ deployment.margin = true ∧
        (Rest.Token.mk "token" ⟨301, 0⟩).isFresh ⟨1, 0⟩ deployment.margin = false := by
  have uses := margin_is_exact_within_limits (settingsWithMargin 300) (accepted_with_margin 300)
    (by decide)
  obtain ⟨deployment, started, margin⟩ :=
    starts_with_margin 300 (Rest.TokenCache.margin_of_small (by decide))
  refine ⟨uses, deployment, started, margin, ?_, ?_⟩
  · rw [uses.exact (by decide) deployment started _ _ (by decide) (by decide) (by decide)]
    decide
  · rw [← Bool.not_eq_true,
      uses.exact (by decide) deployment started _ _ (by decide) (by decide) (by decide)]
    decide

/-- Accepted margins that keep the service from starting, that let a token be used after its end,
that leave the comparison without an answer, and that hide a leap second. -/
theorem accepted_margins_are_not_exact :
    (settingsWithMargin 9223372036854775807).checkServing = .ok () ∧
      start (settingsWithMargin 9223372036854775807) = .error .invalidMargin ∧
      (∃ deployment, start (settingsWithMargin 18446744073709551615) = .ok deployment ∧
        deployment.margin = -1 ∧
        (Rest.Token.mk "token" ⟨99, 500000000⟩).isFresh ⟨100, 0⟩ deployment.margin = true) ∧
      (∃ deployment, start (settingsWithMargin 9000000000000) = .ok deployment ∧
        (Rest.Token.mk "token" ⟨1704067200, 0⟩).outlasts? ⟨1704067200, 0⟩ deployment.margin = none) ∧
      ∃ deployment, start (settingsWithMargin 1) = .ok deployment ∧
        (Rest.Token.mk "token" ⟨1483228799, 1900000000⟩).isFresh ⟨1483228799, 500000000⟩
          deployment.margin = false := by
  refine ⟨accepted_with_margin _, ?_, ?_, ?_, ?_⟩
  · exact start_of_no_margin (accepted_with_margin _)
      (Rest.TokenCache.margin_of_large (by decide) (by decide))
  · obtain ⟨deployment, started, margin⟩ :=
      starts_with_margin 18446744073709551615 (Rest.TokenCache.margin_of_wrapped (by decide) (by decide))
    refine ⟨deployment, started, margin, ?_⟩
    rw [margin]
    decide
  · obtain ⟨deployment, started, margin⟩ :=
      starts_with_margin 9000000000000 (Rest.TokenCache.margin_of_small (by decide))
    refine ⟨deployment, started, ?_⟩
    rw [margin]
    decide
  · obtain ⟨deployment, started, margin⟩ :=
      starts_with_margin 1 (Rest.TokenCache.margin_of_small (by decide))
    refine ⟨deployment, started, ?_⟩
    rw [margin]
    decide

end Webhook.Deployment

end RepoRules
