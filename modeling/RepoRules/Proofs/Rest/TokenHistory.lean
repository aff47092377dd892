import Mathlib.Data.List.Basic
import RepoRules.Rest.Token

/-!
Tokens over a history of calls, whoever they are for, whenever they come, and whatever comes of the
requests for new ones. What an installation has is always the last token that was issued for it.
-/

namespace RepoRules.Rest

variable {σ α : Type}

namespace TokenCache

variable (cache : TokenCache) (installation : Nat)

end TokenCache

structure TokenCall (σ : Type) where
  installation : Nat
  now : Instant
  refresh : StateM σ (Except Failure Token)

/-- What a call found, what it asked for, what it gave and what it left. -/
structure TokenTurn (σ : Type) where
  call : TokenCall σ
  before : TokenCache
  asked : List (Except Failure Token)
  result : Except Failure String
  after : TokenCache

def noting (steps : StateM σ α) : StateM (σ × List α) α := fun (state, noted) =>
  let (result, after) := steps.run state
  (result, (after, noted ++ [result]))

namespace TokenCall

def turn (call : TokenCall σ) (cache : TokenCache) (state : σ) : TokenTurn σ × σ :=
  let ((result, after), (last, asked)) :=
    (cache.getOrRefresh call.installation call.now (noting call.refresh)).run (state, [])
  (⟨call, cache, asked, result, after⟩, last)

def turns : List (TokenCall σ) → TokenCache → σ → List (TokenTurn σ)
  | [], _, _ => []
  | call :: rest, cache, state =>
      let (turn, after) := call.turn cache state
      turn :: turns rest turn.after after

def answers : List (TokenCall σ) → TokenCache → StateM σ (List (Except Failure String))
  | [], _ => return []
  | call :: rest, cache => do
      let (result, after) ← cache.getOrRefresh call.installation call.now call.refresh
      return result :: (← answers rest after)

section Turn

variable (call : TokenCall σ) (cache : TokenCache) (state : σ)

end Turn

end TokenCall

namespace TokenTurn

/-- The call finds a token that stays valid for longer than the margin. -/
def Finds (margin : Int) (turn : TokenTurn σ) (token : Token) : Prop :=
  turn.before.get? turn.call.installation = some token ∧
    ∃ sum, turn.call.now.after? margin = some sum ∧ sum.isBefore token.expiry = true

/-- The call finds a token, and its time and the margin lead out of the calendar. -/
def Stops (margin : Int) (turn : TokenTurn σ) : Prop :=
  (∃ token, turn.before.get? turn.call.installation = some token) ∧
    turn.call.now.after? margin = none

/-- What a call does with the tokens. -/
structure Follows (margin : Int) (turn : TokenTurn σ) : Prop where
  /-- A token that is found is given, and nothing is asked for. -/
  reuses : ∀ token, turn.Finds margin token →
    turn.asked = [] ∧ turn.result = .ok token.value ∧ turn.after = turn.before
  /-- A program that stops has asked for nothing and gives nothing. -/
  stops : turn.Stops margin →
    turn.asked = [] ∧ turn.result = .error TokenCache.stopped ∧ turn.after = turn.before
  /-- Nothing is asked for only where one is found or the program stops. -/
  unasked : turn.asked = [] → (∃ token, turn.Finds margin token) ∨ turn.Stops margin
  asksOnce : turn.asked.length ≤ 1
  /-- A new token is given, and takes the place of the old one of the installation. -/
  issues : ∀ token, turn.asked = [.ok token] → turn.result = .ok token.value ∧
    turn.after.get? turn.call.installation = some token ∧
    ∀ other, other ≠ turn.call.installation → turn.after.get? other = turn.before.get? other
  fails : ∀ failure, turn.asked = [.error failure] →
    turn.result = .error failure ∧ turn.after = turn.before

def issued (installation : Nat) (turns : List (TokenTurn σ)) : List Token :=
  turns.flatMap fun turn =>
    if turn.call.installation = installation then turn.asked.filterMap Except.toOption else []

section Kinds

variable {call : TokenCall σ} {cache : TokenCache} {token : Token}

variable (stale : cache.usable? call.installation call.now = some none)

include stale

end Kinds

/-- What a call asked for, if it asked for anything, came or did not come. -/
theorem Follows.asked_cases {margin : Int} {turn : TokenTurn σ} (follows : turn.Follows margin) :
    turn.asked = [] ∨ (∃ token, turn.asked = [.ok token]) ∨
      ∃ failure, turn.asked = [.error failure] := by
  have once := follows.asksOnce
  generalize turn.asked = asked at once ⊢
  rcases asked with _ | ⟨failure | token, _ | ⟨other, rest⟩⟩
  · exact .inl rfl
  · exact .inr (.inr ⟨failure, rfl⟩)
  · simp at once
  · exact .inr (.inl ⟨token, rfl⟩)
  · simp at once

theorem Follows.given {margin : Int} {turn : TokenTurn σ} (follows : turn.Follows margin)
    {value : String} (given : turn.result = .ok value) :
    ∃ token, turn.after.get? turn.call.installation = some token ∧ token.value = value := by
  rcases follows.asked_cases with none | ⟨token, came⟩ | ⟨failure, failed⟩
  · rcases follows.unasked none with ⟨token, found⟩ | stops
    · obtain ⟨_, result, after⟩ := follows.reuses token found
      rw [after]
      exact ⟨token, found.1, Except.ok.inj (result.symm.trans given)⟩
    · cases (follows.stops stops).2.1.symm.trans given
  · obtain ⟨result, own, _⟩ := follows.issues token came
    exact ⟨token, own, Except.ok.inj (result.symm.trans given)⟩
  · cases (follows.fails failure failed).1.symm.trans given

end TokenTurn

-- With a margin that leads out of the calendar the program stops at the second look at a token.
example :
    let call : TokenCall Unit := ⟨1, ⟨0, 0⟩, pure (.ok ⟨"first", ⟨1000, 0⟩⟩)⟩
    ((TokenCall.answers [call, call] (TokenCache.empty 9000000000000)).run ()).1.map
      Except.toOption = [some "first", none] := by
  decide +kernel

end RepoRules.Rest
