import RepoRules.Failure
import RepoRules.Time.Instant

/-!
Tokens of installations and where they are kept. A token is used while it stays valid for longer
than a margin; after that a new one is asked for, which takes the place of the old one only when it
has come. A margin that leads out of the calendar stops the program.
-/

namespace RepoRules.Rest

structure Token where
  value : String
  expiry : Instant
deriving Repr, DecidableEq

/-- Whether a token stays valid for more than so many seconds. There is no answer if these lead out
of the years that are counted. -/
def Token.outlasts? (token : Token) (now : Instant) (margin : Int) : Option Bool :=
  (now.after? margin).map fun sum => sum.isBefore token.expiry

/-- Whether there is an answer, and it is that the token can be used. -/
def Token.isFresh (token : Token) (now : Instant) (margin : Int) : Bool :=
  token.outlasts? now margin == some true

/-- The last token of each installation. -/
structure TokenCache where
  margin : Int
  tokens : List (Nat × Token)
deriving Repr, DecidableEq

namespace TokenCache

def empty (margin : Int) : TokenCache := ⟨margin, []⟩

def get? (cache : TokenCache) (installation : Nat) : Option Token :=
  cache.tokens.lookup installation

def put (cache : TokenCache) (installation : Nat) (token : Token) : TokenCache :=
  { cache with
    tokens := (installation, token) :: cache.tokens.filter fun entry => entry.1 != installation }

/-- The token of an installation that can be used at a time, if there is one. Where the comparison of
a token has no answer, this has none. -/
def usable? (cache : TokenCache) (installation : Nat) (now : Instant) : Option (Option Token) :=
  match cache.get? installation with
  | none => some none
  | some token =>
      (token.outlasts? now cache.margin).map fun usable => if usable then some token else none

/-- Stands for the end of the program, which stops where a sum of a time and a margin is not counted.
Whoever asked for the token gets no answer at all. -/
def stopped : Failure :=
  Failure.of .internal "`DateTime + TimeDelta` overflowed"

/-- The value of a token that can be used now. It is asked for only if there is none. -/
def getOrRefresh {m : Type → Type} [Monad m] (cache : TokenCache) (installation : Nat)
    (now : Instant) (refresh : m (Except Failure Token)) :
    m (Except Failure String × TokenCache) := do
  match cache.usable? installation now with
  | none => return (.error stopped, cache)
  | some (some token) => return (.ok token.value, cache)
  | some none =>
      match ← refresh with
      | .ok token => return (.ok token.value, cache.put installation token)
      | .error failure => return (.error failure, cache)

/-- The margin that a number of seconds from the settings stands for. The number is taken as a
signed one of 64 bits; one of which the milliseconds do not fit has no margin. -/
def marginOf? (seconds : Nat) : Option Int :=
  let signed := (seconds : Int).bmod 0x10000000000000000
  if signed.natAbs ≤ 0x7fffffffffffffff / 1000 then some signed else none

end TokenCache

end RepoRules.Rest
