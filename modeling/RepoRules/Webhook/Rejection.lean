import RepoRules.Failure
import RepoRules.Webhook.Request
import RepoRules.Webhook.Signature

/-!
Rejections: what the sender of a delivery is told when it cannot be handled. Faults of the rules and
of the delivery are told in full. That a call was refused is told in one fixed sentence, and faults
of the service only when the listener is set to be verbose.
-/

namespace RepoRules.Webhook

structure Rejection where
  status : Nat
  code : FailureCode
  message : String
deriving Repr, DecidableEq

namespace Rejection

def unauthorized (message : String) : Rejection :=
  ⟨401, .named "RULEBOT-WEBHOOK-401", message⟩

def badRequest (message : String) : Rejection :=
  ⟨400, .named "RULEBOT-WEBHOOK-400", message⟩

def tooLarge : Rejection :=
  ⟨413, .named "RULEBOT-WEBHOOK-413", "payload too large"⟩

def internal (message : String) : Rejection :=
  ⟨500, .named "RULEBOT-WEBHOOK-500", message⟩

def accessRefused : Rejection :=
  badRequest "upstream access refused; the repository may not be approved for this app"

def ofSignature : Signature.Fault → Rejection
  | .missing => unauthorized "missing signature"
  | .otherScheme => badRequest "signature must use sha256=<hex> format"
  | .notHex => badRequest "signature digest is not valid hex"
  | .mismatch => unauthorized "signature verification failed"

/-- A call that was forbidden, not authenticated, or one too many. -/
def isAccessFailure (failure : Failure) : Bool :=
  failure.category == .forbidden || failure.category == .authentication ||
    failure.code == .named "GH-429"

/-- A failure that the sender or the owner of the rules can mend. -/
def isSenderFailure (failure : Failure) : Bool :=
  failure.category.isRuleFailure || failure.category == .validation

def ofFailure (verbose : Bool) (failure : Failure) : Rejection :=
  if isAccessFailure failure then accessRefused
  else if isSenderFailure failure then ⟨400, failure.code, failure.message⟩
  else internal (if verbose then failure.display else "internal server error")

def response (rejection : Rejection) : Response :=
  .json rejection.status (Json.ofFields [("error", Json.ofFields
    [("code", .string rejection.code.text), ("message", .string rejection.message)])])

end Rejection

end RepoRules.Webhook
