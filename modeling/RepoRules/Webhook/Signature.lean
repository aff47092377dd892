import RepoRules.Digest.Sha256
import RepoRules.Text.Pieces

/-!
Signatures of deliveries. Sender and receiver share a secret; the signature of a body is its digest
under the secret, written in hexadecimal digits behind the name of the scheme.
-/

namespace RepoRules.Signature

def scheme : String := "sha256="

def digest (secret : String) (body : Bytes) : Bytes :=
  Sha256.hmac (Bytes.ofText secret) body

def sign (secret : String) (body : Bytes) : String :=
  scheme ++ Hex.encode (digest secret body)

/-- Why a signature is not accepted. -/
inductive Fault where
  | missing
  | otherScheme
  | notHex
  | mismatch
deriving Repr, DecidableEq

/-- Checks the signature that came with a body. -/
def check (secret : String) (body : Bytes) : Option String → Except Fault Unit
  | none => .error .missing
  | some signature =>
      match Text.stripPrefix? signature scheme with
      | none => .error .otherScheme
      | some digits =>
          match Hex.decode? digits with
          | none => .error .notHex
          | some given => if given = digest secret body then .ok () else .error .mismatch

end RepoRules.Signature
