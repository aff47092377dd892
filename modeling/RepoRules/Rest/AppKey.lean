import RepoRules.Failure
import RepoRules.Key.Frame
import RepoRules.Key.Item
import RepoRules.Key.Signing

/-!
The private key of an app. The text has to frame data that hold a key for RSA, either by its label or
by the identifier in the data. Whether the numbers of the key are any good shows when it signs.
-/

namespace RepoRules

/-- A key, with the reason why it does not sign if it does not. -/
structure AppKey where
  fault : Option SigningFault
deriving Repr, DecidableEq

inductive KeyFault where
  | invalidFormat
  /-- The data name RSA but hold no string of bytes. -/
  | missingBytes
deriving Repr, DecidableEq

def KeyFault.message : KeyFault → String
  | .invalidFormat => "InvalidKeyFormat"
  | .missingBytes => "InvalidEcdsaKey"

namespace AppKey

/-- The kinds of keys that are registered. -/
inductive Kind where
  | curve
  | rsa
  | edwards
deriving Repr, DecidableEq

def kind? : KeyItem → Option Kind
  | .identifier [1, 2, 840, 10045, 2, 1] => some .curve
  | .identifier [1, 2, 840, 113549, 1, 1, 1] => some .rsa
  | .identifier [1, 3, 101, 112] => some .edwards
  | _ => none

def bytes? : KeyItem → Option Bytes
  | .data content => some content
  | _ => none

def keyData (frame : KeyFrame) : Except KeyFault Bytes :=
  match KeyItem.read? (frame.content.length + 1) frame.content with
  | none => .error .invalidFormat
  | some items =>
      match frame.label with
      | "RSA PRIVATE KEY" | "RSA PUBLIC KEY" => .ok frame.content
      | "PRIVATE KEY" | "PUBLIC KEY" | "CERTIFICATE" =>
          if KeyItem.findIn? kind? items = some .rsa then
            match KeyItem.findIn? bytes? items with
            | some content => .ok content
            | none => .error .missingBytes
          else .error .invalidFormat
      | _ => .error .invalidFormat

def ofData (data : Bytes) : AppKey :=
  match SigningKey.checkData data with
  | .ok () => ⟨none⟩
  | .error fault => ⟨some fault⟩

def failure (fault : KeyFault) : Failure :=
  (Failure.of .configuration ("invalid app private key: " ++ fault.message)).withCode "GH-APP-KEY"

def parse (text : String) : Except Failure AppKey :=
  match KeyFrame.parse? text.toList with
  | none => .error (failure .invalidFormat)
  | some frame => ((keyData frame).map ofData).mapError failure

/-- What comes of signing with the key. -/
def signing (key : AppKey) : Except Failure Unit :=
  match key.fault with
  | none => .ok ()
  | some fault =>
      .error (Failure.of .authentication ("failed to sign app token: " ++ fault.message))

end AppKey

end RepoRules
