import RepoRules.Digest.Hex
import RepoRules.Json.Writer
import RepoRules.Text.Ascii
import RepoRules.Text.Blank
import RepoRules.Text.Digit

/-!
Requests to the listener and the answers to them.
-/

namespace RepoRules.Webhook

structure Request where
  method : String
  /-- The path with the query behind a question mark, also as part of an address in full. -/
  target : String
  headers : List (String × String)
  body : Bytes

structure Response where
  status : Nat
  contentType : Option String
  body : String
deriving Repr, DecidableEq

namespace Request

/-- What stands behind the authority in an address in full. -/
def behindAuthority? (target : List Char) : Option (List Char) :=
  match target.dropWhile (· ≠ ':') with
  | ':' :: '/' :: '/' :: rest => some (rest.dropWhile fun character => character ∉ ['/', '?', '#'])
  | _ => none

/-- The path of the target. An address in full may leave it out, which stands for the root; an
authority alone has no path. -/
def path (request : Request) : String :=
  let upToQuery := List.takeWhile fun character => character ∉ ['?', '#']
  match request.target.toList with
  | '/' :: rest => String.ofList ('/' :: upToQuery rest)
  | target =>
      match behindAuthority? target with
      | none => ""
      | some rest => if (upToQuery rest).isEmpty then "/" else String.ofList (upToQuery rest)

def isVisible (character : Char) : Bool :=
  (' ' ≤ character && character ≤ '~') || character == '\t'

/-- The first header of a name, of which case does not matter. A value with anything but visible
ASCII characters does not count. -/
def rawHeader? (request : Request) (name : String) : Option String :=
  match request.headers.find? fun header => Text.sameAsciiCase header.1 name with
  | some (_, value) => if value.toList.all isVisible then some value else none
  | none => none

/-- A header without the blanks around it, if it is not blank. -/
def header? (request : Request) (name : String) : Option String :=
  ((request.rawHeader? name).map Text.trim).filter fun value => !value.isEmpty

/-- The length of the body as the sender declares it. -/
def declaredLength? (request : Request) : Option Nat :=
  (request.rawHeader? "content-length").bind Text.natural?

/-- How much of the body is read at most: what the service reads of any body, what is configured,
and what is declared. -/
def readLimit (maximum : Nat) (request : Request) : Nat :=
  min (2 * 1024 * 1024) (match request.declaredLength? with
    | some length => min maximum length
    | none => maximum)

def declaresTooMuch (maximum : Nat) (request : Request) : Bool :=
  request.declaredLength?.any fun length => maximum < length

def holdsTooMuch (maximum : Nat) (request : Request) : Bool :=
  request.readLimit maximum < request.body.length

end Request

namespace Response

def empty (status : Nat) : Response :=
  ⟨status, none, ""⟩

def text (body : String) : Response :=
  ⟨200, some "text/plain; charset=utf-8", body⟩

def json (status : Nat) (body : Json) : Response :=
  ⟨status, some "application/json", body.compact⟩

def withoutBody (response : Response) : Response := { response with body := "" }

end Response

end RepoRules.Webhook
