import RepoRules.Net.Host
import RepoRules.Text.Blank

/-!
URLs: read from text, changed by adding segments and query pairs, and written. Schemes of the web
need a host and always have a path; of other schemes the part behind the colon may be any text.
-/

namespace RepoRules

structure UrlAuthority where
  user : String
  password : String
  host : Host
  port : Option Nat
deriving Repr, DecidableEq

inductive UrlPath where
  /-- Text that is not divided into segments. -/
  | plain (text : String)
  | segments (names : List String)
deriving Repr, DecidableEq

structure Url where
  scheme : String
  authority : Option UrlAuthority
  path : UrlPath
  query : Option String
  fragment : Option String
deriving Repr, DecidableEq

namespace Url

/-- The schemes of the web, with the ports that are left out. -/
def specialPorts : List (String × Nat) :=
  [("http", 80), ("https", 443), ("ws", 80), ("wss", 443), ("ftp", 21)]

def isSpecial (scheme : String) : Bool :=
  scheme == "file" || (specialPorts.lookup scheme).isSome

def isBreak (character : Char) : Bool :=
  character == '\t' || character == '\n' || character == '\r'

def cleaned (text : String) : List Char :=
  (Text.trimCharsBy (fun character => character.toNat ≤ 0x20) text.toList).filter (!isBreak ·)

def isSchemeChar (character : Char) : Bool :=
  character.isAlphanum || "+-.".toList.contains character

def splitScheme? (text : List Char) : Option (String × List Char) :=
  match text.span isSchemeChar with
  | (first :: name, ':' :: rest) =>
      if first.isAlpha then some (String.ofList ((first :: name).map Char.toLower), rest) else none
  | _ => none

/-- What ends the part in front of the path. -/
def endsAuthority (special : Bool) (character : Char) : Bool :=
  character == '/' || character == '?' || character == '#' || (special && character == '\\')

def splitUser (authority : List Char) : Option (List Char) × List Char :=
  match (Text.splitChars '@' authority).reverse with
  | last :: others@(_ :: _) => (some ((others.reverse.intersperse ['@']).flatten), last)
  | _ => (none, authority)

def splitPort : (bracketed : Bool) → List Char → List Char × Option (List Char)
  | _, [] => ([], none)
  | bracketed, character :: rest =>
      if character == ':' && !bracketed then ([], some rest)
      else
        let inside := if character == '[' then true else if character == ']' then false else bracketed
        let (host, port) := splitPort inside rest
        (character :: host, port)

def portOf (scheme : String) : Option (List Char) → Except UrlFault (Option Nat)
  | none | some [] => .ok none
  | some digits =>
      match Text.numberOf? 10 digits with
      | some port =>
          if 65535 < port then .error .badPort
          else if specialPorts.lookup scheme = some port then .ok none
          else .ok (some port)
      | none => .error .badPort

def userOf : Option (List Char) → String × String
  | none => ("", "")
  | some text =>
      let user := text.takeWhile (· != ':')
      let password := (text.dropWhile (· != ':')).drop 1
      (Percent.encode Percent.inUser user, Percent.encode Percent.inUser password)

def parseAuthority (scheme : String) (text : List Char) : Except UrlFault UrlAuthority := do
  let special := isSpecial scheme
  let (userText, hostText) := splitUser text
  let (host, port) := splitPort false hostText
  if host.isEmpty && (special || port.isSome || (userText.any (!·.isEmpty))) then
    throw .emptyHost
  let host ← if special then Host.parse host else Host.parseOther host
  let (user, password) := userOf userText
  return ⟨user, password, host, ← portOf scheme port⟩

def isDot (segment : String) : Bool :=
  [".", "%2e", "%2E"].contains segment

def isDoubleDot (segment : String) : Bool :=
  ["..", "%2e%2e", "%2e%2E", "%2E%2e", "%2E%2E", "%2e.", "%2E.", ".%2e", ".%2E"].contains segment

/-- A letter with a colon or a bar behind it names a drive. -/
def isDrive (segment : List Char) : Bool :=
  match segment with
  | [letter, ':'] | [letter, '|'] => letter.isAlpha
  | _ => false

/-- The path one segment back; from a drive no way leads back. -/
def goBack (names : List String) : List String :=
  if names.getLast?.any fun name => isDrive name.toList then names else names.dropLast

/-- Adds the segments of a path one after another. A dot stays where it is and two dots go back. -/
def addSegments : (names : List String) → List String → List String
  | names, [] => names
  | names, segment :: rest =>
      let final := rest.isEmpty
      let names :=
        if isDoubleDot segment then goBack names ++ (if final then [""] else [])
        else if isDot segment then names ++ (if final then [""] else [])
        else names ++ [segment]
      addSegments names rest

def pathParts (special : Bool) (text : List Char) : List (List Char) :=
  let text := if special then text.map fun character => if character == '\\' then '/' else character
    else text
  Text.splitChars '/' (if text.head? = some '/' then text.drop 1 else text)

def segmentsOf (special : Bool) (text : List Char) : List String :=
  addSegments [] ((pathParts special text).map (Percent.encode Percent.inPath))

def splitAfter (separator : Char) (text : List Char) : List Char × Option (List Char) :=
  match Text.splitOnceChars separator text with
  | some (front, back) => (front, some back)
  | none => (text, none)

def finish (scheme : String) (authority : Option UrlAuthority) (path : UrlPath)
    (query fragment : Option (List Char)) : Url :=
  let quote (character : Char) := Percent.inQuery character ||
    (isSpecial scheme && character == '\'')
  ⟨scheme, authority, path, query.map (Percent.encode quote),
    fragment.map (Percent.encode Percent.inFragment)⟩

def parseHierarchy (scheme : String) (text : List Char) (query fragment : Option (List Char)) :
    Except UrlFault Url := do
  let special := isSpecial scheme
  let front := text.takeWhile (!endsAuthority special ·)
  let path := text.dropWhile (!endsAuthority special ·)
  let authority ← parseAuthority scheme front
  let names := if path.isEmpty && !special then [] else segmentsOf special path
  return finish scheme (some authority) (.segments names) query fragment

def isSlash (character : Char) : Bool :=
  character == '/' || character == '\\'

/-- The path of a file, and whether it starts with a drive. A drive is written with a colon, and what
follows the colon is a segment of its own. Slashes in front count as one. -/
def fileSegments (text : List Char) : List String × Bool :=
  let encoded := Percent.encode Percent.inPath
  let (start, rest, onDrive) : List String × List (List Char) × Bool :=
    match pathParts true text with
    | [letter, ':'] :: rest | [letter, '|'] :: rest =>
        if letter.isAlpha then ([], [letter, ':'] :: rest, true)
        else ([], pathParts true text, false)
    | (letter :: ':' :: name) :: rest =>
        if letter.isAlpha then ([String.ofList [letter, ':'], encoded name], rest, false)
        else ([], pathParts true text, false)
    | parts => ([], parts, false)
  let names := addSegments start (rest.map encoded)
  let kept := names.dropWhile (· = "")
  (if kept.isEmpty then [""] else kept, onDrive)

/-- Reads what follows `file:`. The host may be missing, `localhost` is none, and a path that starts
with a drive has none. -/
def parseFile (text : List Char) (query fragment : Option (List Char)) : Except UrlFault Url := do
  let url (host : Host) (path : List Char) : Url :=
    let (names, onDrive) := fileSegments path
    let host := if onDrive then .domain "" else host
    finish "file" (some ⟨"", "", host, none⟩) (.segments names) query fragment
  let slashes := (text.takeWhile isSlash).length
  let rest := text.drop 2
  let name := rest.takeWhile (!isSlash ·)
  if slashes < 2 then return url (.domain "") text
  else if name.isEmpty || isDrive name then return url (.domain "") rest
  else
    let host ← Host.parse name
    return url (if host = .domain "localhost" then .domain "" else host)
      (rest.dropWhile (!isSlash ·))

def parse (text : String) : Except UrlFault Url :=
  match splitScheme? (cleaned text) with
  | none => .error .relative
  | some (scheme, rest) =>
      let (front, fragment) := splitAfter '#' rest
      let (front, query) := splitAfter '?' front
      if scheme = "file" then parseFile front query fragment
      else if isSpecial scheme then
        parseHierarchy scheme (front.dropWhile isSlash) query fragment
      else
        match front with
        | '/' :: '/' :: rest => parseHierarchy scheme rest query fragment
        | '/' :: _ =>
            .ok (finish scheme none (.segments (segmentsOf false front)) query fragment)
        | _ =>
            .ok (finish scheme none (.plain (Percent.encode Percent.isControl front)) query fragment)

def UrlAuthority.text (authority : UrlAuthority) : String :=
  let password := if authority.password.isEmpty then "" else ":" ++ authority.password
  let user := authority.user ++ password
  let port := match authority.port with
    | some port => ":" ++ toString port
    | none => ""
  (if user.isEmpty then "" else user ++ "@") ++ authority.host.text ++ port

def pathText : UrlPath → String
  | .plain text => text
  | .segments names => String.join (names.map ("/" ++ ·))

def target (url : Url) : String :=
  pathText url.path ++ (match url.query with
    | some query => "?" ++ query
    | none => "")

def text (url : Url) : String :=
  let authority := match url.authority with
    | some authority => "//" ++ UrlAuthority.text authority
    | none => ""
  let fragment := match url.fragment with
    | some fragment => "#" ++ fragment
    | none => ""
  url.scheme ++ ":" ++ authority ++ url.target ++ fragment

/-- Adds a segment to a path. A dot and two dots add nothing; the empty first segment of a path
that is only a slash is replaced. -/
def pushSegment (names : List String) (segment : String) : List String :=
  let base := if names = [""] then [] else names
  let text := segment.toList.filter (!isBreak ·)
  if segment = "." ∨ segment = ".." then names
  else if text = "..".toList then base.dropLast ++ [""]
  else if text = ".".toList then base ++ [""]
  else base ++ [Percent.encode Percent.inSegment text]

def withoutFinalSlash (names : List String) : List String :=
  if 1 < names.length && names.getLast? = some "" then names.dropLast else names

/-- The URL with segments added to its path; a path that is only text cannot be added to. -/
def extend? (url : Url) (segments : List String) : Option Url :=
  match url.path with
  | .plain _ => none
  | .segments names =>
      some { url with path := .segments (segments.foldl pushSegment (withoutFinalSlash names)) }

def addQuery (url : Url) (name value : String) : Url :=
  let pair := name ++ "=" ++ value
  { url with query := match url.query with
      | none | some "" => some pair
      | some query => some (query ++ "&" ++ pair) }

end Url

end RepoRules
