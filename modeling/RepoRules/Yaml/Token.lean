import RepoRules.Yaml.Scalar

/-!
The tokens of a YAML text. Indentation becomes opening and closing tokens, as brackets do. Whether
something is a key shows only when a colon follows it, so its place is held by a pending token that
is settled later.
-/

namespace RepoRules.Yaml

inductive Token where
  | versionDirective (major minor : Nat)
  | tagDirective (handle pre : String)
  | documentStart
  | documentEnd
  | blockSequenceStart
  | blockMappingStart
  | blockEnd
  | flowSequenceStart
  | flowSequenceEnd
  | flowMappingStart
  | flowMappingEnd
  | blockEntry
  | flowEntry
  | key
  | value
  | alias (name : String)
  | anchor (name : String)
  | tag (handle suffix : String)
  | scalar (text : String) (isPlain : Bool)
deriving Repr, DecidableEq

/-- A token, or the place of a key that is not known to be one yet. A settled key may open the
mapping it stands in. -/
inductive Slot where
  | found (token : Token)
  | pending
  | settled (opensMapping : Bool)

def Slot.tokens : Slot → List Token
  | .found token => [token]
  | .pending => []
  | .settled true => [.blockMappingStart, .key]
  | .settled false => [.key]

/-- Where a key may have begun. A required one must turn out to be a key. -/
structure Candidate where
  slot : Nat
  line : Nat
  column : Nat
  index : Nat
  required : Bool

/-- The indentation of a block collection; below all of them lies minus one. -/
structure Lexer where
  cursor : Cursor
  slots : Array Slot
  indent : Int
  indents : List Int
  /-- One place for the block context and one for every open bracket, the innermost first. -/
  candidates : List (Option Candidate)
  keyAllowed : Bool
  /-- More than the characters of the text, as fuel for all that reads on. -/
  size : Nat

abbrev Lex := StateT Lexer Option

namespace Lex

def emit (token : Token) : Lex Unit :=
  modify fun lexer => { lexer with slots := lexer.slots.push (.found token) }

def advance (count : Nat) : Lex Unit :=
  modify fun lexer => { lexer with cursor := lexer.cursor.advance count }

def setCursor (cursor : Cursor) : Lex Unit :=
  modify fun lexer => { lexer with cursor }

def setKeyAllowed (allowed : Bool) : Lex Unit :=
  modify fun lexer => { lexer with keyAllowed := allowed }

def inFlow : Lex Bool := do
  return (← get).candidates.length > 1

/-- Steps over blanks, comments and line ends. Where a key may begin in block context, tabs are no
blanks. -/
def skipGapFrom (inFlow : Bool) : (fuel : Nat) → Cursor → (keyAllowed : Bool) → Cursor × Bool
  | 0, cursor, keyAllowed => (cursor, keyAllowed)
  | fuel + 1, cursor, keyAllowed =>
      let tabs := inFlow || !keyAllowed
      let cursor := cursor.skipWhile fun character =>
        character == ' ' || (tabs && character == '\t')
      let cursor := cursor.skipComment
      if cursor.isAtBreak then skipGapFrom inFlow fuel cursor.nextLine (keyAllowed || !inFlow)
      else (cursor, keyAllowed)

def skipGap : Lex Unit := do
  let lexer ← get
  let (cursor, keyAllowed) := skipGapFrom (← inFlow) lexer.size lexer.cursor lexer.keyAllowed
  set { lexer with cursor, keyAllowed }

/-- A key ends on its line and within 1024 characters. -/
def isStale (cursor : Cursor) (candidate : Candidate) : Bool :=
  candidate.line < cursor.line || candidate.index + 1024 < cursor.index

def dropStale : Lex Unit := do
  let lexer ← get
  let stale := isStale lexer.cursor
  if lexer.candidates.any fun held => held.any fun one => stale one && one.required then failure
  let kept := lexer.candidates.map fun held => Option.filter (fun one => !stale one) held
  set { lexer with candidates := kept }

/-- Gives up the innermost candidate. -/
def dropCandidate : Lex Unit := do
  let lexer ← get
  match lexer.candidates with
  | some held :: others =>
      if held.required then failure
      set { lexer with candidates := none :: others }
  | _ => pure ()

/-- Notes that a key may begin here. -/
def noteCandidate : Lex Unit := do
  let lexer ← get
  if lexer.keyAllowed then
    let flow ← inFlow
    dropCandidate
    modify fun lexer =>
      let cursor := lexer.cursor
      let required := !flow && lexer.indent == Int.ofNat cursor.column
      let candidate := ⟨lexer.slots.size, cursor.line, cursor.column, cursor.index, required⟩
      { lexer with
        slots := lexer.slots.push .pending
        candidates := some candidate :: lexer.candidates.drop 1 }

def openBracket : Lex Unit :=
  modify fun lexer => { lexer with candidates := none :: lexer.candidates }

def closeBracket : Lex Unit :=
  modify fun lexer =>
    if lexer.candidates.length > 1 then { lexer with candidates := lexer.candidates.drop 1 } else lexer

/-- Whether a block collection begins at a column; if so its indentation is entered. -/
def indentTo (column : Nat) : Lex Bool := do
  let lexer ← get
  if !(← inFlow) && lexer.indent < Int.ofNat column then
    set { lexer with indent := Int.ofNat column, indents := lexer.indent :: lexer.indents }
    return true
  else return false

/-- Closes the block collections that are indented deeper than a column. -/
def dedentFrom (column : Int) : (indents : List Int) → (indent : Int) → Array Slot →
    List Int × Int × Array Slot
  | [], indent, slots => ([], indent, slots)
  | outer :: indents, indent, slots =>
      if column < indent then dedentFrom column indents outer (slots.push (.found .blockEnd))
      else (outer :: indents, indent, slots)

def dedentTo (column : Int) : Lex Unit := do
  if !(← inFlow) then
    modify fun lexer =>
      let (indents, indent, slots) := dedentFrom column lexer.indents lexer.indent lexer.slots
      { lexer with indents, indent, slots }

def documentMarker (token : Token) : Lex Unit := do
  dedentTo (-1)
  dropCandidate
  setKeyAllowed false
  advance 3
  emit token

def flowStart (token : Token) : Lex Unit := do
  noteCandidate
  openBracket
  setKeyAllowed true
  advance 1
  emit token

def flowEnd (token : Token) : Lex Unit := do
  dropCandidate
  closeBracket
  setKeyAllowed false
  advance 1
  emit token

def flowEntry : Lex Unit := do
  dropCandidate
  setKeyAllowed true
  advance 1
  emit .flowEntry

def blockEntry : Lex Unit := do
  let lexer ← get
  if !(← inFlow) then
    if !lexer.keyAllowed then failure
    if ← indentTo lexer.cursor.column then emit .blockSequenceStart
  dropCandidate
  setKeyAllowed true
  advance 1
  emit .blockEntry

def explicitKey : Lex Unit := do
  let lexer ← get
  let flow ← inFlow
  if !flow then
    if !lexer.keyAllowed then failure
    if ← indentTo lexer.cursor.column then emit .blockMappingStart
  dropCandidate
  setKeyAllowed (!flow)
  advance 1
  emit .key

/-- A colon settles the innermost candidate; without one it stands behind an explicit key. -/
def value : Lex Unit := do
  let lexer ← get
  let flow ← inFlow
  match lexer.candidates with
  | some held :: others =>
      let opens ← indentTo held.column
      modify fun lexer =>
        { lexer with
          slots := lexer.slots.setIfInBounds held.slot (.settled opens)
          candidates := none :: others
          keyAllowed := false }
  | _ =>
      if !flow then
        if !lexer.keyAllowed then failure
        if ← indentTo lexer.cursor.column then emit .blockMappingStart
      setKeyAllowed (!flow)
  advance 1
  emit .value

/-- Takes the characters of a class. -/
def takeWhile (keep : Char → Bool) : Lex String := do
  let taken := (← get).cursor.rest.takeWhile keep
  advance taken.length
  return String.ofList taken

def peek (offset : Nat) : Lex (Option Char) := do
  return (← get).cursor.peek offset

def gapAt (offset : Nat) : Lex Bool := do
  return (← get).cursor.gapAt offset

def anchorName : Lex String := do
  advance 1
  let name ← takeWhile isNameChar
  let closes (character : Char) := isGap character || "?:,]%@`".toList.contains character ||
    character == '\x7d'
  if name.isEmpty || !((← peek 0).all closes) then failure
  return name

def anchor (token : String → Token) : Lex Unit := do
  noteCandidate
  setKeyAllowed false
  emit (token (← anchorName))

def isTagChar (verbatim : Bool) (character : Char) : Bool :=
  isNameChar character || ";/?:@&=+$.!~*'()".toList.contains character ||
    (verbatim && (character == ',' || character == '[' || character == ']'))

/-- The bytes of a character that is written as percent signs with two digits each. -/
def percentBytes : (fuel : Nat) → List Char → List UInt8
  | fuel + 1, '%' :: high :: low :: rest =>
      match Text.hexValue? high, Text.hexValue? low with
      | some high, some low => UInt8.ofNat (16 * high + low) :: percentBytes fuel rest
      | _, _ => []
  | _, _ => []

/-- How many bytes the character takes that begins with a byte. -/
def utf8Width (byte : UInt8) : Nat :=
  if byte < 0x80 then 1
  else if byte < 0xc0 then 0
  else if byte < 0xe0 then 2
  else if byte < 0xf0 then 3
  else if byte < 0xf8 then 4
  else 0

def percentChar : Lex String := do
  match (percentBytes 1 (← get).cursor.rest).map utf8Width with
  | [width] =>
      let bytes := percentBytes width (← get).cursor.rest
      match String.fromUTF8? ⟨bytes.toArray⟩ with
      | some text => if text.length = 1 then advance (3 * width); return text else failure
      | none => failure
  | _ => failure

def tagText (verbatim : Bool) : (fuel : Nat) → Lex String
  | 0 => return ""
  | fuel + 1 => do
      let plain ← takeWhile (isTagChar verbatim)
      if (← peek 0) = some '%' then
        let escaped ← percentChar
        return plain ++ escaped ++ (← tagText verbatim fuel)
      else return plain

def tagUri (verbatim : Bool) : Lex String := do
  tagText verbatim (← get).size

/-- A tag: verbatim between angle brackets, with a handle, or with the primary handle. -/
def tagToken : Lex Token := do
  if (← peek 1) = some '<' then
    advance 2
    let uri ← tagUri true
    if uri.isEmpty || (← peek 0) ≠ some '>' then failure
    advance 1
    return .tag "" uri
  else
    advance 1
    let name ← takeWhile isNameChar
    if (← peek 0) = some '!' then
      advance 1
      let suffix ← tagUri false
      if suffix.isEmpty then failure
      return .tag ("!" ++ name ++ "!") suffix
    else
      let suffix := name ++ (← tagUri false)
      return if suffix.isEmpty then .tag "" "!" else .tag "!" suffix

def tag : Lex Unit := do
  noteCandidate
  setKeyAllowed false
  let token ← tagToken
  let flow ← inFlow
  if !(flow && (← peek 0) = some ',') && !(← gapAt 0) then failure
  emit token

def blockScalar (folded : Bool) : Lex Unit := do
  dropCandidate
  setKeyAllowed true
  advance 1
  let lexer ← get
  let (reversed, cursor) ← block? folded lexer.indent lexer.size lexer.cursor
  setCursor cursor
  emit (.scalar (String.ofList reversed.reverse) false)

def quotedScalar (quote : Char) : Lex Unit := do
  noteCandidate
  setKeyAllowed false
  advance 1
  let lexer ← get
  let (reversed, cursor) ← quoted? quote lexer.size lexer.cursor []
  setCursor cursor
  emit (.scalar (String.ofList reversed.reverse) false)

def plainScalar : Lex Unit := do
  noteCandidate
  setKeyAllowed false
  let lexer ← get
  let margin := (lexer.indent + 1).toNat
  let scalar ← plain? (← inFlow) margin lexer.size Gap.none lexer.cursor []
  setCursor scalar.cursor
  if scalar.crossesLine then setKeyAllowed true
  emit (.scalar (String.ofList scalar.reversed.reverse) true)

def number : Lex Nat := do
  let digits ← takeWhile Char.isDigit
  if digits.isEmpty || digits.length > 9 then failure
  return digits.toList.foldl (fun number digit => 10 * number + (digit.toNat - 48)) 0

def skipSpacesAndTabs : Lex Unit := do
  setCursor (← get).cursor.skipSpacesAndTabs

def versionDirective : Lex Token := do
  skipSpacesAndTabs
  let major ← number
  if (← peek 0) ≠ some '.' then failure
  advance 1
  return .versionDirective major (← number)

def tagDirective : Lex Token := do
  skipSpacesAndTabs
  if (← peek 0) ≠ some '!' then failure
  advance 1
  let name ← takeWhile isNameChar
  let handle ←
    if (← peek 0) = some '!' then do
      advance 1
      pure ("!" ++ name ++ "!")
    else if name.isEmpty then pure "!"
    else failure
  if !((← peek 0).any isSpaceOrTab) then failure
  skipSpacesAndTabs
  let uri ← tagUri true
  if uri.isEmpty || !(← gapAt 0) then failure
  return .tagDirective handle uri

def directive : Lex Unit := do
  dedentTo (-1)
  dropCandidate
  setKeyAllowed false
  advance 1
  let name ← takeWhile isNameChar
  if name.isEmpty || !(← gapAt 0) then failure
  let token ←
    if name = "YAML" then versionDirective
    else if name = "TAG" then tagDirective
    else failure
  let cursor := (← get).cursor.skipSpacesAndTabs.skipComment
  if !cursor.breakOrEnd then failure
  setCursor cursor.nextLine
  emit token

/-- Characters that begin no plain scalar, except that a hyphen before text does. -/
def isIndicator (character : Char) : Bool :=
  isFlowBracket character || "-?:,#&*!|>'\"%@`".toList.contains character

/-- Reads the token that begins here. -/
def token (character : Char) : Lex Unit := do
  let cursor := (← get).cursor
  let flow ← inFlow
  let gapBehind := cursor.gapAt 1
  if cursor.column = 0 ∧ character = '%' then directive
  else if cursor.atMarker '-' then documentMarker .documentStart
  else if cursor.atMarker '.' then documentMarker .documentEnd
  else if character = '[' then flowStart .flowSequenceStart
  else if character = '{' then flowStart .flowMappingStart
  else if character = ']' then flowEnd .flowSequenceEnd
  else if character = '}' then flowEnd .flowMappingEnd
  else if character = ',' then flowEntry
  else if character = '-' ∧ gapBehind then blockEntry
  else if character = '?' ∧ (flow ∨ gapBehind) then explicitKey
  else if character = ':' ∧ (flow ∨ gapBehind) then value
  else if character = '*' then anchor .alias
  else if character = '&' then anchor .anchor
  else if character = '!' then tag
  else if character = '|' ∧ !flow then blockScalar false
  else if character = '>' ∧ !flow then blockScalar true
  else if character = '\'' ∨ character = '"' then quotedScalar character
  else if (!isGap character && !isIndicator character) || character == '-' ||
      (!flow && (character == '?' || character == ':')) then plainScalar
  else failure

/-- Reads all tokens to the end of the text, where every block collection closes. -/
def all : (fuel : Nat) → Lex Unit
  | 0 => failure
  | fuel + 1 => do
      skipGap
      dropStale
      dedentTo (Int.ofNat (← get).cursor.column)
      match ← peek 0 with
      | none =>
          dedentTo (-1)
          dropCandidate
      | some character =>
          token character
          all fuel

end Lex

/-- The tokens of a text, or nothing if it has a character or a form that YAML does not know. -/
def Token.scan (text : String) : Option (List Token) := do
  if !(text.toList.all isAllowed) then none
  let start : Lexer := ⟨Cursor.start text, #[], -1, [], [none], true, text.length + 1⟩
  let (_, lexer) ← Lex.all start.size start
  return lexer.slots.toList.flatMap Slot.tokens

end RepoRules.Yaml
