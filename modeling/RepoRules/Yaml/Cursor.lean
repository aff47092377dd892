/-!
A place in a YAML text, and the character classes by which its grammar works. A line ends with a
line feed, a carriage return, both together, or one of three separators beyond ASCII.
-/

namespace RepoRules.Yaml

def isSpaceOrTab (character : Char) : Bool :=
  character == ' ' || character == '\t'

def isLineBreak (character : Char) : Bool :=
  character == '\n' || character == '\r' || character == '\x85' || character == '\u2028' ||
    character == '\u2029'

def isGap (character : Char) : Bool :=
  isSpaceOrTab character || isLineBreak character

/-- Letters, digits, underscores and hyphens: what names are made of. -/
def isNameChar (character : Char) : Bool :=
  character.isAlphanum || character == '_' || character == '-'

def isFlowBracket (character : Char) : Bool :=
  character == '[' || character == ']' || character == '\x7b' || character == '\x7d'

/-- Whether a text may hold the character at all: no control characters but tabs and line ends. -/
def isAllowed (character : Char) : Bool :=
  let code := character.toNat
  code == 0x9 || code == 0xa || code == 0xd || (0x20 ≤ code && code ≤ 0x7e) || code == 0x85 ||
    (0xa0 ≤ code && code ≤ 0xd7ff) || (0xe000 ≤ code && code ≤ 0xfffd && code != 0xfeff) ||
    0x10000 ≤ code

structure Cursor where
  rest : List Char
  line : Nat
  column : Nat
  index : Nat

namespace Cursor

def start (text : String) : Cursor :=
  ⟨text.toList, 0, 0, 0⟩

def peek (cursor : Cursor) (offset : Nat) : Option Char :=
  (cursor.rest.drop offset).head?

def advance (cursor : Cursor) (count : Nat) : Cursor :=
  ⟨cursor.rest.drop count, cursor.line, cursor.column + count, cursor.index + count⟩

/-- Steps over a line end. -/
def nextLine (cursor : Cursor) : Cursor :=
  match cursor.rest with
  | '\r' :: '\n' :: rest => ⟨rest, cursor.line + 1, 0, cursor.index + 2⟩
  | character :: rest =>
      if isLineBreak character then ⟨rest, cursor.line + 1, 0, cursor.index + 1⟩ else cursor
  | [] => cursor

/-- What a line end reads as: a line feed, except for the line and paragraph separators. -/
def lineBreak (cursor : Cursor) : List Char :=
  match cursor.rest with
  | character :: _ =>
      if character = '\u2028' ∨ character = '\u2029' then [character]
      else if isLineBreak character then ['\n'] else []
  | [] => []

def isAtBreak (cursor : Cursor) : Bool :=
  cursor.rest.head?.any isLineBreak

/-- Whether a gap or the end of the text stands at an offset. -/
def gapAt (cursor : Cursor) (offset : Nat) : Bool :=
  (cursor.peek offset).all isGap

def breakOrEnd (cursor : Cursor) : Bool :=
  cursor.rest.head?.all isLineBreak

/-- Steps over the characters of a class, which must hold no line ends. -/
def skipWhile (cursor : Cursor) (keep : Char → Bool) : Cursor :=
  cursor.advance (cursor.rest.takeWhile keep).length

def skipSpacesAndTabs (cursor : Cursor) : Cursor :=
  cursor.skipWhile isSpaceOrTab

/-- Steps over a comment, if one stands here. -/
def skipComment (cursor : Cursor) : Cursor :=
  if cursor.peek 0 = some '#' then cursor.skipWhile fun character => !isLineBreak character
  else cursor

/-- Whether a line consists of three hyphens or three dots, or begins with them and a gap. -/
def atMarker (cursor : Cursor) (mark : Char) : Bool :=
  cursor.column == 0 && cursor.peek 0 == some mark && cursor.peek 1 == some mark &&
    cursor.peek 2 == some mark && cursor.gapAt 3

def atDocumentMarker (cursor : Cursor) : Bool :=
  cursor.atMarker '-' || cursor.atMarker '.'

end Cursor

end RepoRules.Yaml
