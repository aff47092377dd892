import RepoRules.Text.Digit
import RepoRules.Yaml.Cursor

/-!
The written forms of scalars: plain, quoted in two ways, and block scalars. Each reader gives the
text that the form stands for and the place behind it, or nothing when the form is broken.
-/

namespace RepoRules.Yaml

/-- Blanks and line ends between two parts of a scalar. Once a line has ended, blanks no longer
count. -/
structure Gap where
  blanks : List Char
  firstBreak : List Char
  moreBreaks : List Char
  crossesLine : Bool

namespace Gap

def none : Gap := ⟨[], [], [], false⟩

/-- What a gap reads as: a single line end is folded to a blank, further ones are kept. -/
def text (gap : Gap) : List Char :=
  if gap.crossesLine then
    if gap.firstBreak = ['\n'] then (if gap.moreBreaks.isEmpty then [' '] else gap.moreBreaks)
    else gap.firstBreak ++ gap.moreBreaks
  else gap.blanks

/-- Reads a gap. A tab on a new line, left of column `margin`, is refused. -/
def read? (margin : Nat) : (fuel : Nat) → Gap → Cursor → Option (Gap × Cursor)
  | 0, gap, cursor => some (gap, cursor)
  | fuel + 1, gap, cursor =>
      match cursor.rest with
      | [] => some (gap, cursor)
      | character :: _ =>
          if isSpaceOrTab character then
            if gap.crossesLine then
              if character = '\t' ∧ cursor.column < margin then Option.none
              else read? margin fuel gap (cursor.advance 1)
            else
              read? margin fuel { gap with blanks := gap.blanks ++ [character] } (cursor.advance 1)
          else if isLineBreak character then
            let read := cursor.lineBreak
            if gap.crossesLine then
              read? margin fuel { gap with moreBreaks := gap.moreBreaks ++ read } cursor.nextLine
            else read? margin fuel ⟨[], read, [], true⟩ cursor.nextLine
          else some (gap, cursor)

end Gap

/-- Whether the character ends a plain scalar that has begun. -/
def endsPlain (inFlow : Bool) (cursor : Cursor) (character : Char) : Bool :=
  (character == ':' && cursor.gapAt 1) ||
    (inFlow && (character == ',' || isFlowBracket character))

/-- In flow context a colon must not touch an indicator. -/
def isBrokenColon (inFlow : Bool) (cursor : Cursor) (character : Char) : Bool :=
  inFlow && character == ':' &&
    (cursor.peek 1).any fun next => next == ',' || next == '?' || isFlowBracket next

/-- The characters of a plain scalar up to the next gap or its end, in reverse. -/
def plainRun? (inFlow : Bool) : (fuel : Nat) → Cursor → List Char → Option (List Char × Cursor)
  | 0, cursor, reversed => some (reversed, cursor)
  | fuel + 1, cursor, reversed =>
      match cursor.rest with
      | [] => some (reversed, cursor)
      | character :: _ =>
          if isGap character then some (reversed, cursor)
          else if isBrokenColon inFlow cursor character then none
          else if endsPlain inFlow cursor character then some (reversed, cursor)
          else plainRun? inFlow fuel (cursor.advance 1) (character :: reversed)

/-- A scalar that was read, and whether the place behind it is on a later line. -/
structure PlainScalar where
  reversed : List Char
  cursor : Cursor
  crossesLine : Bool

/-- Reads a plain scalar. It ends before a comment, a document marker, or a line that is not
indented to column `margin`. -/
def plain? (inFlow : Bool) (margin : Nat) :
    (fuel : Nat) → Gap → Cursor → List Char → Option PlainScalar
  | 0, _, _, _ => none
  | fuel + 1, gap, cursor, reversed =>
      if cursor.atDocumentMarker || cursor.peek 0 == some '#' then
        some ⟨reversed, cursor, gap.crossesLine⟩
      else
        match plainRun? inFlow fuel cursor [] with
        | none => none
        | some (run, behind) =>
            let joined := if run.isEmpty then reversed else run ++ gap.text.reverse ++ reversed
            let gap := if run.isEmpty then gap else Gap.none
            if behind.rest.head?.any isGap then
              match Gap.read? margin fuel Gap.none behind with
              | none => none
              | some (next, behind) =>
                  if !inFlow && behind.column < margin then
                    some ⟨joined, behind, next.crossesLine⟩
                  else plain? inFlow margin fuel next behind joined
            else some ⟨joined, behind, gap.crossesLine⟩

/-- The number that exactly `count` hexadecimal digits write. -/
def hexNumber? : (count : Nat) → List Char → (number : Nat) → Option Nat
  | 0, _, number => some number
  | _ + 1, [], _ => none
  | count + 1, character :: rest, number => do
      let value ← Text.hexValue? character
      hexNumber? count rest (16 * number + value)

def escapedChar? : Char → Option Char
  | '0' => some '\x00'
  | 'a' => some '\x07'
  | 'b' => some '\x08'
  | 't' | '\t' => some '\t'
  | 'n' => some '\n'
  | 'v' => some '\x0b'
  | 'f' => some '\x0c'
  | 'r' => some '\r'
  | 'e' => some '\x1b'
  | ' ' => some ' '
  | '"' => some '"'
  | '/' => some '/'
  | '\\' => some '\\'
  | 'N' => some '\x85'
  | '_' => some '\xa0'
  | 'L' => some '\u2028'
  | 'P' => some '\u2029'
  | _ => none

def escapeDigits : Char → Nat
  | 'x' => 2
  | 'u' => 4
  | 'U' => 8
  | _ => 0

/-- Behind a backslash: the character that is meant, and how many characters write it. -/
def escape? : List Char → Option (Char × Nat)
  | [] => none
  | kind :: rest =>
      match escapeDigits kind with
      | 0 => (escapedChar? kind).map fun character => (character, 1)
      | digits => do
          let code ← hexNumber? digits rest 0
          if code.isValidChar then some (Char.ofNat code, digits + 1) else none

/-- Reads a quoted scalar from behind its opening quote. -/
def quoted? (quote : Char) : (fuel : Nat) → Cursor → List Char → Option (List Char × Cursor)
  | 0, _, _ => none
  | fuel + 1, cursor, reversed =>
      if cursor.atDocumentMarker then none
      else
        match cursor.rest with
        | [] => none
        | character :: rest =>
            if isGap character then
              match Gap.read? 0 fuel Gap.none cursor with
              | none => none
              | some (gap, behind) => quoted? quote fuel behind (gap.text.reverse ++ reversed)
            else if character = quote then
              if quote = '\'' ∧ rest.head? = some '\'' then
                quoted? quote fuel (cursor.advance 2) (quote :: reversed)
              else some (reversed, cursor.advance 1)
            else if quote = '"' ∧ character = '\\' then
              if rest.head?.any isLineBreak then
                let behind := (cursor.advance 1).nextLine
                match Gap.read? 0 fuel ⟨[], [], [], true⟩ behind with
                | none => none
                | some (gap, behind) => quoted? quote fuel behind (gap.text.reverse ++ reversed)
              else
                match escape? rest with
                | none => none
                | some (meant, length) =>
                    quoted? quote fuel (cursor.advance (length + 1)) (meant :: reversed)
            else quoted? quote fuel (cursor.advance 1) (character :: reversed)

/-- What becomes of the line ends behind a block scalar. -/
inductive Chomping where
  | strip
  | clip
  | keep
deriving DecidableEq

/-- The marks behind the indicator of a block scalar: chomping and indentation, in any order. -/
def blockMarks? (cursor : Cursor) : Option (Chomping × Option Nat × Cursor) :=
  let chomping? : Option Char → Option Chomping
    | some '+' => some .keep
    | some '-' => some .strip
    | _ => none
  let indentation? : Option Char → Option Nat
    | some digit => if digit.isDigit then some (digit.toNat - 48) else none
    | none => none
  let marks := match chomping? (cursor.peek 0), indentation? (cursor.peek 0) with
    | some chomping, _ =>
        match indentation? (cursor.peek 1) with
        | some indentation => (chomping, some indentation, cursor.advance 2)
        | none => (chomping, none, cursor.advance 1)
    | none, some indentation =>
        match chomping? (cursor.peek 1) with
        | some chomping => (chomping, some indentation, cursor.advance 2)
        | none => (.clip, some indentation, cursor.advance 1)
    | none, none => (.clip, none, cursor)
  if marks.2.1 = some 0 then none else some marks

/-- Empty lines of a block scalar: the line ends, the deepest indentation seen, and the place
behind. Without a known indentation every blank belongs to it. -/
def emptyLines? (indent : Nat) :
    (fuel : Nat) → (deepest : Nat) → List Char → Cursor → Option (List Char × Nat × Cursor)
  | 0, deepest, breaks, cursor => some (breaks, deepest, cursor)
  | fuel + 1, deepest, breaks, cursor =>
      let spaces := (cursor.rest.takeWhile (· == ' ')).length
      let cursor := cursor.advance (if indent = 0 then spaces else min spaces (indent - cursor.column))
      let deepest := max deepest cursor.column
      if (indent == 0 || cursor.column < indent) && cursor.peek 0 == some '\t' then none
      else if cursor.isAtBreak then
        emptyLines? indent fuel deepest (breaks ++ cursor.lineBreak) cursor.nextLine
      else some (breaks, deepest, cursor)

/-- A block scalar under way: its text in reverse, the line end behind the last line, the empty
lines behind that, and whether the last line began with a blank. -/
structure Block where
  reversed : List Char
  lineEnd : List Char
  empties : List Char
  beganBlank : Bool

/-- In a folded scalar a line end between two lines that begin with text becomes a blank, or
nothing if empty lines follow it. -/
def Block.joint (block : Block) (folded beginsBlank : Bool) : List Char :=
  if folded && block.lineEnd == ['\n'] && !block.beganBlank && !beginsBlank then
    (if block.empties.isEmpty then [' '] else []) ++ block.empties
  else block.lineEnd ++ block.empties

def blockLines? (folded : Bool) (indent : Nat) :
    (fuel : Nat) → Block → Cursor → Option (Block × Cursor)
  | 0, _, _ => none
  | fuel + 1, block, cursor =>
      if cursor.column = indent ∧ !cursor.rest.isEmpty then
        let beginsBlank := cursor.rest.head?.any isSpaceOrTab
        let content := cursor.rest.takeWhile fun character => !isLineBreak character
        let ended := cursor.advance content.length
        let reversed := content.reverse ++ (block.joint folded beginsBlank).reverse ++ block.reversed
        let behind := ended.nextLine
        match emptyLines? indent fuel 0 [] behind with
        | none => none
        | some (empties, _, behind) =>
            blockLines? folded indent fuel ⟨reversed, ended.lineBreak, empties, beginsBlank⟩ behind
      else some (block, cursor)

/-- Reads a block scalar from behind its indicator; `parent` is the indentation around it. -/
def block? (folded : Bool) (parent : Int) (fuel : Nat) (cursor : Cursor) :
    Option (List Char × Cursor) := do
  let (chomping, indentation, cursor) ← blockMarks? cursor
  let cursor := cursor.skipSpacesAndTabs.skipComment
  if !cursor.breakOrEnd then none
  let cursor := cursor.nextLine
  let outer := parent.toNat
  let given := match indentation with
    | some number => outer + number
    | none => 0
  let (empties, deepest, cursor) ← emptyLines? given fuel 0 [] cursor
  let indent := if given = 0 then max (max deepest (parent + 1).toNat) 1 else given
  let (block, cursor) ← blockLines? folded indent fuel ⟨[], [], empties, false⟩ cursor
  let tail := match chomping with
    | .strip => []
    | .clip => block.lineEnd
    | .keep => block.lineEnd ++ block.empties
  return (tail.reverse ++ block.reversed, cursor)

end RepoRules.Yaml
