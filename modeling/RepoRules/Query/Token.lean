import RepoRules.Decimal.Shortest
import RepoRules.Json.Value
import RepoRules.Text.Blank
import RepoRules.Text.Digit

/-!
The words of the query language, with the place where each of them starts. Keywords and reserved
words are told apart from names here, and so are the two uses of a minus sign.
-/

namespace RepoRules.Query

/-- Line and column, both counted from 1, the column in characters. -/
structure Position where
  line : Nat
  column : Nat
deriving Repr, DecidableEq, Inhabited

def Position.start : Position := ⟨1, 1⟩

def Position.advance (position : Position) (character : Char) : Position :=
  if character = '\n' then ⟨position.line + 1, 1⟩ else { position with column := position.column + 1 }

def Position.past (position : Position) (characters : List Char) : Position :=
  characters.foldl Position.advance position

inductive Token where
  | int (number : Int)
  | float (number : Float)
  | char (character : Char)
  | string (text : String)
  | name (text : String)
  /-- The name of a function of the language itself. -/
  | innate (text : String)
  | keyword (text : String)
  | symbol (text : String)
  /-- A minus sign that has an operand on its right side only. -/
  | negate
  | templateOpen
  | templateText (text : String)
  | interpolationOpen
  | interpolationClose
  | templateClose

structure PlacedToken where
  token : Token
  position : Position

namespace Token

def expressionKeywords : List String := ["true", "false", "if", "else", "switch", "in", "this"]

/-- Words that no name may have, besides the ones that expressions use. -/
def reservedWords : List String :=
  ["let", "const", "var", "static", "is", "goto", "match", "case", "public", "protected", "new",
   "use", "with", "module", "package", "super", "spawn", "thread", "go", "sync", "async", "await",
   "yield", "default", "void", "null", "nil", "shared", "do", "while", "until", "loop", "for",
   "fn", "private", "import", "export", "as", "global", "return", "throw", "break", "continue",
   "try", "catch"]

/-- Functions of the language itself, whose names mean nothing else. -/
def innateFunctions : List String :=
  ["print", "debug", "type_of", "eval", "Fn", "call", "curry", "is_def_fn", "is_def_var",
   "is_shared"]

/-- Those of them that can be called as methods. -/
def innateMethods : List String := ["type_of", "call", "curry", "is_shared"]

/-- Symbols of the language and combinations of signs that it keeps out of use, the longer ones
first. -/
def symbols : List String :=
  ["===", "!==", "..=", "...", "**=", "<<=", ">>=", "::<",
   "**", "<<", ">>", "<=", ">=", "==", "!=", "&&", "||", "??", "?.", "?[", "..", "=>", "#\x7b",
   "+=", "-=", "*=", "/=", "%=", "&=", "|=", "^=", "++", "--", "->", "<-", ":=", "::", "(*",
   "*)", "!.", "|>", "<|",
   "+", "-", "*", "/", "%", "&", "|", "^", "<", ">", "!", "=", ".", ",", ":", ";", "(", ")",
   "[", "]", "\x7b", "\x7d"]

/-- Whether an operator behind this token stands between two operands. -/
def endsOperand : Token → Bool
  | .int _ | .float _ | .char _ | .string _ | .name _ | .innate _ | .templateClose => true
  | .keyword text => text == "true" || text == "false" || text == "this"
  | .symbol text => text == ")" || text == "]" || text == "\x7d"
  | _ => false

def isNameStart (character : Char) : Bool :=
  character.isAlpha || character == '_'

def isNamePart (character : Char) : Bool :=
  character.isAlphanum || character == '_'

/-- A name holds at least one character that is not an underscore, and the first of those is a
letter. -/
def isValidName (characters : List Char) : Bool :=
  match characters.dropWhile (· == '_') with
  | [] => false
  | character :: _ => character.isAlpha

def readDigits (base : Nat) (digits : List Char) : Nat :=
  digits.foldl (fun value digit => value * base + (Text.digitValue? base digit).getD 0) 0

def base? : Char → Option Nat
  | 'x' | 'X' => some 16
  | 'o' | 'O' => some 8
  | 'b' | 'B' => some 2
  | _ => none

/-- The characters of a number literal: digits with underscores between them, one or more points
and exponents. A point belongs to the number when a digit follows, or a character that can start
neither a name nor another point. -/
def numberBody : (fuel : Nat) → (reversed characters : List Char) → List Char × List Char
  | 0, reversed, rest => (reversed.reverse, rest)
  | _ + 1, reversed, [] => (reversed.reverse, [])
  | fuel + 1, reversed, character :: rest =>
      if character.isDigit || character == '_' then numberBody fuel (character :: reversed) rest
      else if character = '.' then
        match rest with
        | [] => (reversed.reverse, ['.'])
        | next :: _ =>
            if next.isDigit then numberBody fuel ('.' :: reversed) rest
            else if next == '_' || next == '.' || isNameStart next then
              (reversed.reverse, '.' :: rest)
            else numberBody fuel ('.' :: reversed) rest
      else if character = 'e' ∨ character = 'E' then
        match rest with
        | next :: others =>
            if next.isDigit then numberBody fuel ('e' :: reversed) rest
            else if next = '+' ∨ next = '-' then numberBody fuel (next :: 'e' :: reversed) others
            else (reversed.reverse, character :: rest)
        | [] => (reversed.reverse, [character])
      else (reversed.reverse, character :: rest)

/-- The double written by digits with at most one point and one exponent. -/
def floatOf? (negative : Bool) (characters : List Char) : Option Float := do
  let whole := characters.takeWhile Char.isDigit
  let rest := characters.drop whole.length
  let (fraction, rest) := match rest with
    | '.' :: after =>
        let digits := after.takeWhile Char.isDigit
        (digits, after.drop digits.length)
    | other => ([], other)
  let exponent : Int ← match rest with
    | [] => some 0
    | 'e' :: after =>
        let (down, digits) := match after with
          | '-' :: digits => (true, digits)
          | '+' :: digits => (false, digits)
          | digits => (false, digits)
        if digits.isEmpty || digits.any (fun digit => !digit.isDigit) then none
        else
          let size := min (readDigits 10 digits) 100000
          some (if down then Int.negOfNat size else Int.ofNat size)
    | _ => none
  let mantissa := readDigits 10 (whole ++ fraction)
  let scale := exponent - Int.ofNat fraction.length
  let magnitude := Decimal.nearest mantissa (whole.length + fraction.length) scale
  some (if negative then -magnitude else magnitude)

/-- The value of a decimal literal: an integer if it fits 64 bits, else a double. -/
def decimalToken? (negative : Bool) (characters : List Char) : Option Token :=
  let magnitude : Int := readDigits 10 characters
  let number := if negative then -magnitude else magnitude
  if characters.all Char.isDigit && Json.minSigned ≤ number && number ≤ Json.maxSigned then
    some (.int number)
  else (floatOf? negative characters).map .float

/-- The value of a literal in another base. It may use all 64 bits, the highest as the sign. -/
def basedToken? (base : Nat) (digits : List Char) : Option Token :=
  let number := readDigits base digits
  if digits.isEmpty || 0x10000000000000000 ≤ number then none
  else some (.int ((number : Int).bmod 0x10000000000000000))

def number? (negative : Bool) (characters : List Char) : Option (Token × List Char) :=
  let decimal :=
    let (body, rest) := numberBody (characters.length + 1) [] characters
    (decimalToken? negative (body.filter (· != '_'))).map fun token => (token, rest)
  match characters with
  | '0' :: rest =>
      match (rest.dropWhile (· == '_')).head?.bind base? with
      | some base =>
          let after := (rest.dropWhile (· == '_')).drop 1
          let isPart := fun character => (Text.digitValue? base character).isSome || character == '_'
          let body := after.takeWhile isPart
          if negative then none
          else (basedToken? base (body.filter (· != '_'))).map fun token =>
            (token, after.drop body.length)
      | none => decimal
  | _ => decimal

def codeEscape? (count : Nat) (characters : List Char) : Option (Char × List Char) :=
  let digits := characters.take count
  if digits.length = count ∧ digits.all (fun digit => (Text.digitValue? 16 digit).isSome) then
    let code := readDigits 16 digits
    if code.isValidChar then some (Char.ofNat code, characters.drop count) else none
  else none

/-- What stands for a character behind a backslash, inside quotes of the kind `quote`. -/
def escape? (quote : Char) : List Char → Option (Char × List Char)
  | 'n' :: rest => some ('\n', rest)
  | 'r' :: rest => some ('\r', rest)
  | 't' :: rest => some ('\t', rest)
  | '\\' :: rest => some ('\\', rest)
  | 'x' :: rest => codeEscape? 2 rest
  | 'u' :: rest => codeEscape? 4 rest
  | 'U' :: rest => codeEscape? 8 rest
  | character :: rest => if character = quote then some (quote, rest) else none
  | [] => none

/-- Drops the blanks in front, `count` at most. -/
def dropIndentation : (count : Nat) → List Char → List Char
  | 0, rest => rest
  | _, [] => []
  | count + 1, character :: rest =>
      if character != '\n' && Text.isBlank character then dropIndentation count rest
      else character :: rest

def dropReturn : List Char → List Char
  | '\r' :: '\n' :: rest => '\n' :: rest
  | rest => rest

/-- Reads quoted text behind its opening quote. A doubled quote stands for one. A backslash at the
end of a line joins the next line; where that is allowed, `column` is the column of the opening
quote, and blanks up to that column are dropped. -/
def quotedBody (quote : Char) (column : Option Nat) :
    (fuel : Nat) → (reversed characters : List Char) → Option (List Char × List Char)
  | 0, _, _ => none
  | _ + 1, _, [] => none
  | fuel + 1, reversed, character :: rest =>
      if character = quote then
        match rest with
        | next :: others =>
            if next = quote then quotedBody quote column fuel (quote :: reversed) others
            else some (reversed.reverse, rest)
        | [] => some (reversed.reverse, [])
      else if character = '\\' then
        match column, dropReturn rest with
        | some width, '\n' :: others =>
            quotedBody quote column fuel reversed (dropIndentation width others)
        | _, others => do
            let (escaped, others) ← escape? quote others
            quotedBody quote column fuel (escaped :: reversed) others
      else if character = '\n' then none
      else quotedBody quote column fuel (character :: reversed) rest

def rawBody (marks : Nat) : (reversed characters : List Char) → Option (List Char × List Char)
  | _, [] => none
  | reversed, character :: rest =>
      if character = '"' ∧ rest.take marks = List.replicate marks '#' then
        some (reversed.reverse, rest.drop marks)
      else rawBody marks (character :: reversed) rest

/-- The number of signs that open a text without escapes, and the text behind its quote. -/
def rawOpening? (characters : List Char) : Option (Nat × List Char) :=
  let marks := (characters.takeWhile (· == '#')).length
  match characters.drop marks with
  | '"' :: rest => if marks = 0 then none else some (marks, rest)
  | _ => none

/-- Reads template text up to the closing backquote or the start of an interpolation; the flag
tells that an interpolation follows. A doubled backquote stands for one, and a return in front of a
line end is left out. -/
def templateBody :
    (fuel : Nat) → (reversed characters : List Char) → Option (List Char × Bool × List Char)
  | 0, _, _ => none
  | _ + 1, _, [] => none
  | fuel + 1, reversed, '`' :: '`' :: rest => templateBody fuel ('`' :: reversed) rest
  | _ + 1, reversed, '`' :: rest => some (reversed.reverse, false, rest)
  | _ + 1, reversed, '$' :: '\x7b' :: rest => some (reversed.reverse, true, rest)
  | fuel + 1, reversed, '\r' :: '\n' :: rest => templateBody fuel ('\n' :: reversed) rest
  | fuel + 1, reversed, character :: rest => templateBody fuel (character :: reversed) rest

def skipBlockComment : (depth : Nat) → List Char → List Char
  | 0, rest => rest
  | _ + 1, [] => []
  | depth + 1, '*' :: '/' :: rest => skipBlockComment depth rest
  | depth + 1, '/' :: '*' :: rest => skipBlockComment (depth + 2) rest
  | depth + 1, _ :: rest => skipBlockComment (depth + 1) rest
termination_by _ characters => characters.length

end Token

/-- The reader between two tokens: what is left, where it stands, whether an operand came last,
and for each open interpolation the number of braces opened inside it. -/
structure Cursor where
  rest : List Char
  position : Position
  afterOperand : Bool
  braces : List Nat

namespace Cursor

def moveTo (cursor : Cursor) (rest : List Char) : Cursor :=
  let passed := cursor.rest.take (cursor.rest.length - rest.length)
  { cursor with rest, position := cursor.position.past passed }

def emit (cursor : Cursor) (token : Token) (rest : List Char) : List PlacedToken × Cursor :=
  ([⟨token, cursor.position⟩], { cursor.moveTo rest with afterOperand := token.endsOperand })

/-- Reads template text; `opening` holds the tokens that come before it. A template without
interpolation is an ordinary text. -/
def template? (cursor : Cursor) (opening : List PlacedToken) (braces : List Nat) :
    Option (List PlacedToken × Cursor) := do
  let (text, interpolates, rest) ←
    Token.templateBody (cursor.rest.length + 1) [] cursor.rest
  let position := cursor.position
  let after := cursor.moveTo rest
  let content := opening ++ [⟨.templateText (String.ofList text), position⟩]
  if interpolates then
    some (content ++ [⟨.interpolationOpen, after.position⟩],
      { after with afterOperand := false, braces := 0 :: braces })
  else
    let whole := match opening with
      | [⟨.templateOpen, start⟩] => [⟨.string (String.ofList text), start⟩]
      | _ => content ++ [⟨.templateClose, after.position⟩]
    some (whole, { after with afterOperand := true, braces })

def symbol? (cursor : Cursor) : Option (String × List Char) :=
  Token.symbols.findSome? fun symbol =>
    let size := symbol.toList.length
    if cursor.rest.take size = symbol.toList then some (symbol, cursor.rest.drop size) else none

/-- Reads the next token, or skips one stretch of blanks or one comment. -/
def next? (cursor : Cursor) : Option (List PlacedToken × Cursor) :=
  match cursor.rest with
  | [] => none
  | '/' :: '/' :: rest =>
      some ([], cursor.moveTo (rest.dropWhile fun character => character != '\n' && character != '\r'))
  | '/' :: '*' :: rest => some ([], cursor.moveTo (Token.skipBlockComment 1 rest))
  | '`' :: rest =>
      let opened := cursor.moveTo rest
      let start := match rest with
        | '\n' :: others | '\r' :: '\n' :: others => opened.moveTo others
        | '\r' :: others =>
            { opened.moveTo others with position := ⟨opened.position.line + 1, 1⟩ }
        | _ => opened
      start.template? [⟨.templateOpen, cursor.position⟩] cursor.braces
  | '"' :: rest => do
      let (text, rest) ← Token.quotedBody '"' (some cursor.position.column) (rest.length + 1) [] rest
      some (cursor.emit (.string (String.ofList text)) rest)
  | '\'' :: '\'' :: _ => none
  | '\'' :: rest => do
      let (text, rest) ← Token.quotedBody '\'' none (rest.length + 1) [] rest
      match text with
      | [character] => some (cursor.emit (.char character) rest)
      | _ => none
  | '#' :: _ =>
      match Token.rawOpening? cursor.rest with
      | some (marks, rest) => do
          let (text, rest) ← Token.rawBody marks [] rest
          some (cursor.emit (.string (String.ofList text)) rest)
      | none => symbolOrMinus cursor
  | '-' :: digit :: rest =>
      if !cursor.afterOperand && digit.isDigit then do
        let (token, rest) ← Token.number? true (digit :: rest)
        some (cursor.emit token rest)
      else symbolOrMinus cursor
  | '!' :: 'i' :: 'n' :: rest =>
      if (rest.head?.map Token.isNamePart).getD false then symbolOrMinus cursor
      else some (cursor.emit (.symbol "!in") rest)
  | '\x7d' :: rest =>
      match cursor.braces with
      | 0 :: outer =>
          ({ cursor.moveTo rest with braces := outer }).template?
            [⟨.interpolationClose, cursor.position⟩] outer
      | depth :: outer =>
          let (tokens, after) := cursor.emit (.symbol "\x7d") rest
          some (tokens, { after with braces := (depth - 1) :: outer })
      | [] => some (cursor.emit (.symbol "\x7d") rest)
  | character :: rest =>
      if Text.isBlank character then
        some ([], cursor.moveTo (rest.dropWhile Text.isBlank))
      else if character.isDigit then do
        let (token, rest) ← Token.number? false cursor.rest
        some (cursor.emit token rest)
      else if Token.isNameStart character then
        let name := cursor.rest.takeWhile Token.isNamePart
        let text := String.ofList name
        let rest := cursor.rest.drop name.length
        if Token.expressionKeywords.contains text then some (cursor.emit (.keyword text) rest)
        else if Token.reservedWords.contains text then none
        else if Token.innateFunctions.contains text then some (cursor.emit (.innate text) rest)
        else if text == "_" then some (cursor.emit (.symbol "_") rest)
        else if Token.isValidName name then some (cursor.emit (.name text) rest)
        else none
      else symbolOrMinus cursor
where
  symbolOrMinus (cursor : Cursor) : Option (List PlacedToken × Cursor) := do
    let (symbol, rest) ← cursor.symbol?
    if symbol == "-" && !cursor.afterOperand then some (cursor.emit .negate rest)
    else
      let (tokens, after) := cursor.emit (.symbol symbol) rest
      let opensBrace := symbol == "\x7b" || symbol == "#\x7b"
      match after.braces with
      | depth :: outer =>
          some (tokens, if opensBrace then { after with braces := (depth + 1) :: outer } else after)
      | [] => some (tokens, after)

def tokens? : (fuel : Nat) → (cursor : Cursor) → Option (List PlacedToken)
  | 0, _ => none
  | fuel + 1, cursor =>
      if cursor.rest.isEmpty then (if cursor.braces.isEmpty then some [] else none)
      else do
        let (found, after) ← cursor.next?
        let others ← tokens? fuel after
        some (found ++ others)

end Cursor

def tokens? (text : String) : Option (List PlacedToken) :=
  Cursor.tokens? (text.toList.length + 1) ⟨text.toList, .start, false, []⟩

end RepoRules.Query
