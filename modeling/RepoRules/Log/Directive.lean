import RepoRules.Pattern.Parser
import RepoRules.Text.Ascii
import RepoRules.Text.Blank
import RepoRules.Text.Category
import RepoRules.Text.Digit
import RepoRules.Text.Pieces

/-!
Directives that say what is logged: a target, a span with fields in brackets, and a level, as in
`target[span{field=value}]=level`. A directive is read character by character. Only whether
it is one matters here.
-/

namespace RepoRules.Log

def isLevel (text : String) : Bool :=
  match Text.natural? text with
  | some number => number ≤ 5
  | none =>
      ["", "error", "warn", "info", "debug", "trace", "off"].contains (Text.asciiLower text)

def isExponent : List Char → Bool
  | [] => true
  | mark :: digits =>
      let digits := if digits.head?.any "+-".toList.contains then digits.drop 1 else digits
      (mark == 'e' || mark == 'E') && !digits.isEmpty && digits.all Char.isDigit

/-- Digits with or without a full stop and an exponent, or the name of a number that has none. -/
def isUnsignedNumber (text : List Char) : Bool :=
  let whole := text.takeWhile Char.isDigit
  let rest := text.drop whole.length
  let part := if rest.head? = some '.' then (rest.drop 1).takeWhile Char.isDigit else []
  let behind := if rest.head? = some '.' then rest.drop (part.length + 1) else rest
  ["inf", "infinity", "nan"].contains (Text.asciiLower (String.ofList text)) ||
    (!(whole ++ part).isEmpty && isExponent behind)

/-- A value is a number with a plus sign or a pattern; all other numbers are patterns too. A pattern
must not ask where words begin and end, unless it means words of ASCII. -/
def isValue (text : String) : Bool :=
  match text.toList with
  | '+' :: number => isUnsignedNumber number
  | _ => (Pattern.Node.parse? Pattern.Flags.default text).any fun node => !node.asksForWords

def isField (text : String) : Bool :=
  !text.isEmpty &&
    match (Text.split text '=').drop 1 with
    | [] => true
    | value :: _ => isValue value

namespace Directive

/-- What the characters so far have led to; a part under way is known by where it starts. -/
inductive State where
  | start
  | levelOrTarget
  | span
  | field (start : Nat)
  | afterField
  | afterSpan
  | level (start : Nat)
  | complete
deriving Repr, DecidableEq

def slice (text : List Char) (start stop : Nat) : String :=
  String.ofList ((text.drop start).take (stop - start))

def canStart (character : Char) : Bool :=
  character == '-' || character == ':' || character == '_' || Text.isAlphanumeric character

/-- Takes the character at an index. Parts under way are cut out of `text`. -/
def step (text : List Char) (index : Nat) (character : Char) : State → Option State
  | .start =>
      if character = '[' then some .span
      else if canStart character then some .levelOrTarget else none
  | .levelOrTarget =>
      if character = '=' then some (.level (index + 1))
      else if character = '[' then some .span
      else if character = ',' then some .complete else some .levelOrTarget
  | .span =>
      if character = ']' then some .afterSpan
      else if character = '\x7b' then some (.field (index + 1)) else some .span
  | .field start =>
      if character = '\x7d' ∨ character = ',' then
        if !isField (slice text start index) then none
        else if character = ',' then some (.field (index + 1)) else some .afterField
      else some (.field start)
  | .afterField => if character = ']' then some .afterSpan else none
  | .afterSpan => if character = '=' then some (.level (index + 1)) else none
  | .level start =>
      if character = ',' then
        if isLevel (slice text start index) then some .complete else none
      else some (.level start)
  | .complete => none

def run (text : List Char) : (index : Nat) → List Char → State → Option State
  | _, [], state => some state
  | index, character :: rest, state => (step text index character state).bind (run text (index + 1) rest)

def isValid (text : String) : Bool :=
  match run text.toList 0 (Text.trim text).toList .start with
  | some .levelOrTarget | some .afterSpan | some .complete => true
  | some (.level start) => isLevel (slice text.toList start text.length)
  | _ => false

def areValid (text : String) : Bool :=
  (Text.split text ',').all fun directive => directive.isEmpty || isValid directive

end Directive

end RepoRules.Log
