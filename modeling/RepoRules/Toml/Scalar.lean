import RepoRules.Decimal.Shortest
import RepoRules.Text.Digit
import RepoRules.Time.Instant
import RepoRules.Toml.Value

/-!
The scalars of TOML: strings in four spellings, numbers, truth values and moments. Each function
reads from the start of a text and gives what is left of it. Lines end with a line feed.
-/

namespace RepoRules.Toml

abbrev Scan := StateT (List Char) Option

def peek : Scan (Option Char) := fun text =>
  some (text.head?, text)

def exactly (expected : String) : Scan Unit := fun text =>
  if expected.toList.isPrefixOf text then some ((), text.drop expected.length) else none

def takeWhile (keep : Char → Bool) : Scan (List Char) := fun text =>
  some (text.takeWhile keep, text.dropWhile keep)

def one (keep : Char → Bool) : Scan Char := fun text =>
  match text with
  | character :: rest => if keep character then some (character, rest) else none
  | [] => none

def optional (read : Scan α) : Scan (Option α) :=
  some <$> read <|> pure none

def isBlank (character : Char) : Bool :=
  character == ' ' || character == '\t'

def isPlain (character : Char) : Bool :=
  character == '\t' || (0x20 ≤ character.toNat && character.toNat != 0x7f)

def skipBlanks : Scan Unit := do
  let _ ← takeWhile isBlank

/-! ## Strings -/

def charOfHex? (digits : List Char) : Option Char := do
  let code ← Text.numberOf? 16 digits
  if h : code.isValidChar then some (Char.ofNatAux code h) else none

def escape? : List Char → Option (Char × List Char)
  | [] => none
  | mark :: rest =>
      let numbered (count : Nat) : Option (Char × List Char) :=
        if rest.length < count then none
        else (charOfHex? (rest.take count)).map fun character => (character, rest.drop count)
      match mark with
      | 'b' => some ('\x08', rest)
      | 't' => some ('\t', rest)
      | 'n' => some ('\n', rest)
      | 'f' => some ('\x0c', rest)
      | 'r' => some ('\r', rest)
      | '"' => some ('"', rest)
      | '\\' => some ('\\', rest)
      | 'u' => numbered 4
      | 'U' => numbered 8
      | _ => none

theorem escape?_length {text rest : List Char} {character : Char}
    (h : escape? text = some (character, rest)) : rest.length < text.length := by
  unfold escape? at h
  split at h
  · simp at h
  · split at h <;> simp at h <;> grind

def quotedBody (text : List Char) : Option (List Char × List Char) :=
  match text with
  | [] => none
  | '"' :: rest => some ([], rest)
  | '\\' :: rest =>
      match _h : escape? rest with
      | some (character, after) =>
          (quotedBody after).map fun (body, left) => (character :: body, left)
      | none => none
  | character :: rest =>
      if isPlain character then
        (quotedBody rest).map fun (body, left) => (character :: body, left)
      else none
termination_by text.length
decreasing_by
  · have := escape?_length _h
    simp only [List.length_cons]
    omega
  · simp

/-- The end of a string over several lines: three quotes, before which two more may stand that
belong to the string. -/
def closing? (quote : Char) : List Char → Option (List Char × List Char)
  | first :: second :: third :: rest =>
      if first = quote ∧ second = quote ∧ third = quote then
        let extra := (rest.take 2).takeWhile (· == quote)
        some (extra, rest.drop extra.length)
      else none
  | _ => none

/-- Blanks and line ends that a backslash at the end of a line takes with it. -/
def foldedLines? (text : List Char) : Option (List Char) :=
  match text.dropWhile isBlank with
  | '\n' :: rest => some (rest.dropWhile fun character => isBlank character || character == '\n')
  | _ => none

theorem length_dropWhile_le (keep : Char → Bool) (text : List Char) :
    (text.dropWhile keep).length ≤ text.length :=
  (List.dropWhile_sublist keep).length_le

theorem foldedLines?_length {text rest : List Char} (h : foldedLines? text = some rest) :
    rest.length ≤ text.length := by
  unfold foldedLines? at h
  split at h
  · rename_i left heq
    have first := length_dropWhile_le isBlank text
    have second := length_dropWhile_le (fun c => isBlank c || c == '\n') left
    simp only [Option.some.injEq] at h
    subst h
    rw [heq] at first
    simp only [List.length_cons] at first
    omega
  · simp at h

/-- The rest of a string over several lines, in which backslashes mark characters. -/
def longQuotedBody (text : List Char) : Option (List Char × List Char) :=
  match closing? '"' text with
  | some ended => some ended
  | none =>
      match text with
      | [] => none
      | '\\' :: rest =>
          match _hf : foldedLines? rest with
          | some after => longQuotedBody after
          | none =>
              match _h : escape? rest with
              | some (character, after) =>
                  (longQuotedBody after).map fun (body, left) => (character :: body, left)
              | none => none
      | character :: rest =>
          if isPlain character || character == '\n' then
            (longQuotedBody rest).map fun (body, left) => (character :: body, left)
          else none
termination_by text.length
decreasing_by
  · have := foldedLines?_length _hf
    simp only [List.length_cons]
    omega
  · have := escape?_length _h
    simp only [List.length_cons]
    omega
  · simp

def literalBody : List Char → Option (List Char × List Char)
  | [] => none
  | '\'' :: rest => some ([], rest)
  | character :: rest =>
      if isPlain character then
        (literalBody rest).map fun (body, left) => (character :: body, left)
      else none

def longLiteralBody : List Char → Option (List Char × List Char)
  | [] => none
  | character :: rest =>
      match closing? '\'' (character :: rest) with
      | some ended => some ended
      | none =>
          if isPlain character || character == '\n' then
            (longLiteralBody rest).map fun (body, left) => (character :: body, left)
          else none

def shortString : Scan String := do
  let body : List Char ← (do exactly "\""; quotedBody) <|> (do exactly "'"; literalBody)
  return String.ofList body

/-- A string of several lines. A line end right behind the opening quotes is left out. -/
def longString : Scan String := do
  let read : Scan (List Char) ←
    (do exactly "\"\"\""; pure longQuotedBody) <|> (do exactly "'''"; pure longLiteralBody)
  let _ ← optional (exactly "\n")
  return String.ofList (← read)

/-! ## Numbers -/

def groupedDigits (isDigit : Char → Bool) : Scan (List Char)
  | [] => none
  | [digit] => if isDigit digit then some ([digit], []) else none
  | first :: '_' :: rest =>
      if isDigit first then
        (groupedDigits isDigit rest).map fun (digits, left) => (first :: digits, left)
      else none
  | first :: second :: rest =>
      if isDigit first then
        if isDigit second then
          (groupedDigits isDigit (second :: rest)).map fun (digits, left) => (first :: digits, left)
        else some ([first], second :: rest)
      else none

def wholeDigits : Scan (List Char) := do
  match ← peek with
  | some '0' => return [← one (· == '0')]
  | _ => groupedDigits Char.isDigit

def sign : Scan Bool := do
  let mark ← optional (one fun character => character == '+' || character == '-')
  return mark == some '-'

def inRange (number : Int) : Scan Value :=
  if Json.minSigned ≤ number ∧ number ≤ Json.maxSigned then return .integer number else failure

/-- A number that names its base. -/
def basedInteger : Scan Value := do
  let read (mark : String) (base : Nat) : Scan Value := do
    exactly mark
    let digits ← groupedDigits fun character => (Text.digitValue? base character).isSome
    inRange ((Text.numberOf? base digits).getD 0)
  read "0x" 16 <|> read "0o" 8 <|> read "0b" 2

def decimalInteger : Scan Value := do
  let negative ← sign
  let digits ← wholeDigits
  let magnitude : Int := Text.digitsValue digits
  inRange (if negative then -magnitude else magnitude)

def exponent : Scan Int := do
  let _ ← one fun character => character == 'e' || character == 'E'
  let negative ← sign
  let digits ← groupedDigits Char.isDigit
  let magnitude : Int := Text.digitsValue digits
  return if negative then -magnitude else magnitude

/-- A number with a point or an exponent. A positive one beyond the range of doubles is refused, a
negative one is not. -/
def decimalFloat : Scan Value := do
  let negative ← sign
  let whole ← wholeDigits
  let fraction ← optional do
    exactly "."
    groupedDigits Char.isDigit
  let power ← optional exponent
  if fraction.isNone && power.isNone then failure
  let digits := whole ++ fraction.getD []
  let magnitude := Decimal.nearest (Text.digitsValue digits) digits.length
    (power.getD 0 - Int.ofNat (fraction.getD []).length)
  if !negative && magnitude.isInf then failure
  return .float (if negative then -magnitude else magnitude)

def specialFloat : Scan Value := do
  let negative ← sign
  let magnitude : Float ←
    (do exactly "inf"; pure (1.0 / 0.0)) <|> (do exactly "nan"; pure (0.0 / 0.0))
  return .float (if negative then -magnitude else magnitude)

/-! ## Moments -/

def digitsWithin (count least most : Nat) : Scan Nat := do
  let digits ← (List.replicate count ()).mapM fun _ => one Char.isDigit
  let value := Text.digitsValue digits
  if least ≤ value ∧ value ≤ most then return value else failure

def date : Scan Unit := do
  let year ← digitsWithin 4 0 9999
  exactly "-"
  let month ← digitsWithin 2 1 12
  exactly "-"
  let _ ← digitsWithin 2 1 (Instant.monthLength year month)

def timeOfDay : Scan Unit := do
  let _ ← digitsWithin 2 0 23
  exactly ":"
  let _ ← digitsWithin 2 0 59
  exactly ":"
  let _ ← digitsWithin 2 0 60
  let _ ← optional do
    exactly "."
    let _ ← one Char.isDigit
    takeWhile Char.isDigit

def offset : Scan Unit := do
  let mark ← one fun character => ['Z', 'z', '+', '-'].contains character
  if mark = '+' ∨ mark = '-' then
    let _ ← digitsWithin 2 0 23
    exactly ":"
    let _ ← digitsWithin 2 0 59

def moment : Scan Value := do
  let dateAndTime : Scan Unit := do
    date
    let _ ← optional do
      let _ ← one fun character => ['T', 't', ' '].contains character
      timeOfDay
      optional offset
  dateAndTime <|> timeOfDay
  return .moment

def number : Scan Value :=
  moment <|> decimalFloat <|> specialFloat <|> basedInteger <|> decimalInteger

def truth : Scan Value :=
  (do exactly "true"; return .flag true) <|> (do exactly "false"; return .flag false)

def scalar : Scan Value :=
  (.text <$> longString) <|> (.text <$> shortString) <|> truth <|> number

end RepoRules.Toml
