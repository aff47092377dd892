import RepoRules.Digest.Hex
import RepoRules.Net.DomainTable
import RepoRules.Net.Punycode
import RepoRules.Text.Heading
import RepoRules.Text.Joining
import RepoRules.Text.Normal

/-!
Domain names in ASCII. A name is first written in its standard form, then taken apart at its full
stops. A label with characters outside ASCII is written in punycode behind `xn--`; a label that
comes in punycode has to stand for a text that is its own standard form.
-/

namespace RepoRules.Domain

/-- ASCII characters that no domain name holds. -/
def isForbidden (character : Char) : Bool :=
  character.toNat ≤ 0x20 || character.toNat == 0x7f ||
    "%#/:<>?@[\\]^|".toList.contains character

def standardForm? (text : List Char) : Option (List Char) := do
  let codes ← text.mapM fun character => rewritten? character.toNat
  return (Text.composed codes.flatten).map Char.ofNat

/-- Whether a label begins with a mark, which needs a letter in front of it. -/
def beginsWithMark (label : List Char) : Bool :=
  label.head?.any fun character =>
    [Text.Category.nonspacingMark, .spacingMark, .enclosingMark].any (·.contains character.toNat)

/-- The sign that joins two consonants. -/
def isVirama (character : Char) : Bool :=
  Text.combiningClass character.toNat == 9

/-- Whether the first character that a join does not pass is one of some kind. -/
def meets (kind : Text.Spans) (characters : List Char) : Bool :=
  (characters.find? fun character =>
      kind.contains character.toNat || !Text.passesJoin character.toNat).any
    fun character => kind.contains character.toNat

/-- Whether both joiners are only used where they change something: behind a virama, and the one
that keeps letters apart also between letters that would be joined. `before` comes last first. -/
def joinersFit (before : List Char) : List Char → Bool
  | [] => true
  | character :: rest =>
      let fits :=
        if character ≠ '\u200c' ∧ character ≠ '\u200d' then true
        else before.head?.any isVirama ||
          (character == '\u200c' && meets Text.joinsNextSpans before &&
            meets Text.joinsPreviousSpans rest)
      fits && joinersFit (character :: before) rest

def heading (character : Char) : Text.Heading :=
  Text.Heading.ofCode character.toNat

/-- Whether a name has letters or numbers that are written from right to left. -/
def runsBothWays (label : List Char) : Bool :=
  label.any fun character => heading character = .right || heading character = .arabicNumber

/-- Whether a label keeps to one direction: which it is its first character says, and it ends with a
letter or a number, marks aside. -/
def keepsDirection (label : List Char) : Bool :=
  let headings := label.map heading
  let body := (headings.reverse.dropWhile (· = .mark)).reverse
  match headings with
  | [] => true
  | .left :: _ =>
      (body.getLast?.any fun last => last = .left || last = .europeanNumber) &&
        !body.any fun heading => heading = .right || heading = .arabicNumber
  | .right :: _ =>
      (body.getLast?.any fun last =>
          last = .right || last = .europeanNumber || last = .arabicNumber) &&
        !body.contains .left && !(body.contains .europeanNumber && body.contains .arabicNumber)
  | _ :: _ => false

structure Label where
  shown : List Char
  written : List Char
deriving Repr, DecidableEq

namespace Label

def isAscii (label : List Char) : Bool :=
  label.all fun character => character.toNat < 128

/-- The longest labels that are written in punycode and read from it. -/
def longestShown : Nat := 1000

def longestDigits : Nat := 2000

/-- Reads a label in its standard form. -/
def ofStandard? (text : List Char) : Option Label :=
  match Text.afterPrefix? "xn--".toList text with
  | some digits => do
      if digits.getLast?.getD '-' = '-' ∨ longestDigits < digits.length then none
      let shown ← Punycode.decode? digits
      if standardForm? shown = some shown then some ⟨shown, text⟩ else none
  | none =>
      if isAscii text then some ⟨text, text⟩
      else if longestShown < text.length then none
      else some ⟨text, "xn--".toList ++ Punycode.encode text⟩

def isValid (label : Label) : Bool :=
  !label.written.any isForbidden && !beginsWithMark label.shown && joinersFit [] label.shown

end Label

/-- The ASCII form of a domain name, in lower case, if it has one. -/
def ofBytes? (bytes : Bytes) : Option String := do
  let text ← standardForm? (← Bytes.text? bytes).toList
  let labels ← (Text.splitChars '.' text).mapM Label.ofStandard?
  let shown := labels.map fun label => label.shown
  if !labels.all Label.isValid then none
  else if shown.any runsBothWays && !shown.all keepsDirection then none
  else some (".".intercalate (labels.map fun label => String.ofList label.written))

end RepoRules.Domain
