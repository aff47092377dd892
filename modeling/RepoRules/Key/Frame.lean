import RepoRules.Digest.Base64
import RepoRules.Text.Blank
import RepoRules.Text.Pieces

/-!
Data framed as text: a line that says what follows, the data in base64, and a line that ends it.
Header lines and an empty line may stand in front of the data.
-/

namespace RepoRules

structure KeyFrame where
  label : String
  content : Bytes
deriving Repr, DecidableEq

namespace KeyFrame

/-- Looks for a piece, of which `wanted` is still to come. A character that does not go on with the
piece is passed over, even if it could start it anew. `passed` comes last first. -/
def splitFrom? (piece : List Char) : (wanted passed : List Char) → List Char →
    Option (List Char × List Char)
  | _, _, [] => none
  | [], _, _ => none
  | expected :: more, passed, character :: rest =>
      if character ≠ expected then splitFrom? piece piece (character :: passed) rest
      else if more.isEmpty then some ((passed.drop (piece.length - 1)).reverse, rest)
      else splitFrom? piece more (character :: passed) rest

/-- Splits where a piece ends for the first time. -/
def splitAt? (piece : String) (text : List Char) : Option (List Char × List Char) :=
  splitFrom? piece.toList piece.toList [] text

/-- Splits the headers off, if there are any. -/
def splitHeaders (body : List Char) : List Char × List Char :=
  ((splitAt? "\n\n" body).or (splitAt? "\r\n\r\n" body)).getD ([], body)

def isHeader (line : String) : Bool :=
  line.toList.contains ':'

/-- Reads the first frame in a text. Both lines must carry the same label; blanks in the data mean
nothing. -/
def parse? (text : List Char) : Option KeyFrame := do
  let (_, text) ← splitAt? "-----BEGIN " text
  let (label, text) ← splitAt? "-----" text
  let (body, text) ← splitAt? "-----END " (text.dropWhile (" \t\n\r".toList.contains ·))
  let (final, _) ← splitAt? "-----" text
  let (headers, data) := splitHeaders body
  let content ← Base64.decode? (data.filter fun character => !Text.isBlank character)
  if label.isEmpty || label ≠ final || !(Text.lines (String.ofList headers)).all isHeader then none
  return ⟨String.ofList label, content⟩

end KeyFrame

end RepoRules
