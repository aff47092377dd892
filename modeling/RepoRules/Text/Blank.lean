/-!
Blank characters and trimming. Blank means the standard's white-space property, which holds of
more characters than the core library's test for ASCII blanks.
-/

namespace RepoRules.Text

def isBlank (character : Char) : Bool :=
  let code := character.toNat
  (9 ≤ code && code ≤ 13) || code == 0x20 || code == 0x85 || code == 0xa0 || code == 0x1680 ||
    (0x2000 ≤ code && code ≤ 0x200a) || code == 0x2028 || code == 0x2029 || code == 0x202f ||
    code == 0x205f || code == 0x3000

/-- Drops the characters that satisfy `drop` at both ends. -/
def trimCharsBy (drop : Char → Bool) (characters : List Char) : List Char :=
  ((characters.dropWhile drop).reverse.dropWhile drop).reverse

def trimChars (characters : List Char) : List Char :=
  trimCharsBy isBlank characters

def trim (text : String) : String :=
  String.ofList (trimChars text.toList)

def trimBy (drop : Char → Bool) (text : String) : String :=
  String.ofList (trimCharsBy drop text.toList)

def trimStart (text : String) : String :=
  String.ofList (text.toList.dropWhile isBlank)

/-- A text is blank when trimming leaves nothing of it. -/
def isBlankText (text : String) : Bool :=
  text.toList.all isBlank

end RepoRules.Text
