import RepoRules.Text.Category

/-!
Texts as they are shown inside diagnostics: between double quotes, with everything that would not
show up as itself written as an escape.
-/

namespace RepoRules.Text

def hexDigitChar (digit : Nat) : Char :=
  if digit < 10 then Char.ofNat ('0'.toNat + digit) else Char.ofNat ('a'.toNat + (digit - 10))

/-- The digits of `number` in lower-case hexadecimal, without leading zeros. -/
def hexDigits (number : Nat) : List Char :=
  if number < 16 then [hexDigitChar number]
  else hexDigits (number / 16) ++ [hexDigitChar (number % 16)]
termination_by number

namespace Quoted

def escapeChar (character : Char) : List Char :=
  if character = '"' then ['\\', '"']
  else if character = '\\' then ['\\', '\\']
  else if character = '\n' then ['\\', 'n']
  else if character = '\r' then ['\\', 'r']
  else if character = '\t' then ['\\', 't']
  else if character.toNat = 0 then ['\\', '0']
  else if extendsGrapheme character || !isPrintable character then
    ['\\', 'u', '\x7b'] ++ hexDigits character.toNat ++ ['\x7d']
  else [character]

end Quoted

def quoted (text : String) : String :=
  String.ofList ('"' :: text.toList.flatMap Quoted.escapeChar ++ ['"'])

def quotedList (texts : List String) : String :=
  "[" ++ ", ".intercalate (texts.map quoted) ++ "]"

end RepoRules.Text
