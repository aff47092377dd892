/-!
Taking texts apart: at a separator, at line ends, by prefix; and replacing every occurrence of a
fixed piece. The functions on character lists are the ones that statements are about.
-/

namespace RepoRules.Text

def afterPrefix? : (pre characters : List Char) → Option (List Char)
  | [], characters => some characters
  | _ :: _, [] => none
  | expected :: pre, character :: rest =>
      if expected = character then afterPrefix? pre rest else none

theorem afterPrefix?_eq_some_iff {pre characters rest : List Char} :
    afterPrefix? pre characters = some rest ↔ characters = pre ++ rest := by
  induction pre generalizing characters with
  | nil => simp [afterPrefix?, eq_comm]
  | cons expected pre ih =>
      cases characters with
      | nil => simp [afterPrefix?]
      | cons character others =>
          by_cases same : expected = character
          · simp [afterPrefix?, same, ih]
          · simp [afterPrefix?, same, Ne.symm same]

def startsWith (text pre : String) : Bool :=
  (afterPrefix? pre.toList text.toList).isSome

def stripPrefix? (text pre : String) : Option String :=
  (afterPrefix? pre.toList text.toList).map String.ofList

theorem stripPrefix?_eq_some_iff {text pre rest : String} :
    stripPrefix? text pre = some rest ↔ text = pre ++ rest := by
  unfold stripPrefix?
  rw [Option.map_eq_some_iff]
  constructor
  · rintro ⟨characters, found, rfl⟩
    apply String.toList_inj.1
    rw [String.toList_append, String.toList_ofList]
    exact afterPrefix?_eq_some_iff.1 found
  · rintro rfl
    exact ⟨rest.toList, afterPrefix?_eq_some_iff.2 String.toList_append, String.ofList_toList⟩

def splitOnceChars (separator : Char) : List Char → Option (List Char × List Char)
  | [] => none
  | character :: rest =>
      if character = separator then some ([], rest)
      else (splitOnceChars separator rest).map fun parts => (character :: parts.1, parts.2)

def splitOnce? (text : String) (separator : Char) : Option (String × String) :=
  (splitOnceChars separator text.toList).map fun parts =>
    (String.ofList parts.1, String.ofList parts.2)

def splitChars (separator : Char) : List Char → List (List Char)
  | [] => [[]]
  | character :: rest =>
      if character = separator then [] :: splitChars separator rest
      else match splitChars separator rest with
        | [] => [[character]]
        | part :: parts => (character :: part) :: parts

def split (text : String) (separator : Char) : List String :=
  (splitChars separator text.toList).map String.ofList

/-- The lines of a text: a line ends with a line feed, in front of which one carriage return
belongs to the line end; text after the last line feed is a line unless it is empty. -/
def lines (text : String) : List String :=
  let parts := splitChars '\n' text.toList
  let ended := parts.dropLast.map fun part =>
    if part.getLast? = some '\r' then part.dropLast else part
  let final := parts.getLast?.getD []
  (if final.isEmpty then ended else ended ++ [final]).map String.ofList

/-- Replaces every occurrence of a piece that starts with `head`, left to right. -/
def replaceChars (head : Char) (tail replacement : List Char) : List Char → List Char
  | [] => []
  | character :: rest =>
      if character = head then
        match _found : afterPrefix? tail rest with
        | some after => replacement ++ replaceChars head tail replacement after
        | none => character :: replaceChars head tail replacement rest
      else character :: replaceChars head tail replacement rest
termination_by characters => characters.length
decreasing_by
  · have split := afterPrefix?_eq_some_iff.1 _found
    simp only [split, List.length_append, List.length_cons]
    omega
  all_goals simp

def replaceAll (text piece replacement : String) : String :=
  match piece.toList with
  | [] => text
  | head :: tail => String.ofList (replaceChars head tail replacement.toList text.toList)

def occursIn (piece : List Char) : List Char → Bool
  | [] => piece.isEmpty
  | character :: rest =>
      (afterPrefix? piece (character :: rest)).isSome || occursIn piece rest

end RepoRules.Text
