/-!
Case folding that touches the 26 ASCII letters only, and the comparison built on it.
-/

namespace RepoRules.Text

/-- What is checked code point by code point holds of every ASCII character. -/
theorem of_ascii {holds : Char → Prop} (table : ∀ code < 128, holds (Char.ofNat code))
    {character : Char} (ascii : character.toNat < 128) : holds character := by
  rw [← Char.ofNat_toNat character]
  exact table character.toNat ascii

theorem to_lower_of_other {character : Char} (other : ¬ character.toNat < 128) :
    character.toLower = character := by
  unfold Char.toLower
  refine dif_neg fun capital => other ?_
  have most : character.toNat ≤ 90 := capital.2
  omega

def asciiLower (text : String) : String :=
  String.ofList (text.toList.map Char.toLower)

def sameAsciiCase (left right : String) : Bool :=
  left.toList.map Char.toLower == right.toList.map Char.toLower

theorem sameAsciiCase_iff {left right : String} :
    sameAsciiCase left right = true ↔
      left.toList.map Char.toLower = right.toList.map Char.toLower := by
  simp [sameAsciiCase]

theorem sameAsciiCase_refl (text : String) : sameAsciiCase text text = true := by
  simp [sameAsciiCase]

theorem sameAsciiCase_symm {left right : String} (same : sameAsciiCase left right = true) :
    sameAsciiCase right left = true := by
  simp_all [sameAsciiCase]

theorem sameAsciiCase_trans {left middle right : String}
    (first : sameAsciiCase left middle = true) (second : sameAsciiCase middle right = true) :
    sameAsciiCase left right = true := by
  simp_all [sameAsciiCase]

def containsAsciiCase (texts : List String) (text : String) : Bool :=
  texts.any fun member => sameAsciiCase member text

end RepoRules.Text
