import RepoRules.OrderedMap
import RepoRules.Pattern.Search
import RepoRules.Text.Lower
import RepoRules.Text.Pieces

/-!
Decoration and tags. A field value loses the light decoration that people write around it; a page
gives its fields in tags of the form `<meta name="…" content="…">`.
-/

namespace RepoRules

abbrev Metadata := OrderedMap String

namespace Markup

def link : Pattern := .written "\\[([^\\]]*)\\]\\([^)]*\\)"

def tag : Pattern := .written "<[^>]+>"

def metaTag : Pattern :=
  .written "(?i)<meta\\s+name\\s*=\\s*\"([^\"]+)\"\\s+content\\s*=\\s*\"([^\"]*)\"\\s*/?>"

/-- The text of a group; a group that took no part has none. -/
def groupText (groups : List (Option String)) (number : Nat) : String :=
  (groups[number]?.join).getD ""

/-- A value without its decoration: links become their texts, tags go, and so do doubled stars and
underscores, backquotes, and single stars and underscores around the value. -/
def strip (value : String) : String :=
  let plain := tag.replaceAll (fun _ => "") (link.replaceAll (fun groups => groupText groups 1) value)
  let bare := Text.replaceAll (Text.replaceAll (Text.replaceAll plain "**" "") "__" "") "`" ""
  Text.trim (Text.trimBy (fun character => character == '*' || character == '_') (Text.trim bare))

def fieldsOfPage (page : String) : Metadata :=
  (metaTag.allCaptures page).foldl (fun fields groups =>
    let name := Text.lower (Text.trim (groupText groups 1))
    if name.isEmpty then fields else fields.insert name (Text.trim (groupText groups 2))) .empty

end Markup

end RepoRules
