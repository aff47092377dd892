import RepoRules.Text.Pieces

/-!
Line ends. A body may end its lines with a line feed, a carriage return or both; everything that
reads one first brings them to line feeds.
-/

namespace RepoRules.Text

/-- Every line end as one line feed: a carriage return together with a line feed behind it is one
line end, a carriage return alone another. -/
def normalizeLineEnds (text : String) : String :=
  replaceAll (replaceAll text "\r\n" "\n") "\r" "\n"

end RepoRules.Text
