import RepoRules.Metadata.Headers
import RepoRules.Text.LineEnds

/-!
The metadata of a body. Fields behind a header block come first, then those of the page that the
block links to; only when there are none is the first page linked anywhere in the body asked.
-/

namespace RepoRules.Metadata

variable {m : Type → Type} [Monad m]

def ofPage (fetch : String → m (Option String)) (url : String) : m Metadata := do
  match ← fetch url with
  | some page => return Markup.fieldsOfPage page
  | none => return .empty

/-- The fields behind the header block, and after them those of the page linked in the block whose
names are still free. -/
def ofHeaders (fetch : String → m (Option String)) (settings : MetadataSettings) (body : String) :
    m Metadata := do
  match Headers.scan settings body with
  | none => return .empty
  | some found =>
      match Headers.contentUrl? settings.contentUrls ("\n".intercalate found.headerLines) with
      | none => return found.fields
      | some url =>
          let page ← ofPage fetch url
          return found.fields.extendNew page.entries

/-- Metadata that is there already stays as it is, and nothing is fetched. -/
def extract (fetch : String → m (Option String)) (settings : MetadataSettings) (body : String)
    (known : Metadata) : m Metadata := do
  if !known.isEmpty then
    return known
  let body := Text.normalizeLineEnds body
  let fields ← ofHeaders fetch settings body
  if !fields.isEmpty then
    return fields
  match Headers.contentUrl? settings.contentUrls body with
  | none => return fields
  | some url => ofPage fetch url

end RepoRules.Metadata
