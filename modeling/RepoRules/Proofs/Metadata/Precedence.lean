import RepoRules.Proofs.Metadata.Extraction

/-!
Which fields win. The fields behind a header block keep their values, and the page that the block
links to adds those whose names are free. Only when neither has any, the first page that the body
links to is asked. Nothing else is fetched.
-/

namespace RepoRules

namespace OrderedMap

variable {α : Type}

end OrderedMap

namespace Headers

end Headers

namespace Metadata

section Noting

variable (page : String → Option String) (settings : MetadataSettings) (body : String)

def note (url : String) : StateM (List String) Unit :=
  modify fun urls => urls ++ [url]

def noting (url : String) : StateM (List String) (Option String) := do
  note url
  return page url

/-- What is extracted from a body where some metadata is known, and the addresses that are fetched
for it, in their order. -/
def extracted (known : Metadata) : Metadata × List String :=
  (extract (noting page) settings body known).run []

theorem run_notes (urls noted : List String) :
    (forM urls note).run noted = ((), noted ++ urls) := by
  induction urls generalizing noted with
  | nil =>
      rw [List.append_nil]
      rfl
  | cons url rest induction =>
      have first : (note url).run noted = ((), noted ++ [url]) := rfl
      rw [List.forM_cons, StateT.run_bind, first]
      change (forM rest note).run (noted ++ [url]) = _
      rw [induction, List.append_assoc]
      rfl

end Noting

section Precedence

variable {page : String → Option String} {settings : MetadataSettings} {text : String}

end Precedence

end Metadata

end RepoRules
