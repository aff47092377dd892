import RepoRules.Text.Blank
import RepoRules.Text.Pieces

/-!
The owner and the name of a repository.
-/

namespace RepoRules

structure RepositoryRef where
  owner : String
  name : String
deriving Repr, DecidableEq, Inhabited

namespace RepositoryRef

def parse? (fullName : String) : Option RepositoryRef :=
  match Text.splitOnce? (Text.trim fullName) '/' with
  | some (owner, name) =>
      if owner.isEmpty || name.isEmpty || name.toList.contains '/' then none else some ⟨owner, name⟩
  | none => none

def fullName (repository : RepositoryRef) : String :=
  repository.owner ++ "/" ++ repository.name

end RepositoryRef

end RepoRules
