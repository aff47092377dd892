import RepoRules.Files.Tree

/-!
What programs ask of files. The answers may come from a tree or from the machine.
-/

namespace RepoRules.Files

/-- Why a file cannot be written to. -/
inductive OpenFault where
  | directory
  | file
deriving Repr, DecidableEq

structure Access (m : Type → Type) where
  isThere : Path → m Bool
  /-- The text of a file, or why it cannot be read. -/
  read : (path : String) → m (Except String String)
  /-- The place where a path leads, if something is there. -/
  canonical? : Path → m (Option Place)
  /-- Makes sure that a file is there to be written to, and its directory. -/
  openFile : (directory : Place) → (name : String) → m (Except OpenFault Unit)

/-- The place where a path leads, or else the one that it names by its text. -/
def Access.resolve {m : Type → Type} [Monad m] (access : Access m) (path : Path) : m Place := do
  return (← access.canonical? path).getD path.place

def Access.ofTree : Access (StateM Tree) where
  isThere path tree := (tree.isThere path, tree)
  read path tree := ((tree.read (.ofText path)).mapError Fault.message, tree)
  canonical? path tree := (tree.canonical? path, tree)
  openFile directory name tree :=
    match tree.addDirectory? (tree.fromTop directory) with
    | none => (.error .directory, tree)
    | some made =>
        match made.addFile? (tree.fromTop (directory.join name)) with
        | none => (.error .file, made)
        | some after => (.ok (), after)

end RepoRules.Files
