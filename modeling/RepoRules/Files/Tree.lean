import RepoRules.Files.Path

/-!
File systems without links. A tree is given by its files and by directories that need not hold
any; whatever stands above one of them is a directory. Paths are followed step by step, and each
step starts from a directory that is there.
-/

namespace RepoRules.Files

inductive Fault where
  | missing
  | notDirectory
  | isDirectory
deriving Repr, DecidableEq

def Fault.message : Fault → String
  | .missing => "No such file or directory (os error 2)"
  | .notDirectory => "Not a directory (os error 20)"
  | .isDirectory => "Is a directory (os error 21)"

inductive Node where
  | file (content : String)
  | directory
deriving Repr, DecidableEq

structure Tree where
  files : List (List String × String)
  directories : List (List String)
  /-- Where relative paths start. -/
  working : List String
deriving Repr, DecidableEq

namespace Tree

def isDirectory (tree : Tree) (names : List String) : Bool :=
  names.isPrefixOf tree.working || tree.directories.any names.isPrefixOf ||
    tree.files.any fun file => names.isPrefixOf file.1 && names != file.1

def node? (tree : Tree) (names : List String) : Option Node :=
  if tree.isDirectory names then some .directory
  else (tree.files.lookup names).map .file

def follow (tree : Tree) : (names : List String) → List Part → Except Fault (List String)
  | names, [] => .ok names
  | names, part :: rest =>
      match tree.node? names with
      | some .directory => follow tree (part.follow names) rest
      | some (.file _) => .error .notDirectory
      | none => .error .missing

/-- The place where a path leads, if something is there. The empty path leads nowhere. -/
def locate (tree : Tree) (path : Path) : Except Fault (List String × Node) := do
  if path.isEmpty then throw .missing
  let names ← tree.follow (if path.isAbsolute then [] else tree.working) path.parts
  match tree.node? names with
  | some node => return (names, node)
  | none => throw .missing

def isThere (tree : Tree) (path : Path) : Bool :=
  (tree.locate path).isOk

def canonical? (tree : Tree) (path : Path) : Option Place :=
  (tree.locate path).toOption.map fun found => ⟨true, found.1⟩

def read (tree : Tree) (path : Path) : Except Fault String := do
  match ← tree.locate path with
  | (_, .file content) => return content
  | (_, .directory) => throw .isDirectory

def fromTop (tree : Tree) (place : Place) : List String :=
  if place.isAbsolute then place.names else tree.working ++ place.names

def addDirectory? (tree : Tree) (names : List String) : Option Tree :=
  if tree.files.any fun file => file.1.isPrefixOf names then none
  else some { tree with directories := names :: tree.directories }

def addFile? (tree : Tree) (names : List String) : Option Tree :=
  match tree.node? names with
  | some (.file _) => some tree
  | some .directory => none
  | none => some { tree with files := (names, "") :: tree.files }

end Tree

end RepoRules.Files
