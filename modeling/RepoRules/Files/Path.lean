import RepoRules.Text.Pieces

/-!
Paths as they are written, and places, which are paths without dots. A place can be had from a path
by its text alone; whether that is where the path leads depends on what is there.
-/

namespace RepoRules.Files

inductive Part where
  /-- A single dot, or a slash at the end: stay in a directory. -/
  | here
  | parent
  | name (text : String)
deriving Repr, DecidableEq

structure Path where
  isAbsolute : Bool
  parts : List Part
deriving Repr, DecidableEq

/-- A path without dots. -/
structure Place where
  isAbsolute : Bool
  names : List String
deriving Repr, DecidableEq

namespace Part

def ofText (text : String) : Part :=
  if text = "." then .here else if text = ".." then .parent else .name text

/-- Takes one step by the text alone. Nothing is above the top. -/
def follow (names : List String) : Part → List String
  | .here => names
  | .parent => names.dropLast
  | .name text => names ++ [text]

end Part

namespace Path

/-- The steps between slashes. Slashes in a row count as one. -/
def partsOf : (pieces : List String) → List Part
  | [] => []
  | [last] => [if last = "" then .here else .ofText last]
  | piece :: rest => if piece = "" then partsOf rest else .ofText piece :: partsOf rest

def ofText (text : String) : Path :=
  if text = "" then ⟨false, []⟩
  else ⟨Text.startsWith text "/", partsOf (Text.split text '/')⟩

def isEmpty (path : Path) : Bool :=
  !path.isAbsolute && path.parts.isEmpty

def join (base path : Path) : Path :=
  if path.isAbsolute then path
  else if path.isEmpty && !base.isEmpty then { base with parts := base.parts ++ [.here] }
  else { base with parts := base.parts ++ path.parts }

/-- The directory of a path that ends in a name; a name alone is in the directory at hand. -/
def directory (path : Path) : Path :=
  let parts := path.parts.dropLast
  if !path.isAbsolute && parts.isEmpty then ⟨false, [.here]⟩ else { path with parts }

def place (path : Path) : Place :=
  ⟨path.isAbsolute, path.parts.foldl Part.follow []⟩

end Path

namespace Place

def text (place : Place) : String :=
  (if place.isAbsolute then "/" else "") ++ "/".intercalate place.names

def join (place : Place) (name : String) : Place :=
  { place with names := place.names ++ [name] }

/-- Whether the written form of a place goes on where that of another one ends. -/
def isWithin (place root : Place) : Bool :=
  (root.isAbsolute == place.isAbsolute && root.names.isPrefixOf place.names) ||
    (!root.isAbsolute && root.names.isEmpty)

end Place

end RepoRules.Files
