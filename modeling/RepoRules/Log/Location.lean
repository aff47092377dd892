import RepoRules.Log.Settings

/-!
Where the log file is. A relative directory starts from the directory of the configuration file, the
anchor, or without one from the home directory, and must not lead out of it.

Directories that are there are compared by where they are, others by their text. A relative anchor
is there, so what is missing below it is found outside.
-/

namespace RepoRules.Log

open Files

structure Root where
  path : Path
  label : String

def fileName : String := "rulebot.log"

/-- The anchor, or else the home directory. -/
def root (home : Option String) : (anchor : Option Path) → Except Fault Root
  | some anchor => .ok ⟨anchor, "config directory"⟩
  | none =>
      match home with
      | some home => .ok ⟨.ofText home, "home"⟩
      | none => .error .noHome

/-- The directory that is asked for, as it is written. -/
def directoryPath (home : Option String) (anchor : Option Path) (configured : Option Path) :
    Except Fault Path := do
  match configured with
  | some directory =>
      if directory.isAbsolute then return directory
      return (← root home anchor).path.join directory
  | none =>
      let start ← root home anchor
      return start.path.join (.ofText (if anchor.isSome then "logs" else ".rulebot/logs"))

variable {m : Type → Type} [Monad m]

def directory (access : Access m) (home : Option String) (anchor : Option Path)
    (configured : Option Path) : m (Except Fault Place) := do
  match directoryPath home anchor configured with
  | .error fault => return .error fault
  | .ok path =>
      let place ← access.resolve path
      if configured.all Path.isAbsolute then return .ok place
      match root home anchor with
      | .error fault => return .error fault
      | .ok root =>
          let rootPlace ← access.resolve root.path
          return if place.isWithin rootPlace then .ok place
            else .error (.outside root.label rootPlace.text)

def file (access : Access m) (home : Option String) (anchor : Option Path) (settings : Settings) :
    m (Except Fault Place) := do
  match ← directory access home anchor (settings.directory.map Path.ofText) with
  | .error fault => return .error fault
  | .ok place => return .ok (place.join fileName)

end RepoRules.Log
