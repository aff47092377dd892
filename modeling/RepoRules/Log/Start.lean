import RepoRules.CommandLine.Command
import RepoRules.Log.Location

/-!
How logging starts. It starts once: a second start fails, even after a first one that failed.
-/

namespace RepoRules.Log

open CommandLine (Command)

/-- Where log lines go. -/
structure Sinks where
  console : Console
  file : Files.Place
deriving Repr, DecidableEq

def configFile : Command → String
  | .serve options => options.config.getD RepoRules.Settings.defaultFile
  | .run _ | .validate _ => RepoRules.Settings.defaultFile

/-- Whether there are directives to start with: valid ones of the environment, which may be none, or
else the ones of the settings. -/
def hasDirectives (environment : Environment) (settings : Settings) : Bool :=
  (environment "RUST_LOG").any Directive.areValid || Directive.areValid settings.defaultLevel

variable {m : Type → Type} [Monad m]

def anchorOf (access : Files.Access m) (file : String) : m (Option Files.Path) := do
  let path := Files.Path.ofText file
  return if ← access.isThere path then some path.directory else none

def openFile (access : Files.Access m) (file : Files.Place) : m (Except Fault Unit) := do
  let directory : Files.Place := { file with names := file.names.dropLast }
  match ← access.openFile directory fileName with
  | .ok () => return .ok ()
  | .error .directory => return .error (.noDirectory directory.text)
  | .error .file => return .error (.noFile file.text)

/-- Finds the sinks for the log lines of a command, and opens the file unless it is turned off. -/
def start (access : Files.Access m) (environment : Environment) (started : Bool)
    (command : Command) : m (Except Fault Sinks) := do
  if started then return .error .startedBefore
  match ← Settings.load access environment (some (configFile command)) with
  | .error fault => return .error fault
  | .ok settings =>
      if !hasDirectives environment settings then return .error .unusableLevel
      let anchor ← anchorOf access (configFile command)
      match ← file access (environment "HOME") anchor settings with
      | .error fault => return .error fault
      | .ok place =>
          let opened ← if settings.enableFile then openFile access place else pure (.ok ())
          let console := Console.select command.printsResult settings.console
          return opened.map fun () => ⟨console, place⟩

end RepoRules.Log
