import RepoRules.Decode.Record
import RepoRules.Files.Access
import RepoRules.Log.Console
import RepoRules.Log.Directive
import RepoRules.Settings.Load

/-!
The settings of the log, from the section of the configuration file that belongs to it. The
directory may also be given by a variable of the environment, which wins.
-/

namespace RepoRules.Log

structure Settings where
  directory : Option String
  defaultLevel : String
  enableFile : Bool
  console : Option Console
deriving Repr, DecidableEq

inductive Fault where
  | startedBefore
  | unreadable (file : String)
  | malformed (file : String)
  | invalidLevel
  | noHome
  /-- The directory leads out of the one that it starts from. -/
  | outside (label root : String)
  | unusableLevel
  | noDirectory (directory : String)
  | noFile (file : String)
deriving Repr, DecidableEq

def Fault.message : Fault → String
  | .startedBefore => "logging already initialized"
  | .unreadable file => "failed to read config " ++ file
  | .malformed file => "failed to parse logging section of " ++ file
  | .invalidLevel => "logging.default_level must be a valid tracing directive"
  | .noHome => "$HOME directory unavailable"
  | .outside label root => "logging.log_dir resolves outside " ++ label ++ " " ++ root
  | .unusableLevel => "failed to configure tracing level"
  | .noDirectory directory => "failed to create log directory " ++ directory
  | .noFile file => "failed to open log file " ++ file

namespace Settings

def default : Settings := ⟨none, "info", true, none⟩

open Decode

def isEmptyValue : Json → Bool
  | .array items => items.isEmpty
  | .object fields => fields.isEmpty
  | _ => false

/-- Reads the name of a console, which may also be the only key of a table and hold nothing. -/
def consoleOf (value : Json) : Except Decode.Fault Console :=
  let name : Option String := match value with
    | .string name => some name
    | .object [(name, held)] => if isEmptyValue held then some name else none
    | _ => none
  match name.bind Console.ofName? with
  | some console => .ok console
  | none => refuse value "a console"

def sectionFields : List (RecordField Settings) :=
  [⟨"log_dir", .optional, fun settings value =>
      return { settings with directory := some (← text value) }⟩,
    ⟨"default_level", .optional, fun settings value =>
      return { settings with defaultLevel := ← text value }⟩,
    ⟨"enable_file", .optional, fun settings value =>
      return { settings with enableFile := ← flag value }⟩,
    ⟨"console_output", .defaulted, fun settings value =>
      return { settings with console := some (← consoleOf value) }⟩]

def ofToml? (text : String) : Option Settings := do
  let table ← Toml.parse? text
  match table.value.toJson.field? "logging" with
  | none => return default
  | some held => (RepoRules.Settings.readSection "logging" sectionFields default held).toOption

def override (environment : Environment) (settings : Settings) : Settings :=
  match environment "RULEBOT_LOG_DIR" with
  | some directory =>
      if Text.isBlankText directory then settings
      else { settings with directory := some (Text.trim directory) }
  | none => settings

variable {m : Type → Type} [Monad m]

def ofFile (access : Files.Access m) (path : String) : m (Except Fault Settings) := do
  if !(← access.isThere (.ofText path)) then return .ok default
  match ← access.read path with
  | .error _ => return .error (.unreadable path)
  | .ok text =>
      match ofToml? text with
      | some settings => return .ok settings
      | none => return .error (.malformed path)

/-- The settings from all their sources. -/
def load (access : Files.Access m) (environment : Environment) (path : Option String) :
    m (Except Fault Settings) := do
  let fromFile ← match path with
    | some path => ofFile access path
    | none => pure (.ok default)
  match fromFile with
  | .error fault => return .error fault
  | .ok settings =>
      let settings := settings.override environment
      return if Directive.isValid settings.defaultLevel then .ok settings else .error .invalidLevel

end Settings

end RepoRules.Log
