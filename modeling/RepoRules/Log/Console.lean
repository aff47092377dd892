import RepoRules.Text.Blank
import RepoRules.Text.Lower

/-!
Where log lines go on the console. Commands that print a result keep their standard output free of
log lines.
-/

namespace RepoRules.Log

inductive Console where
  | stdout
  | stderr
  | silent
deriving Repr, DecidableEq

namespace Console

def name : Console → String
  | .stdout => "stdout"
  | .stderr => "stderr"
  | .silent => "none"

def all : List Console := [.stdout, .stderr, .silent]

def ofName? (name : String) : Option Console :=
  all.find? fun console => console.name == name

def parse (text : String) : Except String Console :=
  match ofName? (Text.lower (Text.trim text)) with
  | some console => .ok console
  | none =>
      .error ("invalid logging.console_output '" ++ text ++
        "'; supported values are stdout, stderr, none")

/-- The console of a command, which may print a result on standard output. -/
def select (printsResult : Bool) (configured : Option Console) : Console :=
  match printsResult, configured with
  | true, some .stdout => .stderr
  | true, none => .stderr
  | false, none => .stdout
  | _, some console => console

end Console

end RepoRules.Log
