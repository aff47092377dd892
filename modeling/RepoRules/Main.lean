import RepoRules.CommandLine.Report
import RepoRules.Log.Start

/-!
The program: it reads the arguments, starts logging, executes the command and prints its result. The
exit code is 2 for arguments that are no command and 1 for a command that fails.
-/

namespace RepoRules.Main

open Files

def reason : IO.Error → String
  | .noFileOrDirectory .. => Fault.missing.message
  | .inappropriateType _ code _ =>
      if code = 21 then Fault.isDirectory.message else Fault.notDirectory.message
  | error => toString error

def pathText (path : Path) : String :=
  let parts := path.parts.map fun
    | .here => "."
    | .parent => ".."
    | .name text => text
  (if path.isAbsolute then "/" else "") ++ "/".intercalate parts

def attempt (action : IO α) : IO (Except String α) := do
  try
    return .ok (← action)
  catch error =>
    return .error (reason error)

def openFile (directory : Place) (name : String) : IO (Except OpenFault Unit) := do
  let make : IO Unit :=
    if directory.text.isEmpty then pure () else IO.FS.createDirAll directory.text
  match ← attempt make with
  | .error _ => return .error .directory
  | .ok () =>
      let append : IO Unit := IO.FS.withFile (directory.join name).text .append fun _ => pure ()
      match ← attempt append with
      | .error _ => return .error .file
      | .ok () => return .ok ()

/-- The files of the machine. -/
def machine : Access IO where
  isThere path := do
    if path.isEmpty then return false
    return (← attempt (IO.FS.realPath (pathText path))) matches .ok _
  read path := attempt (IO.FS.readFile path)
  canonical? path := do
    if path.isEmpty then return none
    match ← attempt (IO.FS.realPath (pathText path)) with
    | .ok found => return some (Path.ofText found.toString).place
    | .error _ => return none
  openFile := openFile

def variableNames : List String :=
  Environment.documentation.map Prod.fst ++ ["HOME", "RUST_LOG"]

def environment : IO Environment := do
  let values ← variableNames.mapM fun name => return (name, ← IO.getEnv name)
  return fun name => (values.lookup name).join

def usage : String :=
  "usage: rulebot serve [--config FILE] [--bind ADDR] [--dry-run]\n" ++
    "       rulebot run --event NAME --payload FILE --rules FILE [--file PATH]...\n" ++
    "       rulebot validate FILE\n"

def version : String := "rulebot 0.3.12\n"

def fail (text : String) : IO UInt32 := do
  (← IO.getStderr).putStrLn ("Error: " ++ text)
  return 1

def execute (environment : Environment) (command : CommandLine.Command) : IO UInt32 := do
  match ← command.execute machine environment with
  | .report report =>
      IO.print report.output
      match report.failure with
      | none => return 0
      | some text => fail text
  | .serving deployment =>
      fail ("no listener for " ++ deployment.address.text ++ " in this program")

end RepoRules.Main

open RepoRules in
def main (arguments : List String) : IO UInt32 := do
  match CommandLine.Command.ofArguments arguments with
  | .error .help =>
      IO.print Main.usage
      return 0
  | .error .version =>
      IO.print Main.version
      return 0
  | .error _ =>
      (← IO.getStderr).putStr Main.usage
      return 2
  | .ok command =>
      let environment ← Main.environment
      match ← Log.start Main.machine environment false command with
      | .error fault => Main.fail fault.message
      | .ok _ => Main.execute environment command
