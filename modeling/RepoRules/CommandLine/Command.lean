/-!
The commands and how they are read from arguments. Each command has options and possibly one
argument without a name. The value of an option stands behind an equals sign or is the next
argument, and is entered only when the next option begins, so that faults are found in that order.
-/

namespace RepoRules.CommandLine

structure ServeOptions where
  config : Option String
  address : Option String
  dryRun : Bool
deriving Repr, DecidableEq

structure RunOptions where
  event : String
  payload : String
  rules : String
  /-- The paths that the pull request changes. -/
  files : List String
deriving Repr, DecidableEq

inductive Command where
  | serve (options : ServeOptions)
  | run (options : RunOptions)
  | validate (file : String)
deriving Repr, DecidableEq

def Command.printsResult : Command → Bool
  | .serve _ => false
  | .run _ | .validate _ => true

/-- Why arguments are no command, a wish for help included. -/
inductive UsageFault where
  | nothingGiven
  | help
  | version
  | unknownCommand
  | unknownArgument
  | missingArgument
  | invalidValue
  | tooManyValues
  | givenTwice
deriving Repr, DecidableEq

/-- What an option takes. Only texts may be empty, and only a list may be given again. -/
inductive Kind where
  | flag
  | text
  | path
  | list
deriving Repr, DecidableEq

structure Parameter where
  name : String
  kind : Kind
  required : Bool
deriving Repr, DecidableEq

/-- The parameters of a command. -/
structure Grammar where
  options : List Parameter
  positional : Option Parameter

structure Reading where
  /-- What has been entered, flags with an empty text. -/
  given : List (String × String)
  /-- A parameter that is still to be entered, with its value if there is one yet. -/
  pending : Option (Parameter × Option String)
  /-- Whether all further arguments are values. -/
  optionsEnded : Bool
  /-- The parameter that the next argument without a name is for. -/
  positional : Option Parameter

namespace Reading

def start (grammar : Grammar) : Reading :=
  ⟨[], none, false, grammar.positional⟩

def isGiven (reading : Reading) (parameter : Parameter) : Bool :=
  reading.given.any fun entry => entry.1 == parameter.name

def give (reading : Reading) (parameter : Parameter) (value : Option String) :
    Except UsageFault Reading := do
  let text ← match value, parameter.kind with
    | some text, _ => pure text
    | none, .flag => pure ""
    | none, _ => throw .invalidValue
  if parameter.kind ≠ .list && reading.isGiven parameter then throw .givenTwice
  if parameter.kind = .path && text.isEmpty then throw .invalidValue
  return { reading with given := reading.given ++ [(parameter.name, text)] }

def settle (reading : Reading) : Except UsageFault Reading :=
  match reading.pending with
  | none => .ok reading
  | some (parameter, value) => { reading with pending := none }.give parameter value

def wishForHelp (reading : Reading) : Except UsageFault Reading := do
  let _ ← reading.settle
  throw .help

/-- Reads an option, whose name may be followed by an equals sign and a value. -/
def option (grammar : Grammar) (reading : Reading) (name : String) (value : Option String) :
    Except UsageFault Reading :=
  match grammar.options.find? fun parameter => parameter.name == name with
  | none =>
      if name ≠ "help" then .error .unknownArgument
      else if value.isSome then .error .tooManyValues
      else reading.wishForHelp
  | some parameter =>
      match parameter.kind, value with
      | .flag, some _ => .error .tooManyValues
      | .flag, none => do (← reading.settle).give parameter none
      | _, some value => do (← reading.settle).give parameter (some value)
      | _, none => do return { ← reading.settle with pending := some (parameter, none) }

def plain (reading : Reading) (argument : String) : Except UsageFault Reading :=
  match reading.pending, reading.optionsEnded with
  | some (parameter, none), false =>
      .ok { reading with pending := some (parameter, some argument) }
  | _, _ =>
      match reading.positional with
      | none => .error .unknownArgument
      | some parameter => do
          return { ← reading.settle with
            pending := some (parameter, some argument), positional := none }

def step (grammar : Grammar) (reading : Reading) (argument : String) :
    Except UsageFault Reading :=
  if reading.optionsEnded then reading.plain argument
  else match argument.toList with
    | ['-', '-'] => .ok { reading with optionsEnded := true }
    | '-' :: '-' :: rest =>
        let value := (rest.dropWhile (· != '=')).drop 1
        let hasValue := rest.contains '='
        reading.option grammar (String.ofList (rest.takeWhile (· != '=')))
          (if hasValue then some (String.ofList value) else none)
    | ['-'] => reading.plain argument
    | '-' :: 'h' :: _ => reading.wishForHelp
    | '-' :: _ => .error .unknownArgument
    | _ => reading.plain argument

def ofArguments (grammar : Grammar) (arguments : List String) : Except UsageFault Reading := do
  let reading ← arguments.foldlM (step grammar) (start grammar)
  let reading ← reading.settle
  if (grammar.options ++ grammar.positional.toList).any fun parameter =>
      parameter.required && !reading.isGiven parameter then throw .missingArgument
  return reading

def value? (reading : Reading) (name : String) : Option String :=
  reading.given.lookup name

def values (reading : Reading) (name : String) : List String :=
  reading.given.filterMap fun entry => if entry.1 = name then some entry.2 else none

end Reading

namespace Command

def serveGrammar : Grammar :=
  ⟨[⟨"config", .path, false⟩, ⟨"bind", .text, false⟩, ⟨"dry-run", .flag, false⟩], none⟩

def runGrammar : Grammar :=
  ⟨[⟨"event", .text, true⟩, ⟨"payload", .path, true⟩, ⟨"rules", .path, true⟩,
    ⟨"file", .list, false⟩], none⟩

def validateGrammar : Grammar :=
  ⟨[], some ⟨"rules file", .path, true⟩⟩

def names : List String := ["serve", "run", "validate"]

/-- What is asked for help about must be a command, or help itself. -/
def helpAbout : List String → UsageFault
  | [] => .help
  | [name] => if (names ++ ["help"]).contains name then .help else .unknownCommand
  | _ => .unknownCommand

def serveOf (reading : Reading) : Command :=
  .serve ⟨reading.value? "config", reading.value? "bind", (reading.value? "dry-run").isSome⟩

def runOf (reading : Reading) : Command :=
  .run ⟨(reading.value? "event").getD "", (reading.value? "payload").getD "",
    (reading.value? "rules").getD "", reading.values "file"⟩

def validateOf (reading : Reading) : Command :=
  .validate ((reading.value? "rules file").getD "")

/-- Options that stand in front of the name of a command. -/
def leadingOption (argument : String) : UsageFault :=
  match argument.toList with
  | '-' :: '-' :: rest =>
      let name := String.ofList (rest.takeWhile (· != '='))
      if name ≠ "help" ∧ name ≠ "version" then .unknownArgument
      else if rest.contains '=' then .tooManyValues
      else if name = "help" then .help else .version
  | '-' :: 'h' :: _ => .help
  | '-' :: 'V' :: _ => .version
  | _ => .unknownArgument

def ofArguments (arguments : List String) : Except UsageFault Command :=
  match arguments with
  | [] | ["--"] => .error .nothingGiven
  | "--" :: argument :: _ =>
      .error (if (names ++ ["help"]).contains argument then .unknownArgument else .unknownCommand)
  | "serve" :: rest => (Reading.ofArguments serveGrammar rest).map serveOf
  | "run" :: rest => (Reading.ofArguments runGrammar rest).map runOf
  | "validate" :: rest => (Reading.ofArguments validateGrammar rest).map validateOf
  | "help" :: rest => .error (helpAbout rest)
  | argument :: _ =>
      if argument ≠ "-" ∧ argument.toList.head? = some '-' then .error (leadingOption argument)
      else .error .unknownCommand

end Command

end RepoRules.CommandLine
