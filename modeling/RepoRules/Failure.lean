import RepoRules.OrderedMap
import RepoRules.Rules.Error
import RepoRules.Text.Quoted

/-!
Failures of the service. Each has a category, which decides how serious it is and who is to blame,
a code, a message, and what was being done when it arose.
-/

namespace RepoRules

inductive Category where
  | validation
  | configuration
  | compilation
  | resolution
  | query
  | remote
  | forbidden
  | authentication
  | serialization
  | io
  | internal
  | unknown
deriving Repr, DecidableEq

inductive Severity where
  | error
  | warning
  | info
deriving Repr, DecidableEq

namespace Category

def all : List Category :=
  [.validation, .configuration, .compilation, .resolution, .query, .remote, .forbidden,
    .authentication, .serialization, .io, .internal, .unknown]

def name : Category → String
  | .validation => "ValidationError"
  | .configuration => "ConfigurationError"
  | .compilation => "CompilationError"
  | .resolution => "ResolutionError"
  | .query => "QueryError"
  | .remote => "UpstreamError"
  | .forbidden => "ForbiddenError"
  | .authentication => "AuthenticationError"
  | .serialization => "SerializationError"
  | .io => "IoError"
  | .internal => "InternalError"
  | .unknown => "Unknown"

def severity : Category → Severity
  | .compilation => .warning
  | .unknown => .info
  | _ => .error

/-- Whether the rules of the repository are to blame, and not the service. -/
def isRuleFailure : Category → Bool
  | .configuration | .compilation | .resolution | .query => true
  | _ => false

end Category

def Severity.name : Severity → String
  | .error => "Error"
  | .warning => "Warning"
  | .info => "Info"

/-- A code that was given, or one that is made up so that it occurs only once. -/
inductive FailureCode where
  | generated
  | named (code : String)
deriving Repr, DecidableEq

def FailureCode.text : FailureCode → String
  | .generated => "ERR-*"
  | .named code => code

structure Failure where
  category : Category
  severity : Severity
  code : FailureCode
  message : String
  context : OrderedMap String
  source : Option String
deriving Repr

namespace Failure

def of (category : Category) (message : String) : Failure :=
  ⟨category, category.severity, .generated, message, .empty, none⟩

def withCode (failure : Failure) (code : String) : Failure :=
  { failure with code := .named code }

def addContext (failure : Failure) (name text : String) : Failure :=
  { failure with context := failure.context.insert name text }

def withContext (failure : Failure) (text : String) : Failure :=
  failure.addContext "context" text

def withSource (failure : Failure) (source : String) : Failure :=
  { failure with source := some source }

def ofIo (message : String) : Failure :=
  ((of .io message).withCode "IO_ERROR").withSource message

def ofMessage (message : String) : Failure :=
  ((of .internal message).withCode "ANYHOW_ERROR").withSource message

def contextText (context : OrderedMap String) : String :=
  let entries := context.entries.map fun entry =>
    Text.quoted entry.1 ++ ": " ++ Text.quoted entry.2
  " (Context: \x7b" ++ ", ".intercalate entries ++ "\x7d)"

def display (failure : Failure) : String :=
  let context := if failure.context.isEmpty then "" else contextText failure.context
  let source := match failure.source with
    | some text => "\nCaused by: " ++ text
    | none => ""
  "[" ++ failure.code.text ++ "] " ++ failure.category.name ++ ": " ++ failure.message ++ context ++
    source

end Failure

def RuleError.category : RuleError → Category
  | .configParse _ | .schemaTooOld _ _ => .configuration
  | .invalidActionType _ | .invalidActionSubtype _ _ | .malformedStep _ | .missingPredefined _
  | .predefinedCycle _ | .invalidCheck _ => .compilation
  | .doubleRemap _ _ | .selfRemap _ | .notASequence _ => .resolution
  | .query _ => .query

def Failure.ofRule (error : RuleError) : Failure :=
  (Failure.of error.category error.message).withCode error.code

end RepoRules
