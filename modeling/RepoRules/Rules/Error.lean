import RepoRules.Decode.Fault
import RepoRules.Pattern.Syntax
import RepoRules.Query.Error
import RepoRules.Text.Pieces

/-!
What can go wrong while a rules document is read, compiled, resolved or evaluated. Every error
names its cause; codes and words are functions of the cause.
-/

namespace RepoRules

inductive DocumentFault where
  | notYaml
  | shape (fault : Decode.Fault)
  | metadataKeyPattern (fault : Pattern.Fault)
  | metadataKeyGroups
  | contentUrlPattern (fault : Pattern.Fault)
  | emptyHeaderSet
  | predefinedNoSequence (name : String)

def DocumentFault.message : DocumentFault → String
  | .notYaml => "<yaml>"
  | .shape fault => fault.message
  | .metadataKeyPattern fault => "config.docMetadata.parserRegex: " ++ fault.message
  | .metadataKeyGroups => "config.docMetadata.parserRegex must have two capture groups"
  | .contentUrlPattern fault => "config.docMetadata.contentUrlRegex: " ++ fault.message
  | .emptyHeaderSet => "config.docMetadata.headers entries must not be empty"
  | .predefinedNoSequence name => "predefined '" ++ name ++ "' must be a step sequence"

inductive BodyFault where
  | noScalar
  | noVariableMapping
  | noName
  | noValue
  | noFilesMapping
  | noPattern
  | noSteps
deriving Repr, DecidableEq

def BodyFault.message : BodyFault → String
  | .noScalar => "expected a scalar value"
  | .noVariableMapping => "expected a mapping with name and value"
  | .noName => "missing name"
  | .noValue => "missing value"
  | .noFilesMapping => "expected a mapping with pattern and steps"
  | .noPattern => "missing pattern"
  | .noSteps => "missing steps"

inductive StepFault where
  | noSequence
  | keyCount (keys : List String)
  | noEntry (text : String)
  | body (key : String) (fault : BodyFault)
  | filePattern (pattern : String) (fault : Pattern.Fault)
  | aliasTarget (name : String)

def StepFault.message : StepFault → String
  | .noSequence => "step sequence must be a list"
  | .keyCount keys => "a step must have exactly one key, found [" ++ ", ".intercalate keys ++ "]"
  | .noEntry text => "unexpected step value " ++ text
  | .body key fault => key ++ ": " ++ fault.message
  | .filePattern pattern fault => "invalid file pattern '" ++ pattern ++ "': " ++ fault.message
  | .aliasTarget name => "alias target of '" ++ name ++ "' is not configured"

/-- What a condition expects behind its key. -/
inductive Expectation where
  | text
  | texts
  | flag
  | nameAndValue
  | list
deriving Repr, DecidableEq

def Expectation.message : Expectation → String
  | .text => "a string"
  | .texts => "a string or a list of strings"
  | .flag => "a boolean"
  | .nameAndValue => "name and value"
  | .list => "a list"

inductive CheckFault where
  | emptyList
  | emptyMapping
  | unsupported (text : String)
  | expects (key : String) (expectation : Expectation)
  | missingName (key : String)
  | pattern (key : String) (fault : Pattern.Fault)
  | unknown (key : String)

def CheckFault.message : CheckFault → String
  | .emptyList => "empty condition list"
  | .emptyMapping => "empty condition mapping"
  | .unsupported text => "unsupported condition: " ++ text
  | .expects key expectation => key ++ " expects " ++ expectation.message
  | .missingName key => key ++ " missing name"
  | .pattern key fault => key ++ ": invalid pattern: " ++ fault.message
  | .unknown key => "unknown condition '" ++ key ++ "'"

/-- Why a query is refused or fails. -/
inductive QueryFault where
  | compilation (source : String)
  | evaluation (source : String) (error : Query.Error)

/-- The source up to the first quote that is followed by a colon and a blank: there the report of
a refused query ends. -/
def QueryFault.shown : List Char → List Char
  | [] => []
  | '\'' :: ':' :: ' ' :: _ => []
  | character :: rest => character :: QueryFault.shown rest

def QueryFault.message : QueryFault → String
  | .compilation source =>
      "compile error in '" ++ String.ofList (QueryFault.shown source.toList) ++ "': <detail>"
  | .evaluation source error => "'" ++ source ++ "': " ++ error.message

inductive RuleError where
  | configParse (fault : DocumentFault)
  | schemaTooOld (found minimum : Int)
  | invalidActionType (key : String)
  | invalidActionSubtype (family subtype : String)
  | malformedStep (fault : StepFault)
  | missingPredefined (name : String)
  | predefinedCycle (name : String)
  | invalidCheck (fault : CheckFault)
  | doubleRemap (source target : String)
  | selfRemap (name : String)
  | notASequence (name : String)
  | query (fault : QueryFault)

namespace RuleError

def code : RuleError → String
  | .configParse _ => "RULE-CFG-001"
  | .schemaTooOld .. => "RULE-CFG-002"
  | .invalidActionType _ => "RULE-BUILD-001"
  | .invalidActionSubtype .. => "RULE-BUILD-002"
  | .malformedStep _ => "RULE-BUILD-003"
  | .missingPredefined _ => "RULE-BUILD-004"
  | .predefinedCycle _ => "RULE-BUILD-005"
  | .invalidCheck _ => "RULE-BUILD-006"
  | .doubleRemap .. => "RULE-RESOLVE-001"
  | .selfRemap _ => "RULE-RESOLVE-002"
  | .notASequence _ => "RULE-RESOLVE-003"
  | .query _ => "RULE-QUERY-001"

def message : RuleError → String
  | .configParse fault => "failed to parse rules document: " ++ fault.message
  | .schemaTooOld found minimum =>
      "schema out of date: document declares schema-version " ++ toString found ++
        ", engine requires at least " ++ toString minimum
  | .invalidActionType key => "invalid action type '" ++ key ++ "'"
  | .invalidActionSubtype family subtype =>
      "invalid action subtype '" ++ subtype ++ "' for '" ++ family ++ "'"
  | .malformedStep fault => "malformed step: " ++ fault.message
  | .missingPredefined name => "predefined sequence '" ++ name ++ "' is not defined"
  | .predefinedCycle name => "predefined sequence '" ++ name ++ "' includes itself"
  | .invalidCheck fault => "invalid check: " ++ fault.message
  | .doubleRemap source target =>
      "action '" ++ source ++ "' remaps to '" ++ target ++ "', which is itself a remap"
  | .selfRemap name => "action '" ++ name ++ "' remaps to itself"
  | .notASequence name => "action '" ++ name ++ "' is neither a step sequence nor an alias"
  | .query fault => "query failed: " ++ fault.message

end RuleError

end RepoRules
