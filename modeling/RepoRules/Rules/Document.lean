import RepoRules.Metadata.Headers
import RepoRules.Rules.EventKind
import RepoRules.Rules.Step
import RepoRules.Yaml.Decode

/-!
Rules documents. For every kind of event a document says what to do on which action; steps that
several actions share are predefined under a name.
-/

namespace RepoRules

/-- What a document says about an action: steps, the name of another action to use instead, or
something that is neither. -/
inductive ActionEntry where
  | sequence (steps : List Step)
  | alias (target : String)
  | other (text : String)

structure RuleDocument where
  revision : Int
  schemaVersion : Int
  ownerAlias : String
  metadata : MetadataSettings
  actions : EventKind → OrderedMap ActionEntry
  predefined : OrderedMap (List Step)

namespace RuleDocument

open Decode (Fault)

/-- Where a repository keeps its document. -/
def filePath : String := ".github/rulebot.yml"

/-- The oldest version of the format that is understood. -/
def minimumVersion : Int := 5

def metadataField (settings : MetadataSettings) (name : String) (node : Yaml.Node) :
    Except Fault MetadataSettings := do
  match name with
  | "headers" => return { settings with headers := ← node.list fun set => set.list Yaml.Node.text }
  | "contentUrlRegex" => return { settings with contentUrls := ← node.list Yaml.Node.text }
  | "parserRegex" => return { settings with parser := ← node.optional Yaml.Node.text }
  | _ => return settings

def settingsField (settings : MetadataSettings) (name : String) (node : Yaml.Node) :
    Except Fault MetadataSettings :=
  match name with
  | "docMetadata" =>
      node.record "DocMetadataSettings" ["headers", "contentUrlRegex", "parserRegex"] metadataField
        ⟨[], [], none⟩
  | _ => .ok settings

structure Draft where
  revision : Option Int
  schemaVersion : Option Int
  ownerAlias : Option String
  metadata : Option MetadataSettings
  predefined : OrderedMap Json
  actions : EventKind → OrderedMap Json

def Draft.setActions (draft : Draft) (kind : EventKind) (table : OrderedMap Json) : Draft :=
  { draft with actions := fun other => if other = kind then table else draft.actions other }

def draftField (draft : Draft) (name : String) (node : Yaml.Node) : Except Fault Draft := do
  match name with
  | "revision" => return { draft with revision := some (← node.signed) }
  | "schema-version" => return { draft with schemaVersion := some (← node.signed) }
  | "owner-ms-alias" => return { draft with ownerAlias := some (← node.text) }
  | "config" =>
      let settings ← node.record "SettingsConfig" ["docMetadata"] settingsField ⟨[], [], none⟩
      return { draft with metadata := some settings }
  | "predefined" => return { draft with predefined := ← node.map Yaml.Node.json }
  | _ =>
      match EventKind.all.find? fun kind => kind.name == name with
      | some kind => return draft.setActions kind (← node.map Yaml.Node.json)
      | none => return draft

def require (name : String) : Option α → Except Fault α
  | some value => .ok value
  | none => .error (.missingField name)

/-- Checks the patterns of the settings and that no header block is empty. -/
def validateSettings (settings : MetadataSettings) : Except DocumentFault Unit := do
  if let some source := settings.parser then
    match Pattern.parse source with
    | .error fault => throw (.metadataKeyPattern fault)
    | .ok pattern => if pattern.groupCount < 3 then throw .metadataKeyGroups
  for source in settings.contentUrls do
    match Pattern.parse source with
    | .error fault => throw (.contentUrlPattern fault)
    | .ok _ => pure ()
  if settings.headers.any List.isEmpty then throw .emptyHeaderSet

def entryOf : Json → ActionEntry
  | .array items => .sequence (Step.parseItems items)
  | .string target => .alias (Text.trim target)
  | .null => .other "null"
  | .object _ => .other "mapping"
  | scalar => .other scalar.compact

def predefinedOf (name : String) (value : Json) : Except DocumentFault (List Step) :=
  match Step.parseSequence value with
  | .ok steps => .ok steps
  | .error _ => .error (.predefinedNoSequence name)

def mapEntries (table : OrderedMap α) (read : String → α → β) : OrderedMap β :=
  ⟨table.entries.map fun entry => (entry.1, read entry.1 entry.2)⟩

/-- The version that a document declares, if it declares an integer of 64 bits. -/
def declaredVersion? (root : Yaml.Node) : Option Int :=
  match root.untagged with
  | .mapping entries =>
      match entries.find? fun entry => entry.1.same (.string "schema-version") with
      | some (_, value) =>
          match value.untagged with
          | .int number => if number ≤ Json.maxSigned then some number else none
          | _ => none
      | none => none
  | _ => none

def fieldNames : List String :=
  ["revision", "schema-version", "owner-ms-alias", "config", "predefined"] ++
    EventKind.all.map EventKind.name

def readDraft (root : Yaml.Node) : Except Fault Draft :=
  root.record "RawRuleDocument" fieldNames draftField
    ⟨none, none, none, none, .empty, fun _ => .empty⟩

def ofDraft (draft : Draft) : Except DocumentFault RuleDocument := do
  let revision ← (require "revision" draft.revision).mapError .shape
  let schemaVersion ← (require "schema-version" draft.schemaVersion).mapError .shape
  let ownerAlias ← (require "owner-ms-alias" draft.ownerAlias).mapError .shape
  let metadata ← (require "config" draft.metadata).mapError .shape
  validateSettings metadata
  let predefined ← draft.predefined.entries.mapM fun entry => do
    return (entry.1, ← predefinedOf entry.1 entry.2)
  return {
    revision, schemaVersion, ownerAlias, metadata
    actions := fun kind => mapEntries (draft.actions kind) fun _ value => entryOf value
    predefined := ⟨predefined⟩ }

/-- Reads a document. One of an older version is refused for that alone, whatever else it holds. -/
def parse (text : String) : Except RuleError RuleDocument :=
  match Yaml.Node.parse? text with
  | none => .error (.configParse .notYaml)
  | some root =>
      let tooOld := (declaredVersion? root).filter (· < minimumVersion)
      match tooOld with
      | some found => .error (.schemaTooOld found minimumVersion)
      | none =>
          match readDraft root with
          | .error fault => .error (.configParse (.shape fault))
          | .ok draft => (ofDraft draft).mapError .configParse

end RuleDocument

end RepoRules
