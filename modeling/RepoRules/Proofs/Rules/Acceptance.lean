import RepoRules.Metadata.Extract
import RepoRules.Proofs.Rules.Reading
import RepoRules.Proofs.Yaml.Keys

/-!
What can be relied on in a document that was accepted: its version, and that its patterns compile
and its header blocks are not empty. Where fields are looked for later on, the patterns are compiled
once more; the answers for those that do not compile are never given.
-/

namespace RepoRules

theorem Yaml.Node.same_string {key : Yaml.Node} {name : String} :
    key.same (.string name) = true ↔ key = .string name := by
  cases key <;> simp [same]

namespace Headers

def firstLine? (block : List String) : (lines : List String) → Option Nat
  | [] => none
  | line :: lines =>
      if beginsWith block (line :: lines) then some 0 else (firstLine? block lines).map (· + 1)

/-- Looks for a header block with a parser that is at hand, where no block is empty. -/
def scanWith (parser : Pattern) (sets : List (List String)) (body : String) :
    Option HeaderMatch := do
  let lines := Text.lines body
  let (block, first) ←
    sets.findSome? fun block => (firstLine? block lines).map fun first => (block, first)
  let stop := first + block.length
  return ⟨fieldsOf parser (lines.drop stop), (lines.drop first).take block.length⟩

theorem find_block_eq {block : List String} (filled : block ≠ []) (lines : List String) :
    findBlock? block lines = firstLine? block lines := by
  have given : block.isEmpty = false := by
    rwa [List.isEmpty_eq_false_iff]
  induction lines with
  | nil => rfl
  | cons line rest induction =>
      rw [findBlock?, firstLine?, given, induction]
      rfl

theorem find_set_eq {sets : List (List String)} (filled : ∀ block ∈ sets, block ≠ [])
    (lines : List String) :
    findSet? lines sets =
      sets.findSome? fun block => (firstLine? block lines).map fun first => (block, first) := by
  induction sets with
  | nil => rfl
  | cons block rest induction =>
      rw [findSet?, find_block_eq (filled block List.mem_cons_self), List.findSome?_cons,
        induction fun other member => filled other (List.mem_cons_of_mem _ member)]
      cases firstLine? block lines with
      | none => rfl
      | some first => rfl

theorem scan_eq {settings : MetadataSettings} {source : String} {parser : Pattern}
    (given : settings.parser = some source) (compiled : Pattern.parse source = .ok parser)
    (filled : ∀ block ∈ settings.headers, block ≠ []) (body : String) :
    scan settings body = scanWith parser settings.headers body := by
  simp only [scan, scanWith, given, compiled, find_set_eq filled, Except.toOption,
    Option.bind_eq_bind, Option.bind_some]

theorem content_url_eq {sources : List String} {patterns : List Pattern}
    (compiled :
      List.Forall₂ (fun source pattern => Pattern.parse source = .ok pattern) sources patterns)
    (text : String) :
    contentUrl? sources text = patterns.findSome? fun pattern => pattern.firstText? text := by
  unfold contentUrl?
  induction compiled with
  | nil => rfl
  | @cons source pattern _ _ first _ induction =>
      rw [List.findSome?_cons, List.findSome?_cons, first, induction]

end Headers

namespace RuleDocument

section Settings

theorem compiled_of_loop {sources : List String} {last : Unit}
    (checked : (forIn sources () fun source _ =>
      match Pattern.parse source with
      | .error fault => do
          throw (.contentUrlPattern fault)
          pure (.yield ())
      | .ok _ => pure (.yield ()) : Except DocumentFault Unit) = .ok last) :
    ∃ patterns, List.Forall₂ (fun source pattern => Pattern.parse source = .ok pattern) sources
      patterns := by
  induction sources with
  | nil => exact ⟨[], .nil⟩
  | cons source rest induction =>
      rw [List.forIn_cons] at checked
      obtain ⟨_, first, others⟩ := bind_eq_ok checked
      cases compiled : Pattern.parse source with
      | error fault =>
          rw [compiled] at first
          cases first
      | ok pattern =>
          rw [compiled] at first
          cases first
          obtain ⟨patterns, behind⟩ := induction others
          exact ⟨pattern :: patterns, .cons compiled behind⟩

theorem validate_settings_eq_ok {settings : MetadataSettings}
    (valid : validateSettings settings = .ok ()) :
    (∀ source, settings.parser = some source →
      ∃ pattern, Pattern.parse source = .ok pattern ∧ 3 ≤ pattern.groupCount) ∧
    (∃ patterns, List.Forall₂ (fun source pattern => Pattern.parse source = .ok pattern)
      settings.contentUrls patterns) ∧
    ∀ block ∈ settings.headers, block ≠ [] := by
  unfold validateSettings at valid
  -- the checks behind that of the parser are the same whether or not there is one
  extract_lets rest at valid
  have others (checked : rest () = .ok ()) :
      (∃ patterns, List.Forall₂ (fun source pattern => Pattern.parse source = .ok pattern)
        settings.contentUrls patterns) ∧ ∀ block ∈ settings.headers, block ≠ [] := by
    obtain ⟨_, compiled, filled⟩ := bind_eq_ok checked
    refine ⟨compiled_of_loop compiled, ?_⟩
    split at filled
    · cases filled
    · next none =>
        intro block member empty
        exact none (List.any_eq_true.2 ⟨block, member, List.isEmpty_iff.2 empty⟩)
  cases given : settings.parser with
  | none =>
      rw [given] at valid
      exact ⟨nofun, others valid⟩
  | some source =>
      rw [given] at valid
      dsimp only at valid
      cases compiled : Pattern.parse source with
      | error fault =>
          rw [compiled] at valid
          cases valid
      | ok pattern =>
          rw [compiled] at valid
          dsimp only at valid
          split at valid
          · cases valid
          · next groups =>
              refine ⟨?_, others valid⟩
              rintro _ ⟨⟩
              exact ⟨pattern, compiled, Nat.le_of_not_lt groups⟩

end Settings

section Versions

/-- A document has an integer under the key of its version. A tag of the document's own may stand in
front of the key. -/
def Declares (root key : Yaml.Node) (number : Int) : Prop :=
  ∃ entries value, root.untagged = .mapping entries ∧ (key, value) ∈ entries ∧
    key.untagged = .string "schema-version" ∧ value.untagged = .int number

theorem signed_eq_ok {node : Yaml.Node} {number : Int} (read : node.signed = .ok number) :
    node.untagged = .int number ∧ number ≤ Json.maxSigned := by
  unfold Yaml.Node.signed at read
  split at read
  · next held =>
      split at read
      · next small =>
          cases read
          exact ⟨held, small⟩
      · cases read
  · cases read

theorem declared_version_eq_some_iff {root : Yaml.Node} (distinct : root.Distinct) {number : Int} :
    declaredVersion? root = some number ↔
      Declares root (.string "schema-version") number ∧ number ≤ Json.maxSigned := by
  constructor
  · intro found
    unfold declaredVersion? at found
    split at found
    · next entries mapping =>
        split at found
        · next key value entry =>
            have named := List.find?_some entry
            have member := List.mem_of_find?_eq_some entry
            obtain rfl := Yaml.Node.same_string.1 named
            split at found
            · next declared held =>
                split at found
                · next small =>
                    cases found
                    exact ⟨⟨entries, value, mapping, member, rfl, held⟩, small⟩
                · cases found
            · cases found
        · cases found
    · cases found
  · rintro ⟨⟨entries, value, mapping, member, -, held⟩, small⟩
    have found : entries.find? (fun entry => entry.1.same (.string "schema-version")) =
        some (.string "schema-version", value) := by
      obtain ⟨before, behind, rfl⟩ := List.append_of_mem member
      refine List.find?_eq_some_iff_append.2 ⟨Yaml.Node.same_string.2 rfl, before, behind, rfl, ?_⟩
      intro entry early
      have apart :=
        (List.pairwise_append.1 (distinct _ mapping)).2.2 entry early _ List.mem_cons_self
      rw [apart]
      rfl
    unfold declaredVersion?
    rw [mapping]
    dsimp only
    rw [found]
    dsimp only
    rw [held]
    exact if_pos small

def IsVersion (entry : Yaml.Node × Yaml.Node) : Prop :=
  entry.1.untagged = .string "schema-version"

/-- What has been read of a document: the names of all keys are known, and the version, if there is
one, is that of the only entry for it. -/
structure ReadsVersion (entries : List (Yaml.Node × Yaml.Node)) (read : Draft × List String) :
    Prop where
  names : ∀ entry ∈ entries, ∀ name, entry.1.untagged = .string name → name ∈ read.2
  single : ∀ entry ∈ entries, ∀ other ∈ entries, IsVersion entry → IsVersion other → entry = other
  version : ∀ number, read.1.schemaVersion = some number →
    ∃ entry ∈ entries, IsVersion entry ∧ entry.2.signed = .ok number

theorem version_of_field {draft after : Draft} {name : String} {node : Yaml.Node} {number : Int}
    (read : draftField draft name node = .ok after) (version : after.schemaVersion = some number) :
    draft.schemaVersion = some number ∨ name = "schema-version" ∧ node.signed = .ok number := by
  unfold draftField at read
  split at read
  case h_2 =>
    obtain ⟨value, taken, read⟩ := bind_eq_ok read
    cases read
    cases version
    exact .inr ⟨rfl, taken⟩
  case h_6 =>
    split at read
    · obtain ⟨table, _, read⟩ := bind_eq_ok read
      cases read
      exact .inl version
    · cases read
      exact .inl version
  all_goals
    obtain ⟨value, _, read⟩ := bind_eq_ok read
    cases read
    exact .inl version

theorem ReadsVersion.add {done : List (Yaml.Node × Yaml.Node)} {read after : Draft × List String}
    {entry : Yaml.Node × Yaml.Node} (reads : ReadsVersion done read)
    (entered : Yaml.Node.recordField fieldNames draftField read entry = .ok after) :
    ReadsVersion (done ++ [entry]) after := by
  obtain ⟨key, draft, named, free, taken, rfl⟩ := Yaml.Node.record_field_eq_ok entered
  constructor
  case names =>
    intro other member name text
    rcases List.mem_append.1 member with early | late
    · exact List.mem_cons_of_mem _ (reads.names other early name text)
    · rw [List.mem_singleton.1 late, named] at text
      cases text
      exact List.mem_cons_self
  case single =>
    have new : ∀ other ∈ done, IsVersion other → ¬ IsVersion entry := by
      intro other member early late
      -- a second field of this name would have been refused, with or without a tag
      rw [IsVersion, named] at late
      cases late
      exact free (by decide) (reads.names other member _ early)
    intro first member second present here there
    rcases List.mem_append.1 member with before | last
    · rcases List.mem_append.1 present with early | late
      · exact reads.single first before second early here there
      · rw [List.mem_singleton.1 late] at there
        exact absurd there (new first before here)
    · rw [List.mem_singleton.1 last] at here ⊢
      rcases List.mem_append.1 present with early | late
      · exact absurd here (new second early there)
      · exact (List.mem_singleton.1 late).symm
  case version =>
    intro number version
    rcases version_of_field taken version with before | ⟨rfl, signed⟩
    · obtain ⟨other, member, found⟩ := reads.version number before
      exact ⟨other, List.mem_append_left _ member, found⟩
    · exact ⟨entry, List.mem_append_right _ List.mem_cons_self, named, signed⟩

theorem reads_version_of_fold {entries : List (Yaml.Node × Yaml.Node)}
    {start last : Draft × List String} {done : List (Yaml.Node × Yaml.Node)}
    (reads : ReadsVersion done start)
    (folded : entries.foldlM (Yaml.Node.recordField fieldNames draftField) start = .ok last) :
    ReadsVersion (done ++ entries) last := by
  induction entries generalizing start done with
  | nil =>
      cases folded
      rwa [List.append_nil]
  | cons entry rest induction =>
      rw [List.foldlM_cons] at folded
      obtain ⟨middle, first, others⟩ := bind_eq_ok folded
      have behind := induction (reads.add first) others
      rwa [List.append_assoc] at behind

/-- The version of a draft is the only one in the document. -/
theorem version_of_read_draft {root : Yaml.Node} {draft : Draft} {number : Int}
    (read : readDraft root = .ok draft) (version : draft.schemaVersion = some number) :
    number ≤ Json.maxSigned ∧ ∃ key, Declares root key number ∧
      ∀ other declared, Declares root other declared → other = key ∧ declared = number := by
  obtain ⟨entries, mapping, read⟩ := bind_eq_ok read
  obtain ⟨last, folded, read⟩ := bind_eq_ok read
  cases read
  have empty : ReadsVersion [] (⟨none, none, none, none, .empty, fun _ => .empty⟩, []) :=
    ⟨List.forall_mem_nil _, List.forall_mem_nil _, by rintro _ ⟨⟩⟩
  have reads : ReadsVersion entries last := reads_version_of_fold empty folded
  obtain ⟨⟨key, value⟩, member, named, signed⟩ := reads.version number version
  obtain ⟨held, small⟩ := signed_eq_ok signed
  have shape : root.untagged = .mapping entries := by
    unfold Yaml.Node.entries at mapping
    split at mapping
    · next same =>
        cases mapping
        exact same
    · cases mapping
      cases member
    · cases mapping
  refine ⟨small, key, ⟨entries, value, shape, member, named, held⟩, ?_⟩
  rintro other declared ⟨others, found, same, present, again, holds⟩
  cases shape.symm.trans same
  cases reads.single _ member _ present named again
  cases held.symm.trans holds
  exact ⟨rfl, rfl⟩

end Versions

section Acceptance

theorem require_eq_ok {α : Type} {name : String} {value : Option α} {found : α}
    (given : (require name value).mapError DocumentFault.shape = .ok found) :
    value = some found := by
  cases value with
  | none => cases given
  | some value =>
      cases given
      rfl

theorem of_draft_eq_ok {draft : Draft} {document : RuleDocument}
    (read : ofDraft draft = .ok document) :
    draft.schemaVersion = some document.schemaVersion ∧
      validateSettings document.metadata = .ok () := by
  unfold ofDraft at read
  obtain ⟨revision, _, read⟩ := bind_eq_ok read
  obtain ⟨version, versioned, read⟩ := bind_eq_ok read
  obtain ⟨owner, _, read⟩ := bind_eq_ok read
  obtain ⟨settings, _, read⟩ := bind_eq_ok read
  obtain ⟨_, valid, read⟩ := bind_eq_ok read
  obtain ⟨sequences, _, read⟩ := bind_eq_ok read
  cases read
  exact ⟨require_eq_ok versioned, valid⟩

theorem parse_eq_ok {text : String} {document : RuleDocument} (parsed : parse text = .ok document) :
    ∃ root draft, Yaml.Node.parse? text = some root ∧
      (declaredVersion? root).filter (· < minimumVersion) = none ∧
      readDraft root = .ok draft ∧ ofDraft draft = .ok document := by
  unfold parse at parsed
  cases tree : Yaml.Node.parse? text with
  | none =>
      rw [tree] at parsed
      cases parsed
  | some root =>
      rw [tree] at parsed
      dsimp only at parsed
      split at parsed
      · cases parsed
      · next recent =>
          cases read : readDraft root with
          | error fault =>
              rw [read] at parsed
              cases parsed
          | ok draft =>
              rw [read] at parsed
              exact ⟨root, draft, rfl, recent, read, map_error_eq_ok parsed⟩

/-- What later stages rely on in a document that was read from a text. The number of groups of a
pattern counts the whole match as one. -/
structure Accepted (text : String) (document : RuleDocument) : Prop where
  /-- The version is the only one declared; it is recent enough unless its key is tagged. -/
  version : ∃ root key, Yaml.Node.parse? text = some root ∧
    Declares root key document.schemaVersion ∧
    (∀ other number, Declares root other number → other = key ∧ number = document.schemaVersion) ∧
    (key = .string "schema-version" → 5 ≤ document.schemaVersion)
  parser : ∀ source, document.metadata.parser = some source → ∃ pattern,
    Pattern.parse source = .ok pattern ∧ 3 ≤ pattern.groupCount ∧
    ∀ body, Headers.scan document.metadata body =
      Headers.scanWith pattern document.metadata.headers body
  contentUrls : ∃ patterns,
    List.Forall₂ (fun source pattern => Pattern.parse source = .ok pattern)
      document.metadata.contentUrls patterns ∧
    ∀ text, Headers.contentUrl? document.metadata.contentUrls text =
      patterns.findSome? fun pattern => pattern.firstText? text
  headers : ∀ block ∈ document.metadata.headers, block ≠ [] ∧
    ∀ lines, Headers.findBlock? block lines = Headers.firstLine? block lines

theorem accepted_of_parse {text : String} {document : RuleDocument}
    (parsed : parse text = .ok document) : Accepted text document := by
  obtain ⟨root, draft, tree, recent, read, made⟩ := parse_eq_ok parsed
  obtain ⟨version, valid⟩ := of_draft_eq_ok made
  obtain ⟨small, key, declares, only⟩ := version_of_read_draft read version
  obtain ⟨parser, ⟨patterns, compiled⟩, filled⟩ := validate_settings_eq_ok valid
  constructor
  case version =>
    refine ⟨root, key, tree, declares, only, ?_⟩
    rintro rfl
    have found := (declared_version_eq_some_iff (Yaml.Node.distinct_of_parse tree)).2
      ⟨declares, small⟩
    rw [found, Option.filter_some] at recent
    by_contra old
    have less : document.schemaVersion < minimumVersion := Int.not_le.1 old
    simp [less] at recent
  case parser =>
    intro source given
    obtain ⟨pattern, readable, groups⟩ := parser source given
    exact ⟨pattern, readable, groups, Headers.scan_eq given readable filled⟩
  case contentUrls => exact ⟨patterns, compiled, Headers.content_url_eq compiled⟩
  case headers => exact fun block member =>
    ⟨filled block member, Headers.find_block_eq (filled block member)⟩

/-- A text that is refused for its version is so whatever else it holds. Later stages can rely on a
document that is accepted, but for a version whose key is tagged. -/
theorem accepted_documents (text : String) :
    (∀ root number, Yaml.Node.parse? text = some root →
      Declares root (.string "schema-version") number → number < 5 →
        parse text = .error (.schemaTooOld number 5)) ∧
    ∀ document, parse text = .ok document → Accepted text document := by
  refine ⟨?_, fun document => accepted_of_parse⟩
  intro root number tree declares old
  have small : number ≤ Json.maxSigned := by
    exact Int.le_trans (Int.le_of_lt old) (by decide)
  have found := (declared_version_eq_some_iff (Yaml.Node.distinct_of_parse tree)).2
    ⟨declares, small⟩
  have tooOld : (declaredVersion? root).filter (· < minimumVersion) = some number := by
    rw [found, Option.filter_some, if_pos]
    exact decide_eq_true old
  unfold parse
  rw [tree]
  dsimp only
  rw [tooOld]
  rfl

def fieldsUnderHeading : String :=
  "revision: 1\nschema-version: 5\nowner-ms-alias: a\nconfig:\n  docMetadata:\n" ++
    "    headers: [[b]]\n    parserRegex: (k)=(v)\n    contentUrlRegex: [url]\n"

/-- A version of four is refused, though all other fields are missing; a document of version five is
accepted, and its pattern for fields can be relied on. -/
theorem four_is_refused_and_five_accepted :
    parse "schema-version: 4" = .error (.schemaTooOld 4 5) ∧
      ∃ document, parse fieldsUnderHeading = .ok document ∧ Accepted fieldsUnderHeading document ∧
        document.schemaVersion = 5 ∧ document.metadata.parser = some "(k)=(v)" := by
  constructor
  · have read : (Yaml.Node.parse? "schema-version: 4").bind declaredVersion? = some 4 := by
      decide +kernel
    obtain ⟨root, tree, found⟩ := Option.bind_eq_some_iff.1 read
    obtain ⟨declares, _⟩ :=
      (declared_version_eq_some_iff (Yaml.Node.distinct_of_parse tree)).1 found
    exact (accepted_documents _).1 root 4 tree declares (by decide)
  · have read : (parse fieldsUnderHeading).toOption.any (fun document =>
        document.schemaVersion == 5 && document.metadata.parser == some "(k)=(v)") =
          true := by decide +kernel
    obtain ⟨document, parsed, same⟩ := (Option.any_eq_true _ _).1 read
    rw [Bool.and_eq_true, beq_iff_eq, beq_iff_eq] at same
    have accepted := to_option_eq_some parsed
    exact ⟨document, accepted, (accepted_documents _).2 document accepted, same⟩

/-- With a tag in front of its key, an old version is accepted. -/
theorem tagged_version_is_accepted :
    ¬ ∀ text document, parse text = .ok document → 5 ≤ document.schemaVersion := by
  intro recent
  have read :
      (parse "!v schema-version: 3\nrevision: 1\nowner-ms-alias: a\nconfig: \x7b\x7d").toOption.any
        (fun document => document.schemaVersion == 3) = true := by decide +kernel
  obtain ⟨document, parsed, same⟩ := (Option.any_eq_true _ _).1 read
  rw [beq_iff_eq] at same
  have least := recent _ document (to_option_eq_some parsed)
  rw [same] at least
  exact absurd least (by decide)

end Acceptance

end RuleDocument

end RepoRules
