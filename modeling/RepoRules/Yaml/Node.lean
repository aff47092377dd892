import RepoRules.Decode.Fault
import RepoRules.OrderedMap
import RepoRules.Yaml.Plain
import RepoRules.Yaml.Token

/-!
The tree that a YAML text stands for. Plain scalars are read for what they mean unless a tag says
otherwise. Mappings keep the order of their entries and have no two equal keys. The text is first
composed into a draft, in which aliases still stand; then every alias is replaced by the node that
its anchor marks, as long as the text does not repeat itself too often.
-/

namespace RepoRules.Yaml

inductive Node where
  | null
  | bool (flag : Bool)
  | int (number : Int)
  | float (number : Float)
  | string (text : String)
  | sequence (items : List Node)
  | mapping (entries : List (Node × Node))
  | tagged (tag : String) (node : Node)

namespace Node

mutual

/-- Whether two nodes are the same key. One not-a-number equals another. -/
def same : Node → Node → Bool
  | .null, .null => true
  | .bool left, .bool right => left == right
  | .int left, .int right => left == right
  | .float left, .float right => left == right || (left.isNaN && right.isNaN)
  | .string left, .string right => left == right
  | .sequence left, .sequence right => sameItems left right
  | .mapping left, .mapping right => left.length == right.length && sameEntries left right
  | .tagged left inner, .tagged right other => left == right && inner.same other
  | _, _ => false

def sameItems : List Node → List Node → Bool
  | [], [] => true
  | left :: lefts, right :: rights => left.same right && sameItems lefts rights
  | _, _ => false

/-- Every entry on the left has its like on the right, whatever the order. -/
def sameEntries : List (Node × Node) → List (Node × Node) → Bool
  | [], _ => true
  | (key, value) :: rest, right =>
      (right.any fun entry => key.same entry.1 && value.same entry.2) && sameEntries rest right

end

/-- Adds an entry at the end; a key that is there already is refused. -/
def addEntry? (entries : List (Node × Node)) (key value : Node) : Option (List (Node × Node)) :=
  if entries.any fun entry => entry.1.same key then none else some (entries ++ [(key, value)])

end Node

/-- What a tag asks of the node it stands at. -/
inductive TagKind where
  | absent
  | bool
  | int
  | float
  | null
  | foreign
  | own (name : String)

def TagKind.of (tag : Option String) : TagKind :=
  match tag with
  | none => .absent
  | some "tag:yaml.org,2002:bool" => .bool
  | some "tag:yaml.org,2002:int" => .int
  | some "tag:yaml.org,2002:float" => .float
  | some "tag:yaml.org,2002:null" => .null
  | some name =>
      match name.toList with
      | ['!'] => .own "!"
      | '!' :: rest => .own (String.ofList rest)
      | _ => .foreign

/-- The meaning of a plain scalar as a node; an integer beyond 64 bits has none. -/
def ofPlain? (text : String) : Option Node :=
  match Plain.read text with
  | .null => some .null
  | .bool flag => some (.bool flag)
  | .int number => some (.int number)
  | .float number => some (.float number)
  | .text => some (.string text)
  | .oversized => none

/-- The node that a scalar stands for under a tag. The core tags ask for a value of their type; a
tag of the document's own is kept. -/
def ofScalar? (tag : TagKind) (text : String) (isPlain : Bool) : Option Node :=
  let untagged := if isPlain then ofPlain? text else some (.string text)
  match tag with
  | .absent => untagged
  | .bool => (Plain.bool? text).map Node.bool
  | .int =>
      match (Plain.integer? text.toList).map Plain.ofInteger with
      | some (.int number) => some (.int number)
      | _ => none
  | .float => (Plain.float? text).map Node.float
  | .null => if Plain.isNullText text then some .null else none
  | .foreign => some (.string text)
  | .own name => untagged.map (Node.tagged name)

/-- A collection under a tag. -/
def ofCollection (tag : TagKind) (node : Node) : Node :=
  match tag with
  | .own name => .tagged name node
  | _ => node

/-- A node as it is written, with the aliases in it. -/
inductive Draft where
  | alias (mark : Nat)
  | scalar (node : Node)
  | sequence (tag : TagKind) (items : List Draft)
  | mapping (tag : TagKind) (entries : List (Draft × Draft))

namespace Draft

/-- The draft of a node that is left out. -/
def null : Draft := .scalar .null

mutual

/-- How many events write a draft down: a collection starts and ends. -/
def events : Draft → Nat
  | .alias _ | .scalar _ => 1
  | .sequence _ items => eventsOfItems items + 2
  | .mapping _ entries => eventsOfEntries entries + 2

def eventsOfItems : List Draft → Nat
  | [] => 0
  | draft :: rest => draft.events + eventsOfItems rest

def eventsOfEntries : List (Draft × Draft) → Nat
  | [] => 0
  | (key, value) :: rest => key.events + value.events + eventsOfEntries rest

end

end Draft

/-- Tokens still to read, the handles of tags, the marks that the names of anchors have, and the
drafts that the marks stand for. -/
structure Composer where
  tokens : List Token
  handles : List (String × String)
  names : List (String × Nat)
  marked : List (Nat × Draft)

abbrev Compose := StateT Composer Option

namespace Compose

def peek : Compose (Option Token) := do
  return (← get).tokens.head?

def advance : Compose Unit :=
  modify fun composer => { composer with tokens := composer.tokens.drop 1 }

def setTokens (tokens : List Token) : Compose Unit :=
  modify fun composer => { composer with tokens }

/-- An anchor and a tag in front of a node, in any order. -/
structure Properties where
  anchor : Option String
  tag : Option (String × String)

def properties : Compose Properties := do
  match (← get).tokens with
  | .anchor name :: .tag handle suffix :: rest | .tag handle suffix :: .anchor name :: rest =>
      setTokens rest
      return ⟨some name, some (handle, suffix)⟩
  | .anchor name :: rest =>
      setTokens rest
      return ⟨some name, none⟩
  | .tag handle suffix :: rest =>
      setTokens rest
      return ⟨none, some (handle, suffix)⟩
  | _ => return ⟨none, none⟩

/-- A tag in full; its handle must be known. -/
def fullTag (tag : Option (String × String)) : Compose (Option String) := do
  match tag with
  | none => return none
  | some ("", suffix) => return some suffix
  | some (handle, suffix) =>
      match (← get).handles.lookup handle with
      | some pre => return some (pre ++ suffix)
      | none => failure

/-- Gives a name its mark, the number of names so far. A name that is given again does not add to
that number, so the next new name has the same mark; the mark stands for the node that comes
last. -/
def openAnchor (name : Option String) : Compose (Option Nat) :=
  match name with
  | none => return none
  | some name =>
      modifyGet fun composer =>
        let mark := composer.names.length
        let others := composer.names.filter fun entry => entry.1 != name
        (some mark, { composer with
          names := (name, mark) :: others
          marked := composer.marked.filter fun entry => entry.1 != mark })

/-- A mark stands for a draft, unless a node inside of it has taken the mark. -/
def closeAnchor (mark : Option Nat) (draft : Draft) : Compose Draft := do
  if let some mark := mark then
    modify fun composer =>
      if (composer.marked.lookup mark).isSome then composer
      else { composer with marked := (mark, draft) :: composer.marked }
  return draft

/-- Whether a token stands in a list of ends. -/
def isOneOf (token : Option Token) (ends : List Token) : Bool :=
  token.all ends.contains

mutual

/-- A node. Block collections are allowed in block context only; a sequence whose entries are not
indented is allowed as the key or value of a block mapping. -/
def node (block unindented : Bool) : (fuel : Nat) → Compose Draft
  | 0 => failure
  | fuel + 1 => do
      if let some (.alias name) ← peek then
        advance
        return .alias (← (← get).names.lookup name)
      let properties ← properties
      let tag ← fullTag properties.tag
      let mark ← openAnchor properties.anchor
      let kind := TagKind.of tag
      let draft ← match ← peek with
        | some (.scalar text isPlain) => do
            advance
            let kind := if tag = some "!" then TagKind.absent else kind
            Draft.scalar <$> ofScalar? kind text (isPlain || tag == some "!")
        | some .flowSequenceStart => do
            advance
            pure (.sequence kind (← flowItems true fuel))
        | some .flowMappingStart => do
            advance
            pure (.mapping kind (← flowEntries true fuel))
        | some .blockSequenceStart =>
            if block then do
              advance
              pure (.sequence kind (← blockItems fuel))
            else failure
        | some .blockMappingStart =>
            if block then do
              advance
              pure (.mapping kind (← blockEntries fuel))
            else failure
        | next =>
            if unindented && next == some .blockEntry then do
              pure (.sequence kind (← unindentedItems fuel))
            else if properties.anchor.isSome || tag.isSome then
              Draft.scalar <$> ofScalar? kind "" true
            else failure
      closeAnchor mark draft

/-- A node, or null in front of one of the given tokens. -/
def nodeUnless (ends : List Token) (block unindented : Bool) : (fuel : Nat) → Compose Draft
  | 0 => failure
  | fuel + 1 => do
      match ← peek with
      | some token => if ends.contains token then return Draft.null else node block unindented fuel
      | none => failure

def blockItems : (fuel : Nat) → Compose (List Draft)
  | 0 => failure
  | fuel + 1 => do
      match ← peek with
      | some .blockEntry =>
          advance
          let item ← nodeUnless [.blockEntry, .blockEnd] true false fuel
          return item :: (← blockItems fuel)
      | some .blockEnd =>
          advance
          return []
      | _ => failure

def unindentedItems : (fuel : Nat) → Compose (List Draft)
  | 0 => failure
  | fuel + 1 => do
      match ← peek with
      | some .blockEntry =>
          advance
          let item ← nodeUnless [.blockEntry, .key, .value, .blockEnd] true false fuel
          return item :: (← unindentedItems fuel)
      | _ => return []

def blockEntries : (fuel : Nat) → Compose (List (Draft × Draft))
  | 0 => failure
  | fuel + 1 => do
      match ← peek with
      | some .key =>
          advance
          let key ← nodeUnless [.key, .value, .blockEnd] true true fuel
          let value ←
            if (← peek) = some .value then do
              advance
              nodeUnless [.key, .value, .blockEnd] true true fuel
            else pure Draft.null
          return (key, value) :: (← blockEntries fuel)
      | some .blockEnd =>
          advance
          return []
      | _ => failure

/-- The items of a flow sequence. A key among them makes a mapping of one entry. -/
def flowItems (first : Bool) : (fuel : Nat) → Compose (List Draft)
  | 0 => failure
  | fuel + 1 => do
      if (← peek) = some .flowSequenceEnd then
        advance
        return []
      if !first then
        if (← peek) = some .flowEntry then advance else failure
      match ← peek with
      | some .flowSequenceEnd =>
          advance
          return []
      | some .key =>
          advance
          let item ← flowPair fuel
          return item :: (← flowItems false fuel)
      | _ =>
          let item ← node false false fuel
          return item :: (← flowItems false fuel)

/-- An entry of a flow sequence that has a key. Where the key is missing, the token in its place is
passed over. -/
def flowPair : (fuel : Nat) → Compose Draft
  | 0 => failure
  | fuel + 1 => do
      let ends := [Token.value, .flowEntry, .flowSequenceEnd]
      let missing := isOneOf (← peek) ends
      let key ← nodeUnless ends false false fuel
      if missing then advance
      let value ←
        if (← peek) = some .value then do
          advance
          nodeUnless [.flowEntry, .flowSequenceEnd] false false fuel
        else pure Draft.null
      return .mapping .absent [(key, value)]

def flowEntries (first : Bool) : (fuel : Nat) → Compose (List (Draft × Draft))
  | 0 => failure
  | fuel + 1 => do
      if (← peek) = some .flowMappingEnd then
        advance
        return []
      if !first then
        if (← peek) = some .flowEntry then advance else failure
      match ← peek with
      | some .flowMappingEnd =>
          advance
          return []
      | some .key =>
          advance
          let key ← nodeUnless [.value, .flowEntry, .flowMappingEnd] false false fuel
          let value ←
            if (← peek) = some .value then do
              advance
              nodeUnless [.flowEntry, .flowMappingEnd] false false fuel
            else pure Draft.null
          return (key, value) :: (← flowEntries false fuel)
      | _ =>
          let key ← node false false fuel
          return (key, Draft.null) :: (← flowEntries false fuel)

end

/-- The directives in front of a document: one version of YAML, and handles of tags. -/
def directives : List Token → (versioned : Bool) → (handles : List (String × String)) →
    Option (List Token × List (String × String))
  | .versionDirective major minor :: rest, versioned, handles =>
      if !versioned && major == 1 && (minor == 1 || minor == 2) then directives rest true handles
      else none
  | .tagDirective handle pre :: rest, versioned, handles =>
      if (handles.lookup handle).isSome then none
      else directives rest versioned ((handle, pre) :: handles)
  | rest, _, handles => some (rest, handles)

def defaultHandles : List (String × String) :=
  [("!", "!"), ("!!", "tag:yaml.org,2002:")]

/-- Whether a token ends the document it stands in. -/
def endsDocument : Option Token → Bool
  | none | some .documentStart | some .documentEnd | some (.versionDirective _ _)
  | some (.tagDirective _ _) => true
  | _ => false

/-- The only document of a stream; a stream without one is null. -/
def document (fuel : Nat) : Compose Draft := do
  let tokens := (← get).tokens
  if tokens.isEmpty then return Draft.null
  let (rest, handles) ← directives tokens false []
  modify fun composer => { composer with handles := handles ++ defaultHandles }
  let root ←
    if rest.head? = some .documentStart then do
      setTokens (rest.drop 1)
      if endsDocument (← peek) then pure Draft.null else node true false fuel
    else if rest.length = tokens.length then node true false fuel
    else failure
  setTokens ((← get).tokens.dropWhile (· == .documentEnd))
  if (← peek).isSome then failure
  return root

end Compose

namespace Draft

/-- Resolving counts down how many aliases may still be replaced. -/
abbrev Resolve := StateT Nat Option

/-- What stands in a place: an alias is replaced by the draft that its mark stands for. -/
def follow (marked : List (Nat × Draft)) : Draft → Resolve Draft
  | .alias mark => do
      match ← get with
      | 0 => failure
      | left + 1 =>
          set left
          marked.lookup mark
  | draft => return draft

/-- The node of a draft whose collections are nested no deeper than `depth`. A node that has itself
inside is nested without end, so it is refused. -/
def resolve (marked : List (Nat × Draft)) : (depth : Nat) → Draft → Resolve Node
  | 0, draft => do
      match ← follow marked draft with
      | .scalar node => return node
      | _ => failure
  | depth + 1, draft => do
      match ← follow marked draft with
      | .alias _ => failure
      | .scalar node => return node
      | .sequence tag items =>
          return ofCollection tag (.sequence (← items.mapM (resolve marked depth)))
      | .mapping tag entries =>
          let entries ← entries.foldlM (fun done (key, value) => do
            Node.addEntry? done (← resolve marked depth key) (← resolve marked depth value)) []
          return ofCollection tag (.mapping entries)

end Draft

namespace Node

/-- How deep the nodes of a document may be nested. -/
def depthLimit : Nat := 128

/-- How many aliases are replaced for every event of a document at most. -/
def repetitionLimit : Nat := 100

/-- Reads the text of one document. -/
def parse? (text : String) : Option Node := do
  let tokens ← Token.scan text
  let (root, composer) ← Compose.document (3 * tokens.length + 4) ⟨tokens, [], [], []⟩
  let (node, _) ← root.resolve composer.marked depthLimit (repetitionLimit * root.events)
  return node

end Node

end RepoRules.Yaml
