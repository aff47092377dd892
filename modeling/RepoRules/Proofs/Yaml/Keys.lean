import RepoRules.Yaml.Decode

/-!
Keys of a document. In the tree that a text stands for, no mapping at the top has two entries with
the same key. Entries are only refused where a mapping is resolved, so it has to be shown of the
composer that it drafts no mapping as a scalar.
-/

namespace RepoRules.Yaml

theorem run_bind_eq_some {σ α β : Type} {steps : StateT σ Option α} {next : α → StateT σ Option β}
    {before after : σ} {value : β} (taken : (steps >>= next).run before = some (value, after)) :
    ∃ found middle, steps.run before = some (found, middle) ∧
      (next found).run middle = some (value, after) := by
  rw [StateT.run_bind, Option.bind_eq_bind, Option.bind_eq_some_iff] at taken
  obtain ⟨⟨found, middle⟩, first, others⟩ := taken
  exact ⟨found, middle, first, others⟩

theorem run_lift_eq_some {σ α : Type} {result : Option α} {before after : σ} {value : α}
    (taken : (liftM result : StateT σ Option α).run before = some (value, after)) :
    result = some value ∧ after = before := by
  cases result with
  | none => cases taken
  | some found =>
      cases taken
      exact ⟨rfl, rfl⟩

/-- No two entries of a mapping have the same key, whatever tags stand in front of it. -/
def Node.Distinct (node : Node) : Prop :=
  ∀ entries, node.untagged = .mapping entries →
    entries.Pairwise fun entry other => entry.1.same other.1 = false

def Draft.Clear (draft : Draft) : Prop :=
  ∀ node entries, draft = .scalar node → node.untagged ≠ .mapping entries

namespace Draft

theorem clear_of_alias {mark : Nat} : (Draft.alias mark).Clear := nofun

theorem clear_of_sequence {tag : TagKind} {items : List Draft} : (sequence tag items).Clear := nofun

theorem clear_of_mapping {tag : TagKind} {entries : List (Draft × Draft)} :
    (mapping tag entries).Clear := nofun

theorem clear_of_plain {text : String} {node : Node} (read : ofPlain? text = some node) :
    (scalar node).Clear := by
  rintro _ entries ⟨⟩ same
  unfold ofPlain? at read
  split at read <;> cases read <;> cases same

theorem clear_of_scalar {kind : TagKind} {text : String} {isPlain : Bool} {node : Node}
    (read : ofScalar? kind text isPlain = some node) : (scalar node).Clear := by
  have untagged {node : Node}
      (read : (if isPlain then ofPlain? text else some (.string text)) = some node) :
      (scalar node).Clear := by
    split at read
    · exact clear_of_plain read
    · cases read
      rintro _ entries ⟨⟩ ⟨⟩
  unfold ofScalar? at read
  dsimp only at read
  split at read
  case h_1 => exact untagged read
  case h_2 | h_4 =>
    obtain ⟨_, _, rfl⟩ := Option.map_eq_some_iff.1 read
    rintro _ entries ⟨⟩ ⟨⟩
  case h_3 =>
    split at read
    · cases read
      rintro _ entries ⟨⟩ ⟨⟩
    · cases read
  case h_5 =>
    split at read
    · cases read
      rintro _ entries ⟨⟩ ⟨⟩
    · cases read
  case h_6 =>
    cases read
    rintro _ entries ⟨⟩ ⟨⟩
  case h_7 =>
    obtain ⟨inner, found, rfl⟩ := Option.map_eq_some_iff.1 read
    rintro _ entries ⟨⟩ same
    exact untagged found _ entries rfl same

end Draft

def Composer.Clear (composer : Composer) : Prop :=
  ∀ entry ∈ composer.marked, entry.2.Clear

namespace Compose

variable {α β : Type} {good : α → Prop} {better : β → Prop}

def Keeps (steps : Compose α) (good : α → Prop) : Prop :=
  ∀ composer value after, composer.Clear → steps.run composer = some (value, after) →
    good value ∧ after.Clear

theorem keeps_pure {value : α} (right : good value) : Keeps (pure value) good := by
  rintro composer _ _ clear ⟨⟩
  exact ⟨right, clear⟩

theorem keeps_failure : Keeps (failure : Compose α) good := by
  rintro composer _ _ clear ⟨⟩

theorem keeps_failure_bind {next : α → Compose β} : Keeps (failure >>= next) better := by
  rintro composer _ _ clear ⟨⟩

theorem Keeps.bind {steps : Compose α} {next : α → Compose β} (first : Keeps steps good)
    (others : ∀ value, good value → Keeps (next value) better) : Keeps (steps >>= next) better := by
  intro composer value last clear taken
  obtain ⟨found, middle, taken, going⟩ := run_bind_eq_some taken
  obtain ⟨right, kept⟩ := first composer found middle clear taken
  exact others found right middle value last kept going

theorem keeps_pure_bind {value : α} {next : α → Compose β} (others : Keeps (next value) better) :
    Keeps (pure value >>= next) better :=
  (keeps_pure (rfl : value = value)).bind fun _ same => same ▸ others

theorem Keeps.weaken {steps : Compose α} (keeps : Keeps steps good) : Keeps steps fun _ => True :=
  fun composer value after clear taken =>
    ⟨trivial, (keeps composer value after clear taken).2⟩

theorem keeps_get : Keeps get Composer.Clear := by
  rintro composer _ _ clear ⟨⟩
  exact ⟨clear, clear⟩

theorem keeps_modify {change : Composer → Composer}
    (keeps : ∀ composer, composer.Clear → (change composer).Clear) :
    Keeps (modify change) fun _ => True := by
  rintro composer _ _ clear ⟨⟩
  exact ⟨trivial, keeps composer clear⟩

theorem keeps_lift {result : Option α} (right : ∀ value, result = some value → good value) :
    Keeps (liftM result) good := by
  intro composer value after clear taken
  obtain ⟨found, rfl⟩ := run_lift_eq_some taken
  exact ⟨right value found, clear⟩

theorem keeps_lift_bind {result : Option α} {next : α → Compose β}
    (others : ∀ value, Keeps (next value) better) : Keeps (liftM result >>= next) better :=
  (keeps_lift fun _ _ => trivial).bind fun value _ => others value

theorem keeps_peek : Keeps peek fun _ => True :=
  keeps_get.bind fun _ _ => keeps_pure trivial

theorem keeps_advance : Keeps advance fun _ => True :=
  keeps_modify fun _ clear => clear

theorem keeps_set_tokens (tokens : List Token) : Keeps (setTokens tokens) fun _ => True :=
  keeps_modify fun _ clear => clear

theorem keeps_properties : Keeps properties fun _ => True := by
  unfold properties
  refine keeps_get.bind fun composer _ => ?_
  split
  · exact (keeps_set_tokens _).bind fun _ _ => keeps_pure trivial
  · exact (keeps_set_tokens _).bind fun _ _ => keeps_pure trivial
  · exact (keeps_set_tokens _).bind fun _ _ => keeps_pure trivial
  · exact (keeps_set_tokens _).bind fun _ _ => keeps_pure trivial
  · exact keeps_pure trivial

theorem keeps_full_tag (tag : Option (String × String)) : Keeps (fullTag tag) fun _ => True := by
  unfold fullTag
  split
  · exact keeps_pure trivial
  · exact keeps_pure trivial
  · refine keeps_get.bind fun composer _ => ?_
    split
    · exact keeps_pure trivial
    · exact keeps_failure

theorem keeps_open_anchor (name : Option String) : Keeps (openAnchor name) fun _ => True := by
  cases name with
  | none => exact keeps_pure trivial
  | some name =>
      rintro composer _ _ clear ⟨⟩
      refine ⟨trivial, ?_⟩
      intro entry member
      exact clear entry (List.mem_filter.1 member).1

theorem keeps_close_anchor (mark : Option Nat) {draft : Draft} (plain : draft.Clear) :
    Keeps (closeAnchor mark draft) Draft.Clear := by
  unfold closeAnchor
  cases mark with
  | none => exact keeps_pure plain
  | some mark =>
      refine (keeps_modify ?_).bind fun _ _ => keeps_pure plain
      intro composer clear
      split
      · exact clear
      · intro entry member
        rcases List.mem_cons.1 member with rfl | member
        · exact plain
        · exact clear entry member

/-- What the functions of the composer give with so much fuel. -/
structure Composes (fuel : Nat) : Prop where
  node : ∀ block unindented, Keeps (Compose.node block unindented fuel) Draft.Clear
  nodeUnless : ∀ ends block unindented,
    Keeps (Compose.nodeUnless ends block unindented fuel) fun _ => True
  blockItems : Keeps (Compose.blockItems fuel) fun _ => True
  unindentedItems : Keeps (Compose.unindentedItems fuel) fun _ => True
  blockEntries : Keeps (Compose.blockEntries fuel) fun _ => True
  flowItems : ∀ first, Keeps (Compose.flowItems first fuel) fun _ => True
  flowPair : Keeps (Compose.flowPair fuel) fun _ => True
  flowEntries : ∀ first, Keeps (Compose.flowEntries first fuel) fun _ => True

section Steps

variable {fuel : Nat} (composes : Composes fuel)

include composes

theorem Composes.keeps_node (block unindented : Bool) :
    Keeps (Compose.node block unindented (fuel + 1)) Draft.Clear := by
  rw [Compose.node]
  refine keeps_peek.bind fun next _ => ?_
  split
  · -- an alias
    refine keeps_advance.bind fun _ _ => keeps_get.bind fun composer _ => ?_
    exact keeps_lift_bind fun _ => keeps_pure Draft.clear_of_alias
  · refine keeps_properties.bind fun properties _ => (keeps_full_tag _).bind fun tag _ =>
      (keeps_open_anchor _).bind fun mark _ => keeps_peek.bind fun token _ => ?_
    dsimp only
    have ends {draft : Draft} (clear : draft.Clear) := keeps_close_anchor mark clear
    -- only here a scalar is drafted, and what its text is resolved to is no mapping
    have scalars {kind : TagKind} {text : String} {isPlain : Bool} :
        Keeps (Draft.scalar <$> (liftM (ofScalar? kind text isPlain) : Compose Node))
          Draft.Clear := by
      rw [map_eq_pure_bind]
      exact (keeps_lift fun _ found => Draft.clear_of_scalar found).bind fun _ => keeps_pure
    split
    · exact keeps_advance.bind fun _ _ => scalars.bind fun _ => ends
    · exact keeps_advance.bind fun _ _ => (composes.flowItems true).bind fun items _ =>
        keeps_pure_bind (ends Draft.clear_of_sequence)
    · exact keeps_advance.bind fun _ _ => (composes.flowEntries true).bind fun entries _ =>
        keeps_pure_bind (ends Draft.clear_of_mapping)
    · split
      · exact keeps_advance.bind fun _ _ => composes.blockItems.bind fun items _ =>
          keeps_pure_bind (ends Draft.clear_of_sequence)
      · exact keeps_failure_bind
    · split
      · exact keeps_advance.bind fun _ _ => composes.blockEntries.bind fun entries _ =>
          keeps_pure_bind (ends Draft.clear_of_mapping)
      · exact keeps_failure_bind
    · split
      · exact composes.unindentedItems.bind fun items _ =>
          keeps_pure_bind (ends Draft.clear_of_sequence)
      · split
        · exact scalars.bind fun _ => ends
        · exact keeps_failure_bind

theorem Composes.keeps_node_unless (ends : List Token) (block unindented : Bool) :
    Keeps (Compose.nodeUnless ends block unindented (fuel + 1)) fun _ => True := by
  rw [Compose.nodeUnless]
  refine keeps_peek.bind fun next _ => ?_
  split
  · split
    · exact keeps_pure trivial
    · exact (composes.node block unindented).weaken
  · exact keeps_failure

theorem Composes.keeps_block_items : Keeps (Compose.blockItems (fuel + 1)) fun _ => True := by
  rw [Compose.blockItems]
  refine keeps_peek.bind fun next _ => ?_
  split
  · exact keeps_advance.bind fun _ _ => (composes.nodeUnless _ _ _).bind fun item _ =>
      composes.blockItems.bind fun _ _ => keeps_pure trivial
  · exact keeps_advance.bind fun _ _ => keeps_pure trivial
  · exact keeps_failure

theorem Composes.keeps_unindented_items :
    Keeps (Compose.unindentedItems (fuel + 1)) fun _ => True := by
  rw [Compose.unindentedItems]
  refine keeps_peek.bind fun next _ => ?_
  split
  · exact keeps_advance.bind fun _ _ => (composes.nodeUnless _ _ _).bind fun item _ =>
      composes.unindentedItems.bind fun _ _ => keeps_pure trivial
  · exact keeps_pure trivial

/-- A value behind a key, or null where it is left out. -/
theorem Composes.keeps_value {next : Draft → Compose β}
    (others : ∀ value, Keeps (next value) better) (ends : List Token)
    (block unindented : Bool) (token : Option Token) :
    Keeps (if token = some .value then do
        advance
        let value ← Compose.nodeUnless ends block unindented fuel
        next value
      else do
        let value ← pure Draft.null
        next value) better := by
  split
  · exact keeps_advance.bind fun _ _ => (composes.nodeUnless _ _ _).bind fun value _ => others value
  · exact keeps_pure_bind (others _)

theorem Composes.keeps_block_entries : Keeps (Compose.blockEntries (fuel + 1)) fun _ => True := by
  rw [Compose.blockEntries]
  refine keeps_peek.bind fun next _ => ?_
  split
  · refine keeps_advance.bind fun _ _ => (composes.nodeUnless _ _ _).bind fun key _ =>
      keeps_peek.bind fun token _ => composes.keeps_value (fun value => ?_) _ _ _ _
    exact composes.blockEntries.bind fun _ _ => keeps_pure trivial
  · exact keeps_advance.bind fun _ _ => keeps_pure trivial
  · exact keeps_failure

omit composes in
theorem keeps_separator {next : Unit → Compose β} (others : Keeps (next ()) better) (first : Bool) :
    Keeps (if (!first) = true then do
        let token ← peek
        if token = some .flowEntry then do
          let passed ← advance
          next passed
        else do
          let passed ← failure
          next passed
      else next ()) better := by
  split
  · refine keeps_peek.bind fun token _ => ?_
    split
    · exact keeps_advance.bind fun _ _ => others
    · exact keeps_failure_bind
  · exact others

theorem Composes.keeps_flow_items (first : Bool) :
    Keeps (Compose.flowItems first (fuel + 1)) fun _ => True := by
  rw [Compose.flowItems]
  refine keeps_peek.bind fun next _ => ?_
  split
  · exact keeps_advance.bind fun _ _ => keeps_pure trivial
  · refine keeps_separator (keeps_peek.bind fun token _ => ?_) first
    split
    · exact keeps_advance.bind fun _ _ => keeps_pure trivial
    · exact keeps_advance.bind fun _ _ => composes.flowPair.bind fun item _ =>
        (composes.flowItems false).bind fun _ _ => keeps_pure trivial
    · exact (composes.node _ _).bind fun item _ =>
        (composes.flowItems false).bind fun _ _ => keeps_pure trivial

theorem Composes.keeps_flow_pair : Keeps (Compose.flowPair (fuel + 1)) fun _ => True := by
  rw [Compose.flowPair]
  refine keeps_peek.bind fun token _ => (composes.nodeUnless _ _ _).bind fun key _ => ?_
  have rest : Keeps (do
      let token ← peek
      if token = some .value then do
        advance
        let value ← Compose.nodeUnless [.flowEntry, .flowSequenceEnd] false false fuel
        pure (Draft.mapping .absent [(key, value)])
      else do
        let value ← pure Draft.null
        pure (Draft.mapping .absent [(key, value)])) fun _ => True :=
    keeps_peek.bind fun token _ => composes.keeps_value (fun _ => keeps_pure trivial) _ _ _ _
  dsimp only
  split
  · exact keeps_advance.bind fun _ _ => rest
  · exact rest

theorem Composes.keeps_flow_entries (first : Bool) :
    Keeps (Compose.flowEntries first (fuel + 1)) fun _ => True := by
  rw [Compose.flowEntries]
  refine keeps_peek.bind fun next _ => ?_
  split
  · exact keeps_advance.bind fun _ _ => keeps_pure trivial
  · refine keeps_separator (keeps_peek.bind fun token _ => ?_) first
    split
    · exact keeps_advance.bind fun _ _ => keeps_pure trivial
    · refine keeps_advance.bind fun _ _ => (composes.nodeUnless _ _ _).bind fun key _ =>
        keeps_peek.bind fun token _ => composes.keeps_value (fun value => ?_) _ _ _ _
      exact (composes.flowEntries false).bind fun _ _ => keeps_pure trivial
    · exact (composes.node _ _).bind fun key _ =>
        (composes.flowEntries false).bind fun _ _ => keeps_pure trivial

end Steps

theorem composes : (fuel : Nat) → Composes fuel
  | 0 => by
      constructor
      case node => exact fun _ _ => by rw [Compose.node]; exact keeps_failure
      case nodeUnless => exact fun _ _ _ => by rw [Compose.nodeUnless]; exact keeps_failure
      case blockItems => rw [Compose.blockItems]; exact keeps_failure
      case unindentedItems => rw [Compose.unindentedItems]; exact keeps_failure
      case blockEntries => rw [Compose.blockEntries]; exact keeps_failure
      case flowItems => exact fun _ => by rw [Compose.flowItems]; exact keeps_failure
      case flowPair => rw [Compose.flowPair]; exact keeps_failure
      case flowEntries => exact fun _ => by rw [Compose.flowEntries]; exact keeps_failure
  | fuel + 1 =>
      have fewer := composes fuel
      ⟨fewer.keeps_node, fewer.keeps_node_unless, fewer.keeps_block_items,
        fewer.keeps_unindented_items, fewer.keeps_block_entries, fewer.keeps_flow_items,
        fewer.keeps_flow_pair, fewer.keeps_flow_entries⟩

theorem keeps_document (fuel : Nat) : Keeps (document fuel) Draft.Clear := by
  have node := (composes fuel).node
  have null : Draft.null.Clear := by
    rintro _ entries ⟨⟩ ⟨⟩
  unfold document
  refine keeps_get.bind fun composer _ => ?_
  dsimp only
  split
  · exact keeps_pure null
  · refine keeps_lift_bind fun found => (keeps_modify ?_).bind fun _ _ => ?_
    · exact fun _ clear => clear
    have ends {root : Draft} (clear : root.Clear) : Keeps (do
        setTokens ((← get).tokens.dropWhile (· == .documentEnd))
        if (← peek).isSome then failure
        return root) Draft.Clear := by
      refine keeps_get.bind fun _ _ => (keeps_set_tokens _).bind fun _ _ =>
        keeps_peek.bind fun _ _ => ?_
      dsimp only
      split
      · exact keeps_failure_bind
      · exact keeps_pure clear
    split
    · refine (keeps_set_tokens _).bind fun _ _ => keeps_peek.bind fun token _ => ?_
      split
      · exact keeps_pure_bind (ends null)
      · exact (node _ _).bind fun _ => ends
    · split
      · exact (node _ _).bind fun _ => ends
      · exact keeps_failure_bind

end Compose

namespace Node

theorem distinct_of_collection {tag : TagKind} {node : Node} (distinct : node.Distinct) :
    (ofCollection tag node).Distinct := by
  unfold ofCollection
  split
  · exact distinct
  · exact distinct

theorem distinct_of_mapping {entries : List (Node × Node)}
    (distinct : entries.Pairwise fun entry other => entry.1.same other.1 = false) :
    (mapping entries).Distinct := by
  rintro _ ⟨⟩
  exact distinct

theorem distinct_of_add {entries after : List (Node × Node)} {key value : Node}
    (distinct : entries.Pairwise fun entry other => entry.1.same other.1 = false)
    (added : addEntry? entries key value = some after) :
    after.Pairwise fun entry other => entry.1.same other.1 = false := by
  unfold addEntry? at added
  split at added
  · cases added
  · next new =>
      cases added
      refine List.pairwise_append.2 ⟨distinct, List.pairwise_singleton _ _, ?_⟩
      intro entry member other single
      rw [List.mem_singleton.1 single, ← Bool.not_eq_true]
      intro same
      exact new (List.any_eq_true.2 ⟨entry, member, same⟩)

end Node

namespace Draft

variable {marked : List (Nat × Draft)}

theorem clear_of_follow (clear : ∀ entry ∈ marked, entry.2.Clear) {draft found : Draft}
    {left after : Nat} (plain : draft.Clear)
    (followed : (follow marked draft).run left = some (found, after)) : found.Clear := by
  cases draft with
  | «alias» mark =>
      -- it stands for a draft that was marked, and all of these are clear
      obtain ⟨allowed, _, reading, followed⟩ := run_bind_eq_some followed
      cases reading
      cases left with
      | zero => cases followed
      | succ left =>
          obtain ⟨_, _, _, followed⟩ := run_bind_eq_some followed
          obtain ⟨looked, _⟩ := run_lift_eq_some followed
          obtain ⟨before, behind, entries, _⟩ := List.lookup_eq_some_iff.1 looked
          exact clear (mark, found) (by simp [entries])
  | scalar _ | sequence _ _ | mapping _ _ =>
      cases followed
      exact plain

theorem distinct_of_entries {depth : Nat} {entries : List (Draft × Draft)}
    {done last : List (Node × Node)} {left after : Nat}
    (distinct : done.Pairwise fun entry other => entry.1.same other.1 = false)
    (added : (entries.foldlM (fun done (key, value) => do
      Node.addEntry? done (← resolve marked depth key) (← resolve marked depth value)) done).run
        left = some (last, after)) :
    last.Pairwise fun entry other => entry.1.same other.1 = false := by
  induction entries generalizing done left with
  | nil =>
      cases added
      exact distinct
  | cons entry rest induction =>
      rw [List.foldlM_cons] at added
      obtain ⟨middle, _, first, others⟩ := run_bind_eq_some added
      obtain ⟨key, _, _, first⟩ := run_bind_eq_some first
      obtain ⟨value, _, _, first⟩ := run_bind_eq_some first
      exact induction (Node.distinct_of_add distinct (run_lift_eq_some first).1) others

theorem distinct_of_resolve (clear : ∀ entry ∈ marked, entry.2.Clear) {depth : Nat} {draft : Draft}
    {left after : Nat} {node : Node} (plain : draft.Clear)
    (resolved : (resolve marked depth draft).run left = some (node, after)) : node.Distinct := by
  have scalar {found : Node} (plain : (scalar found).Clear) : found.Distinct := by
    intro entries same
    exact absurd same (plain found entries rfl)
  cases depth with
  | zero =>
      rw [resolve] at resolved
      obtain ⟨found, _, followed, resolved⟩ := run_bind_eq_some resolved
      have clear := clear_of_follow clear plain followed
      split at resolved
      · cases resolved
        exact scalar clear
      · cases resolved
  | succ depth =>
      rw [resolve] at resolved
      obtain ⟨found, _, followed, resolved⟩ := run_bind_eq_some resolved
      have clear := clear_of_follow clear plain followed
      split at resolved
      · cases resolved
      · cases resolved
        exact scalar clear
      · obtain ⟨items, _, _, resolved⟩ := run_bind_eq_some resolved
        cases resolved
        exact Node.distinct_of_collection nofun
      · obtain ⟨entries, _, added, resolved⟩ := run_bind_eq_some resolved
        cases resolved
        exact Node.distinct_of_collection
          (Node.distinct_of_mapping (distinct_of_entries .nil added))

end Draft

theorem Node.distinct_of_parse {text : String} {node : Node} (parsed : parse? text = some node) :
    node.Distinct := by
  unfold parse? at parsed
  simp only [Option.bind_eq_bind, Option.bind_eq_some_iff, Option.pure_def, Option.some.injEq,
    Prod.exists] at parsed
  obtain ⟨tokens, _, root, composer, composed, _, _, resolved, rfl⟩ := parsed
  have start : Composer.Clear ⟨tokens, [], [], []⟩ := List.forall_mem_nil _
  obtain ⟨plain, clear⟩ := Compose.keeps_document _ _ _ _ start composed
  exact Draft.distinct_of_resolve clear plain resolved

end RepoRules.Yaml
