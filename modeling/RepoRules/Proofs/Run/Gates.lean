import RepoRules.Proofs.Rules.Grammar
import RepoRules.Proofs.Run.Interpreter

/-!
Checks that cannot be read. Wherever their sequence stands in a tree, nothing behind such a check is
walked through. An entry with several keys is no check, whatever its keys are: it is reported and
leaves nothing in the tree.
-/

namespace RepoRules

namespace Step

theorem parse_items_append (items others : List Json) :
    parseItems (items ++ others) = parseItems items ++ parseItems others := by
  induction items with
  | nil => simp only [List.nil_append, parseItems]
  | cons item rest induction =>
      rw [List.cons_append, parseItems, induction, parseItems, List.cons_append]

theorem parse_check {key : String} (named : normalizeKey key = "check") (group : Json) :
    parse (.object [(key, group)]) = .action (.check group) := by
  have read : parseEntry key group = .ok (.action (.check group)) := by
    cases group with
    | object fields => simp only [parseEntry, named]; rfl
    | null | bool | int | float | string | array => simp only [parseEntry, named]; rfl
  rw [parse, read]

end Step

namespace Tree

/-- What is next around the nodes of a sequence: others of a sequence that they are spliced into, or
the node that holds them. -/
inductive Frame where
  | among (before after : List Node)
  | sequence
  | files (mode : FileMatch) (source : String) (pattern : Pattern)

def Frame.plug (nodes : List Node) : Frame → List Node
  | .among before after => before ++ nodes ++ after
  | .sequence => [.sequence nodes]
  | .files mode source pattern => [.files mode source pattern nodes]

def plug (nodes : List Node) (frames : List Frame) : List Node :=
  frames.foldl Frame.plug nodes

def compiled (expand : Expand) (builder : Builder) (items : List Json) : List Node :=
  ((nodesOf expand (Step.parseItems items)).run builder).1

theorem nodes_of_append (expand : Expand) (steps others : List Step) :
    nodesOf expand (steps ++ others) = (do
      let first ← nodesOf expand steps
      let rest ← nodesOf expand others
      return first ++ rest) := by
  induction steps with
  | nil => simp only [List.nil_append, nodesOf, pure_bind, bind_pure]
  | cons step steps induction =>
      simp only [List.cons_append, nodesOf, induction, bind_assoc, pure_bind, List.append_assoc]

/-- A check that cannot be read is compiled to a gate that stays closed, in front of what the later
entries are compiled to. -/
theorem compiled_unreadable {group : Json} (unreadable : ∀ condition,
    Condition.ofGroup group ≠ .ok condition) {key : String}
    (named : Step.normalizeKey key = "check") (expand : Expand) (builder : Builder)
    (earlier later : List Json) :
    ∃ after, compiled expand builder (earlier ++ .object [(key, group)] :: later) =
      compiled expand builder earlier ++ .gate none :: after := by
  cases read : Condition.ofGroup group with
  | ok condition => exact absurd read (unreadable condition)
  | error error =>
      refine ⟨((nodesOf expand (Step.parseItems later)).run
        (((nodesOf expand (Step.parseItems earlier)).run builder).2.reported "check" error)).1, ?_⟩
      unfold compiled
      rw [Step.parse_items_append, Step.parseItems, Step.parse_check named, nodes_of_append]
      simp only [nodesOf, stepNodes, actionNodes, gateOf, read]
      rfl

end Tree

namespace Run

open RepoRules.Tree

variable {σ : Type} (services : Services σ)

theorem sequence_flow_closed (before after : List Node) :
    sequenceFlow services (before ++ .gate none :: after) =
      sequenceFlow services (before ++ [.gate none]) := by
  have closed (others : List Node) :
      sequenceFlow services (.gate none :: others) = (pure .halt : Run σ Flow) := by
    rw [sequenceFlow, walkNode, passGate, Flow.goOn, pure_bind]
  rw [sequence_flow_append, sequence_flow_append, closed, closed]

variable {services} {nodes others : List Node}

theorem walk_nodes_congr (same : sequenceFlow services nodes = sequenceFlow services others) :
    walkNodes services nodes = walkNodes services others := by
  rw [walk_nodes_eq, walk_nodes_eq, same]

/-- Nodes that do the same do the same in every place of a tree. -/
theorem sequence_flow_plug (frames : List Frame)
    (same : sequenceFlow services nodes = sequenceFlow services others) :
    sequenceFlow services (plug nodes frames) = sequenceFlow services (plug others frames) := by
  induction frames generalizing nodes others with
  | nil => exact same
  | cons frame rest induction =>
      apply induction
      cases frame with
      | among before after =>
          simp only [Frame.plug, sequence_flow_append, same]
      | sequence =>
          simp only [Frame.plug, sequenceFlow, walkNode, walk_nodes_congr same]
      | files mode source pattern =>
          simp only [Frame.plug, sequenceFlow, walkNode, walk_nodes_congr same]

theorem build_children (document : RuleDocument) (items : List Json) :
    (ActionTree.build document (Step.parseItems items)).children =
      compiled (Tree.expand document.predefined document.predefined.size) .start items := rfl

/-- The nodes of entries behind a check that cannot be read are never walked through, wherever in a
tree the sequence stands. The entries are compiled all the same, and sequences that they refer to are
kept for later. An entry with another number of keys than one is no check; it is reported and leaves
no node. -/
theorem unreadable_check_closes_sequence (services : Services σ) {key : String} {group : Json}
    (named : Step.normalizeKey key = "check")
    (unreadable : ∀ condition, Condition.ofGroup group ≠ .ok condition)
    (earlier later : List Json) :
    (∀ document : RuleDocument,
      walk services (ActionTree.build document
          (Step.parseItems (earlier ++ .object [(key, group)] :: later))) =
        walk services (ActionTree.build document (Step.parseItems earlier))) ∧
    (∀ expand builder frames,
      walkNodes services
          (plug (compiled expand builder (earlier ++ .object [(key, group)] :: later)) frames) =
        walkNodes services
          (plug (compiled expand builder (earlier ++ [.object [(key, group)]])) frames)) ∧
    ∀ expand builder fields, fields.length ≠ 1 →
      (stepNodes expand (Step.parse (.object fields))).run builder =
        ([], builder.reported (",".intercalate (fields.map Prod.fst))
          (.malformedStep (.keyCount (fields.map Prod.fst)))) := by
  refine ⟨?_, ?_, ?_⟩
  · intro document
    unfold walk
    rw [build_children, build_children]
    obtain ⟨after, behind⟩ := compiled_unreadable unreadable named
      (Tree.expand document.predefined document.predefined.size) .start earlier later
    rw [behind, walk_nodes_eq, walk_nodes_eq, sequence_flow_closed, sequence_flow_append]
    -- whether the sequence was closed is not seen from outside
    simp only [Flow.goOn, bind_assoc]
    refine bind_congr fun flow => ?_
    cases flow with
    | proceed => rfl
    | halt => rfl
  · intro expand builder frames
    obtain ⟨after, behind⟩ := compiled_unreadable unreadable named expand builder earlier later
    obtain ⟨last, alone⟩ := compiled_unreadable unreadable named expand builder earlier []
    apply walk_nodes_congr
    apply sequence_flow_plug
    rw [behind, alone, sequence_flow_closed, sequence_flow_closed services _ last]
  · intro expand builder fields crowded
    rw [Step.parse_crowded crowded]
    rfl

/-- There is no condition of this name. -/
theorem favourite_colour_closes_sequence :
    let entry := Json.object [(" Check ", .object [("favourite-colour", .string "blue")])]
    let earlier := Json.object [("labels-add", .string "early")]
    let later := Json.object [("labels-add", .string "late")]
    Step.normalizeKey " Check " = "check" ∧
      (∀ condition, Condition.ofGroup (.object [("favourite-colour", .string "blue")]) ≠
        .ok condition) ∧
      walk Interpreter.idleServices
          (ActionTree.build .welcoming (Step.parseItems [earlier, entry, later])) =
        walk Interpreter.idleServices
          (ActionTree.build .welcoming (Step.parseItems [earlier])) := by
  have named : Step.normalizeKey " Check " = "check" := by decide +kernel
  have unreadable : ∀ condition,
      Condition.ofGroup (.object [("favourite-colour", .string "blue")]) ≠ .ok condition := by
    have refused : (Condition.ofGroup
        (.object [("favourite-colour", .string "blue")])).toOption.isNone = true := by
      decide +kernel
    intro condition read
    rw [read] at refused
    cases refused
  exact ⟨named, unreadable,
    (unreadable_check_closes_sequence Interpreter.idleServices named unreadable
      [.object [("labels-add", .string "early")]]
      [.object [("labels-add", .string "late")]]).1 .welcoming⟩

/-- With a second key beside it, a check does not keep the later entries from running. -/
theorem crowded_check_leaves_sequence_open :
    let crowded := Json.object [("check", .bool false), ("comment", .string "first")]
    let later := Json.object [("labels-add", .string "late")]
    let pooled (items : List Json) :=
      ((walk Interpreter.idleServices (ActionTree.build .welcoming
        (Step.parseItems items))).run.run
          ⟨Interpreter.idleContext .welcoming, .empty, []⟩).2.context.operations.labelsToAdd
    Step.normalizeKey "check" = "check" ∧ pooled [crowded] = [] ∧
      pooled [crowded, later] = ["late"] := by
  decide +kernel

end Run

end RepoRules
