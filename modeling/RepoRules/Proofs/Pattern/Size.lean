import Mathlib.Algebra.BigOperators.Group.List.Basic
import Mathlib.Algebra.Order.BigOperators.Group.List
import Mathlib.Algebra.Order.Ring.Nat
import RepoRules.Pattern.Size

/-!
How large patterns of letters are. Each letter takes some room, and to put ways together to a choice
takes no more, whether they become one set or lose a common start; so few letters fit into the limit.
On the other hand every letter of a text adds at least one state, so that too many do not fit.
-/

namespace RepoRules.Pattern

namespace CharSet

def widthOf (ranges : List (Nat × Nat)) : Nat :=
  (ranges.map fun range => range.2 + 1 - range.1).sum

def AreOrdered (ranges : List (Nat × Nat)) : Prop :=
  ∀ range ∈ ranges, range.1 ≤ range.2

theorem width_of_append (left right : List (Nat × Nat)) :
    widthOf (left ++ right) = widthOf left + widthOf right := by
  rw [widthOf, List.map_append, List.sum_append]
  rfl

theorem width_of_cons (range : Nat × Nat) (rest : List (Nat × Nat)) :
    widthOf (range :: rest) = range.2 + 1 - range.1 + widthOf rest := by
  rw [widthOf, List.map_cons, List.sum_cons]
  rfl

theorem width_of_without_surrogates (range : Nat × Nat) :
    widthOf (withoutSurrogates range) ≤ range.2 + 1 - range.1 := by
  obtain ⟨first, last⟩ := range
  simp only [withoutSurrogates]
  split <;> split <;> simp [widthOf] <;> omega

theorem ordered_without_surrogates {range : Nat × Nat} (ordered : range.1 ≤ range.2) :
    AreOrdered (withoutSurrogates range) := by
  obtain ⟨first, last⟩ := range
  simp only [withoutSurrogates]
  split <;> split <;> simp [AreOrdered] at ordered ⊢ <;> omega

theorem width_of_join (first last : Nat) (rest : List (Nat × Nat)) :
    widthOf (join first last rest) ≤ last + 1 - first + widthOf rest := by
  induction rest generalizing first last with
  | nil => exact Nat.le_refl _
  | cons next rest induction =>
      obtain ⟨nextFirst, nextLast⟩ := next
      rw [join, width_of_cons]
      split
      · refine (induction first (max last nextLast)).trans ?_
        omega
      · rw [width_of_cons]
        have behind := induction nextFirst nextLast
        omega

theorem ordered_join {first last : Nat} {rest : List (Nat × Nat)} (ordered : first ≤ last)
    (others : AreOrdered rest) : AreOrdered (join first last rest) := by
  induction rest generalizing first last with
  | nil => exact List.forall_mem_singleton.2 ordered
  | cons next rest induction =>
      obtain ⟨here, behind⟩ := List.forall_mem_cons.1 others
      rw [join]
      split
      · exact induction (ordered.trans (Nat.le_max_left _ _)) behind
      · exact List.forall_mem_cons.2 ⟨ordered, induction here behind⟩

theorem exists_sorted_ranges (ranges : List (Nat × Nat)) :
    ∃ sorted : List (Nat × Nat), sorted.Perm (ranges.flatMap withoutSurrogates) ∧
      (ofRanges ranges).ranges = match sorted with
        | [] => []
        | (first, last) :: rest => join first last rest := by
  refine ⟨_, List.mergeSort_perm (ranges.flatMap withoutSurrogates)
    fun left right => left.1 ≤ right.1, ?_⟩
  cases sorted : (ranges.flatMap withoutSurrogates).mergeSort fun left right => left.1 ≤ right.1 with
  | nil => simp only [ofRanges, sorted, CharSet.ranges]
  | cons range rest => simp only [ofRanges, sorted, CharSet.ranges]

theorem width_of_ranges (ranges : List (Nat × Nat)) :
    widthOf (ofRanges ranges).ranges ≤ widthOf ranges := by
  obtain ⟨sorted, same, given⟩ := exists_sorted_ranges ranges
  have whole : widthOf sorted ≤ widthOf ranges := by
    have kept : widthOf sorted = widthOf (ranges.flatMap withoutSurrogates) :=
      (same.map _).sum_eq
    rw [kept]
    clear given same kept
    induction ranges with
    | nil => exact Nat.le_refl _
    | cons range rest induction =>
        rw [List.flatMap_cons, width_of_append, width_of_cons]
        exact Nat.add_le_add (width_of_without_surrogates range) induction
  rw [given]
  cases sorted with
  | nil => exact Nat.zero_le _
  | cons range rest =>
      rw [width_of_cons] at whole
      exact (width_of_join _ _ _).trans whole

theorem ordered_of_ranges {ranges : List (Nat × Nat)} (ordered : AreOrdered ranges) :
    AreOrdered (ofRanges ranges).ranges := by
  obtain ⟨sorted, same, given⟩ := exists_sorted_ranges ranges
  have each : AreOrdered sorted := by
    intro range member
    obtain ⟨whole, held, part⟩ := List.mem_flatMap.1 (same.subset member)
    exact ordered_without_surrogates (ordered whole held) range part
  rw [given]
  cases sorted with
  | nil => exact List.forall_mem_nil _
  | cons range rest =>
      obtain ⟨first, behind⟩ := List.forall_mem_cons.1 each
      exact ordered_join first behind

end CharSet

namespace Utf8

theorem length_sequences {first last : Nat} (ordered : first ≤ last) :
    (sequences first last).length ≤ last + 1 - first := by
  fun_induction sequences first last with
  | case1 first last whole =>
      rw [List.length_singleton]
      omega
  | case2 first last middle found inside early late =>
      have left := early inside.1
      have right := late inside.2
      rw [List.length_append]
      omega
  | case3 => exact Nat.zero_le _

end Utf8

theorem CharSet.length_byte_sequences {set : CharSet} (ordered : AreOrdered set.ranges) :
    set.byteSequences.length ≤ widthOf set.ranges := by
  rw [byteSequences, List.length_flatMap, widthOf]
  exact List.sum_le_sum fun range member => Utf8.length_sequences (ordered range member)

namespace Node

open CharSet

def room : Node → Nat
  | .one set => 232 + 160 * widthOf set.ranges
  | .both first second => first.room + second.room
  | .choice first second => first.room + second.room
  | _ => 116

/-- Patterns that are put together from letters, one behind another or one beside another. -/
inductive Spelled : Node → Prop
  | empty : Spelled .empty
  | one {set : CharSet} (ordered : AreOrdered set.ranges) : Spelled (.one set)
  | both {first second : Node} (before : Spelled first) (behind : Spelled second) :
      Spelled (.both first second)
  | choice {first second : Node} (preferred : Spelled first) (other : Spelled second) :
      Spelled (.choice first second)

theorem Spelled.bytes_bound_le {node : Node} (spelled : Spelled node) :
    node.bytesBound + 84 ≤ node.room := by
  induction spelled with
  | empty => decide
  | one ordered =>
      have sequences := length_byte_sequences ordered
      rw [bytesBound, room]
      omega
  | both _ _ first second =>
      rw [bytesBound, room]
      omega
  | choice _ _ first second =>
      rw [bytesBound, room]
      omega

theorem le_room (node : Node) : 116 ≤ node.room := by
  induction node with
  | both first second left right =>
      rw [room]
      omega
  | choice first second left right =>
      rw [room]
      omega
  | one set =>
      rw [room]
      omega
  | _ => exact Nat.le_refl _

def roomOf (nodes : List Node) : Nat :=
  (nodes.map room).sum

theorem room_of_append (left right : List Node) :
    roomOf (left ++ right) = roomOf left + roomOf right := by
  rw [roomOf, List.map_append, List.sum_append]
  rfl

theorem room_of_cons (node : Node) (rest : List Node) :
    roomOf (node :: rest) = node.room + roomOf rest := by
  rw [roomOf, List.map_cons, List.sum_cons]
  rfl

def IsPart (node : Node) : Prop :=
  Spelled node ∧ 232 ≤ node.room

theorem Spelled.parts {node : Node} (spelled : Spelled node) :
    (∀ part ∈ node.parts, IsPart part) ∧ roomOf node.parts ≤ node.room := by
  induction spelled with
  | empty => exact ⟨List.forall_mem_nil _, Nat.zero_le _⟩
  | one ordered =>
      refine ⟨List.forall_mem_singleton.2 ⟨.one ordered, ?_⟩, Nat.le_refl _⟩
      rw [room]
      omega
  | both _ _ first second =>
      refine ⟨List.forall_mem_append.2 ⟨first.1, second.1⟩, ?_⟩
      rw [Node.parts, room_of_append, room]
      exact Nat.add_le_add first.2 second.2
  | @choice first second preferred other _ _ =>
      refine ⟨List.forall_mem_singleton.2 ⟨.choice preferred other, ?_⟩, Nat.le_refl _⟩
      rw [room]
      have left := first.le_room
      have right := second.le_room
      omega

theorem spelled_of_parts {nodes : List Node} (spelled : ∀ node ∈ nodes, Spelled node) :
    Spelled (ofParts nodes) := by
  fun_induction ofParts nodes with
  | case1 => exact .empty
  | case2 node => exact spelled node List.mem_cons_self
  | case3 node rest filled induction =>
      obtain ⟨first, others⟩ := List.forall_mem_cons.1 spelled
      exact .both first (induction others)

theorem room_of_parts {nodes : List Node} (filled : nodes ≠ []) :
    (ofParts nodes).room = roomOf nodes := by
  fun_induction ofParts nodes with
  | case1 => exact absurd rfl filled
  | case2 node => rfl
  | case3 node rest others induction =>
      rw [room, induction others, room_of_cons]

theorem room_of_parts_le (nodes : List Node) : (ofParts nodes).room ≤ roomOf nodes + 116 := by
  by_cases filled : nodes = []
  · subst filled
    exact Nat.le_refl _
  · rw [room_of_parts filled]
    exact Nat.le_add_right _ _

theorem spelled_sequence {nodes : List Node} (spelled : ∀ node ∈ nodes, Spelled node) :
    Spelled (sequence nodes) := by
  refine spelled_of_parts fun part member => ?_
  obtain ⟨node, held, inside⟩ := List.mem_flatMap.1 member
  exact ((spelled node held).parts.1 part inside).1

theorem room_sequence {nodes : List Node} (filled : nodes ≠ [])
    (spelled : ∀ node ∈ nodes, Spelled node) : (sequence nodes).room ≤ roomOf nodes := by
  have flattened : roomOf (nodes.flatMap parts) ≤ roomOf nodes := by
    clear filled
    induction nodes with
    | nil => exact Nat.le_refl _
    | cons node rest induction =>
        obtain ⟨first, others⟩ := List.forall_mem_cons.1 spelled
        rw [List.flatMap_cons, room_of_append, room_of_cons]
        exact Nat.add_le_add first.parts.2 (induction others)
  rw [sequence]
  by_cases nothing : nodes.flatMap parts = []
  · -- all that is left of empty nodes is an empty one
    rw [nothing]
    obtain ⟨node, rest, rfl⟩ := List.exists_cons_of_ne_nil filled
    rw [room_of_cons]
    exact node.le_room.trans (Nat.le_add_right _ _)
  · rw [room_of_parts nothing]
    exact flattened

theorem spelled_of_ways {nodes : List Node} (spelled : ∀ node ∈ nodes, Spelled node) :
    Spelled (ofWays nodes) := by
  fun_induction ofWays nodes with
  | case1 => exact .one (List.forall_mem_nil _)
  | case2 node => exact spelled node List.mem_cons_self
  | case3 node rest filled induction =>
      obtain ⟨first, others⟩ := List.forall_mem_cons.1 spelled
      exact .choice first (induction others)

theorem room_of_ways {nodes : List Node} (filled : nodes ≠ []) :
    (ofWays nodes).room = roomOf nodes := by
  fun_induction ofWays nodes with
  | case1 => exact absurd rfl filled
  | case2 node => rfl
  | case3 node rest others induction =>
      rw [room, induction others, room_of_cons]

theorem Spelled.ways {node : Node} (spelled : Spelled node) :
    (∀ way ∈ node.ways, Spelled way) ∧ node.ways ≠ [] ∧ roomOf node.ways = node.room := by
  induction spelled with
  | choice _ _ first second =>
      refine ⟨List.forall_mem_append.2 ⟨first.1, second.1⟩, ?_, ?_⟩
      · exact List.append_ne_nil_of_left_ne_nil first.2.1 _
      · rw [Node.ways, room_of_append, room, first.2.2, second.2.2]
  | empty => exact ⟨List.forall_mem_singleton.2 .empty, List.cons_ne_nil _ _, rfl⟩
  | one ordered => exact ⟨List.forall_mem_singleton.2 (.one ordered), List.cons_ne_nil _ _, rfl⟩
  | both before behind _ _ =>
      exact ⟨List.forall_mem_singleton.2 (.both before behind), List.cons_ne_nil _ _, rfl⟩

theorem runs_flatten (nodes : List Node) : (runs nodes).flatten = nodes := by
  fun_induction runs nodes with
  | case1 => rfl
  | case2 node rest next more others found letters induction =>
      rw [found] at induction
      simpa using induction
  | case3 node rest next more others found apart induction =>
      rw [found] at induction
      simpa using induction
  | case4 node rest none induction =>
      rw [List.flatten_cons, induction]
      rfl

theorem runs_filled (nodes : List Node) : ∀ run ∈ runs nodes, run ≠ [] := by
  fun_induction runs nodes with
  | case1 => exact List.forall_mem_nil _
  | case2 node rest next more others found letters induction =>
      rw [found] at induction
      exact List.forall_mem_cons.2 ⟨List.cons_ne_nil _ _, (List.forall_mem_cons.1 induction).2⟩
  | case3 node rest next more others found apart induction =>
      rw [found] at induction
      exact List.forall_mem_cons.2 ⟨List.cons_ne_nil _ _, induction⟩
  | case4 node rest none induction =>
      exact List.forall_mem_cons.2 ⟨List.cons_ne_nil _ _, induction⟩

theorem shared_start_prefix (left right : List (List Node)) :
    sharedStart left right <+: left ∧ sharedStart left right <+: right := by
  fun_induction sharedStart left right with
  | case1 left first right induction =>
      exact ⟨(List.prefix_cons_inj first).2 induction.1, (List.prefix_cons_inj first).2 induction.2⟩
  | case2 => exact ⟨List.nil_prefix, List.nil_prefix⟩
  | case3 => exact ⟨List.nil_prefix, List.nil_prefix⟩

theorem shared_fold_prefix (first : List (List Node)) (others : List (List (List Node))) :
    ∀ runs ∈ first :: others, others.foldl sharedStart first <+: runs := by
  induction others generalizing first with
  | nil => exact List.forall_mem_singleton.2 List.prefix_rfl
  | cons second others induction =>
      have start := shared_start_prefix first second
      obtain ⟨here, behind⟩ := List.forall_mem_cons.1 (induction (sharedStart first second))
      exact List.forall_mem_cons.2
        ⟨here.trans start.1, List.forall_mem_cons.2 ⟨here.trans start.2, behind⟩⟩

theorem shared_runs_prefix (sequences : List (List (List Node))) :
    ∀ runs ∈ sequences, sharedRuns sequences <+: runs := by
  cases sequences with
  | nil => exact List.forall_mem_nil _
  | cons first others =>
      rw [sharedRuns]
      split
      · exact shared_fold_prefix first others
      · exact fun runs _ => List.nil_prefix

/-- What is left of a way behind the runs that all ways start with. -/
def behind (shared : List (List Node)) (node : Node) : Node :=
  ofParts ((runs node.parts).drop shared.length).flatten

section Shared

variable {shared : List (List Node)} {node : Node}

theorem parts_of_shared (start : shared <+: runs node.parts) :
    node.parts = shared.flatten ++ ((runs node.parts).drop shared.length).flatten := by
  rw [← List.flatten_append, List.prefix_iff_eq_append.1 start, runs_flatten]

theorem spelled_behind (spelled : Spelled node) (start : shared <+: runs node.parts) :
    Spelled (behind shared node) := by
  refine spelled_of_parts fun part member => (spelled.parts.1 part ?_).1
  rw [parts_of_shared start]
  exact List.mem_append_right _ member

theorem room_behind (spelled : Spelled node) (start : shared <+: runs node.parts) :
    (behind shared node).room + roomOf shared.flatten ≤ node.room + 116 := by
  have whole := spelled.parts.2
  rw [parts_of_shared start, room_of_append] at whole
  have left := room_of_parts_le ((runs node.parts).drop shared.length).flatten
  rw [behind]
  omega

theorem le_room_shared (spelled : Spelled node) (start : shared <+: runs node.parts)
    (filled : shared ≠ []) : 232 ≤ roomOf shared.flatten := by
  obtain ⟨run, others, rfl⟩ := List.exists_cons_of_ne_nil filled
  obtain ⟨part, rest, rfl⟩ := List.exists_cons_of_ne_nil
    (runs_filled node.parts run (start.subset List.mem_cons_self))
  have held : part ∈ node.parts := by
    rw [parts_of_shared start]
    exact List.mem_append_left _ List.mem_cons_self
  have large := (spelled.parts.1 part held).2
  rw [List.flatten_cons, List.cons_append, room_of_cons]
  omega

theorem room_of_behind {nodes : List Node}
    (start : ∀ node ∈ nodes, Spelled node ∧ shared <+: runs node.parts) :
    roomOf (nodes.map (behind shared)) + nodes.length * roomOf shared.flatten ≤
      roomOf nodes + nodes.length * 116 := by
  induction nodes with
  | nil => simp
  | cons node rest induction =>
      obtain ⟨⟨spelled, first⟩, others⟩ := List.forall_mem_cons.1 start
      have here := room_behind spelled first
      have rest := induction others
      rw [List.map_cons, room_of_cons, room_of_cons, List.length_cons, Nat.add_mul, Nat.add_mul]
      omega

end Shared

theorem room_of_unions {sets : List CharSet} (filled : sets ≠ [])
    (spelled : ∀ node ∈ sets.map Node.one, Spelled node) :
    Spelled (.one (unions sets)) ∧ (Node.one (unions sets)).room ≤ roomOf (sets.map .one) := by
  have ordered : ∀ set ∈ sets, AreOrdered set.ranges := by
    intro set member
    cases spelled _ (List.mem_map_of_mem member) with
    | one ordered => exact ordered
  refine ⟨.one (ordered_of_ranges fun range member => ?_), ?_⟩
  · obtain ⟨set, held, inside⟩ := List.mem_flatMap.1 member
    exact ordered set held range inside
  · have total : roomOf (sets.map .one) =
        sets.length * 232 + 160 * widthOf (sets.flatMap CharSet.ranges) := by
      clear filled spelled ordered
      induction sets with
      | nil => rfl
      | cons set rest induction =>
          rw [List.map_cons, room_of_cons, induction, room, List.flatMap_cons, width_of_append,
            List.length_cons]
          omega
    have joined := width_of_ranges (sets.flatMap CharSet.ranges)
    have present : 0 < sets.length := List.length_pos_of_ne_nil filled
    rw [total, room, unions]
    omega

theorem exists_sets_of_alike {nodes : List Node}
    (alike : (nodes.all isLetter || nodes.all isClass) = true) :
    ∃ sets : List CharSet, nodes = sets.map .one := by
  have each : ∀ node ∈ nodes, ∃ set, node = .one set := by
    intro node member
    rw [Bool.or_eq_true, List.all_eq_true, List.all_eq_true] at alike
    have here : node.isLetter = true ∨ node.isClass = true :=
      alike.imp (fun letters => letters node member) fun classes => classes node member
    cases node with
    | one set => exact ⟨set, rfl⟩
    | _ => simp [isLetter, isClass] at here
  clear alike
  induction nodes with
  | nil => exact ⟨[], rfl⟩
  | cons node rest induction =>
      obtain ⟨⟨set, rfl⟩, others⟩ := List.forall_mem_cons.1 each
      obtain ⟨sets, rfl⟩ := induction others
      exact ⟨set :: sets, rfl⟩

theorem room_of_flattened {nodes : List Node} (filled : nodes ≠ [])
    (spelled : ∀ node ∈ nodes, Spelled node) :
    (∀ way ∈ nodes.flatMap ways, Spelled way) ∧ nodes.flatMap ways ≠ [] ∧
      roomOf (nodes.flatMap ways) = roomOf nodes := by
  refine ⟨fun way member => ?_, ?_, ?_⟩
  · obtain ⟨node, held, inside⟩ := List.mem_flatMap.1 member
    exact (spelled node held).ways.1 way inside
  · obtain ⟨node, rest, rfl⟩ := List.exists_cons_of_ne_nil filled
    exact List.append_ne_nil_of_left_ne_nil (spelled node List.mem_cons_self).ways.2.1 _
  · clear filled
    induction nodes with
    | nil => rfl
    | cons node rest induction =>
        obtain ⟨first, others⟩ := List.forall_mem_cons.1 spelled
        rw [List.flatMap_cons, room_of_append, room_of_cons, first.ways.2.2, induction others]

/-- A common start in front of a choice takes no more room than one in each way. -/
theorem room_of_shared {nodes : List Node} {shared : List (List Node)} {join : List Node → Node}
    (joined : ∀ {nodes : List Node}, nodes ≠ [] → (∀ node ∈ nodes, Spelled node) →
      Spelled (join nodes) ∧ (join nodes).room ≤ roomOf nodes)
    (several : ¬ nodes.length < 2)
    (start : ∀ node ∈ nodes, Spelled node ∧ shared <+: runs node.parts) (filled : shared ≠ []) :
    Spelled (sequence (shared.flatten ++ [join (nodes.map (behind shared))])) ∧
      (sequence (shared.flatten ++ [join (nodes.map (behind shared))])).room ≤ roomOf nodes := by
  obtain ⟨node, rest, rfl⟩ := List.exists_cons_of_length_pos (by omega : 0 < nodes.length)
  obtain ⟨spelled, first⟩ := start node List.mem_cons_self
  obtain ⟨whole, bounded⟩ := @joined ((node :: rest).map (behind shared))
    (List.cons_ne_nil _ _) (List.forall_mem_map.2 fun other member =>
      spelled_behind (start other member).1 (start other member).2)
  have each : ∀ part ∈ shared.flatten ++ [join ((node :: rest).map (behind shared))],
      Spelled part := by
    refine List.forall_mem_append.2 ⟨fun part member => ?_, List.forall_mem_singleton.2 whole⟩
    refine (spelled.parts.1 part ?_).1
    rw [parts_of_shared first]
    exact List.mem_append_left _ member
  refine ⟨spelled_sequence each, (room_sequence (by simp) each).trans ?_⟩
  have total := room_of_behind start
  have large := le_room_shared spelled first filled
  -- one start is left of two or more, which makes up for ways of which nothing is left
  have spared : rest.length * 232 ≤ rest.length * roomOf shared.flatten :=
    Nat.mul_le_mul_left _ large
  rw [List.length_cons] at several
  rw [List.length_cons, Nat.add_mul, Nat.add_mul] at total
  rw [room_of_append, room_of_cons, show roomOf [] = 0 from rfl]
  omega

theorem room_of_alternation_within (fuel : Nat) {nodes : List Node} (filled : nodes ≠ [])
    (spelled : ∀ node ∈ nodes, Spelled node) :
    Spelled (alternationWithin fuel nodes) ∧
      (alternationWithin fuel nodes).room ≤ roomOf nodes := by
  induction fuel generalizing nodes with
  | zero => exact ⟨spelled_of_ways spelled, (room_of_ways filled).le⟩
  | succ fuel induction =>
      obtain ⟨each, present, same⟩ := room_of_flattened filled spelled
      rw [← same, alternationWithin]
      generalize nodes.flatMap ways = nodes at each present
      have plain : Spelled (ofWays nodes) ∧ (ofWays nodes).room ≤ roomOf nodes :=
        ⟨spelled_of_ways each, (room_of_ways present).le⟩
      dsimp only
      split
      · exact plain
      · next several =>
          split
          · next alike =>
              obtain ⟨sets, rfl⟩ := exists_sets_of_alike alike
              simp only [List.filterMap_map, Function.comp_def, List.filterMap_some]
              exact room_of_unions (mt List.map_eq_nil_iff.2 present) each
          · generalize started : sharedRuns (nodes.map fun node => runs node.parts) = shared
            have start : ∀ node ∈ nodes, Spelled node ∧ shared <+: runs node.parts := by
              intro node member
              rw [← started]
              exact ⟨each node member, shared_runs_prefix _ _ (List.mem_map_of_mem member)⟩
            split
            · exact plain
            · next unequal =>
                rw [List.map_map]
                exact room_of_shared induction several start (mt List.isEmpty_iff.2 unequal)

/-- Ways put together to a choice take no more room than each on its own. -/
theorem room_of_alternation {nodes : List Node} (filled : nodes ≠ [])
    (spelled : ∀ node ∈ nodes, Spelled node) :
    Spelled (alternation nodes) ∧ (alternation nodes).room ≤ roomOf nodes :=
  room_of_alternation_within _ filled spelled

end Node

namespace Automaton

variable {α β : Type}

def Takes (least : Nat) (steps : Counting α) : Prop :=
  ∀ before value after, steps.run before = some (value, after) →
    before.bytes + least ≤ after.bytes

theorem Takes.pure (value : α) : Takes 0 (pure value) := by
  intro before given after ran
  cases ran
  exact Nat.le_refl _

theorem Takes.bind {first second : Nat} {steps : Counting α} {next : α → Counting β}
    (takes : Takes first steps) (others : ∀ value, Takes second (next value)) :
    Takes (first + second) (steps >>= next) := by
  intro before value after ran
  rw [StateT.run_bind] at ran
  obtain ⟨⟨given, middle⟩, here, there⟩ := Option.bind_eq_some_iff.1 ran
  have early := takes before given middle here
  have late := others given middle value after there
  omega

theorem Takes.mono {least fewer : Nat} {steps : Counting α} (takes : Takes least steps)
    (le : fewer ≤ least) : Takes fewer steps :=
  fun before value after ran => (Nat.add_le_add_left le _).trans (takes before value after ran)

theorem run_add_states {states extra : Nat} {before after : Tally} {value : Unit}
    (ran : (addStates states extra).run before = some (value, after)) :
    after.bytes = before.bytes + stateBytes * states + extra ∧ after.bytes ≤ sizeLimit := by
  simp only [addStates, StateT.run_bind, StateT.run_get, pure_bind] at ran
  split at ran
  · next inside =>
      cases ran
      refine ⟨?_, inside⟩
      simp only [Tally.bytes, Nat.mul_add]
      omega
  · cases ran

theorem takes_add_states (states extra : Nat) :
    Takes (stateBytes * states + extra) (addStates states extra) := by
  intro before value after ran
  rw [(run_add_states ran).1]
  omega

theorem takes_get : Takes 0 (get : Counting Tally) := by
  intro before value after ran
  cases ran
  exact Nat.le_refl _

theorem takes_add_state (extra : Nat) : Takes stateBytes (addState extra) := by
  have counted (number : Nat) : Takes stateBytes
      (addStates 1 extra >>= fun _ => (pure number : Counting Nat)) :=
    ((takes_add_states 1 extra).bind fun _ => .pure number).mono (Nat.le_add_right _ _)
  exact (takes_get.bind fun tally => counted tally.states).mono (Nat.le_add_left _ _)

theorem takes_shared_state {κ : Type} [DecidableEq κ] (place extra : Nat) (key : κ)
    (table : Table κ) : Takes 0 (sharedState place extra key table) := by
  have added : Takes 0 (addState extra >>= fun state =>
      (pure (table.insert place (key, state), state) : Counting (Table κ × Nat))) :=
    ((takes_add_state extra).bind fun state => .pure _).mono (Nat.zero_le _)
  unfold sharedState
  split
  · split
    · exact .pure _
    · exact added
  · exact added

theorem takes_finish_state (steps : List Step) (table : StepTable) :
    Takes 0 (finishState steps table) :=
  takes_shared_state _ _ _ _

theorem takes_finish_behind (keep : Nat) (states : List OpenState) (next : Nat)
    (table : StepTable) : Takes 0 (finishBehind keep states next table) := by
  induction states generalizing next table with
  | nil => exact .pure _
  | cons state rest induction =>
      rw [finishBehind]
      split
      · exact (takes_finish_state _ _).bind fun finished => induction finished.2 finished.1
      · exact .pure _

theorem takes_forward_sequences (target : Nat) (sequences : List (List ByteRange))
    (states : List OpenState) (table : StepTable) :
    Takes 0 (forwardSequences target sequences states table) := by
  induction sequences generalizing states table with
  | nil => exact .pure _
  | cons sequence others induction =>
      exact (takes_finish_behind _ _ _ _).bind fun finished => induction _ _

theorem takes_forward_set (sequences : List (List ByteRange)) :
    Takes stateBytes (countForwardSet sequences) := by
  change Takes (stateBytes + 0) _
  refine (takes_add_state 0).bind fun target => ?_
  change Takes (0 + 0) _
  refine (takes_forward_sequences _ _ _ _).bind fun passed => ?_
  change Takes (0 + 0) _
  refine (takes_finish_behind _ _ _ _).bind fun finished => ?_
  obtain ⟨table, states⟩ := finished
  cases states with
  | nil => exact .pure _
  | cons root others => exact (takes_finish_state _ _).bind fun _ => .pure _

theorem takes_set (set : CharSet) : Takes stateBytes (countSet .forward set) := by
  unfold countSet
  split
  · next letter _ =>
      have encoded : 0 < (Utf8.encode letter.toNat).length := by
        unfold Utf8.encode
        split
        · exact Nat.succ_pos _
        · split
          · exact Nat.succ_pos _
          · split <;> exact Nat.succ_pos _
      exact (takes_add_states _ _).mono (Nat.le_mul_of_pos_right _ encoded)
  · split
    · exact (takes_add_states _ _).mono (by omega)
    · exact takes_forward_set _

end Automaton

namespace Node

open Automaton

inductive Row : Nat → Node → Prop
  | one (set : CharSet) : Row 1 (.one set)
  | group {count : Nat} {body : Node} (number : Nat) (row : Row count body) :
      Row count (.group number body)
  | both {first second : Nat} {before behind : Node} (early : Row first before)
      (late : Row second behind) : Row (first + second) (.both before behind)

variable {count : Nat} {node : Node}

theorem Row.le_bytes_bound (row : Row count node) : stateBytes * count ≤ node.bytesBound := by
  induction row with
  | one set =>
      rw [bytesBound, stateBytes]
      omega
  | group number row induction =>
      rw [bytesBound]
      omega
  | both _ _ first second =>
      rw [bytesBound, Nat.mul_add]
      omega

section Forward

variable (number : Nat) (set : CharSet) (first second body : Node)

theorem count_of_one : countWays ((Node.one set).countedWays .forward) =
    countSet .forward set >>= fun _ => pure .plain := by
  rw [countedWays, countWays]

theorem count_of_group : countWays ((Node.group number body).countedWays .forward) =
    addStates 1 0 >>= fun _ => countWays (body.countedWays .forward) >>= fun ending =>
      addStates 1 (wayBytes * ending.ways) >>= fun _ => pure .plain := by
  rw [countedWays, countWays]

theorem count_of_both : countWays ((Node.both first second).countedWays .forward) =
    countWays (first.countedWays .forward) >>= fun before =>
      countWays (second.countedWays .forward) >>= fun ending =>
        addWays before.ways >>= fun _ => pure ending := by
  rw [countedWays, countWays]
  rfl

end Forward

theorem Row.takes (row : Row count node) :
    Takes (stateBytes * count) (countWays (node.countedWays .forward)) := by
  induction row with
  | one set =>
      rw [count_of_one]
      exact (takes_set set).bind fun _ => .pure _
  | @group count body number row induction =>
      have closed (ending : Ending) : Takes 0
          (addStates 1 (wayBytes * ending.ways) >>= fun _ => (pure .plain : Counting Ending)) :=
        ((takes_add_states 1 _).bind fun _ => .pure _).mono (Nat.zero_le _)
      rw [count_of_group]
      exact ((takes_add_states 1 0).bind fun _ => induction.bind closed).mono (Nat.le_add_left _ _)
  | @both first second before behind _ _ early late =>
      have joined (ending last : Ending) :
          Takes 0 (addWays ending.ways >>= fun _ => (pure last : Counting Ending)) :=
        ((takes_add_states 0 _).bind fun _ => .pure _).mono (Nat.zero_le _)
      rw [count_of_both, Nat.mul_add]
      exact early.bind fun ending => late.bind fun last => joined ending last

theorem row_of_parts {sets : List CharSet} (filled : sets ≠ []) :
    Row sets.length (ofParts (sets.map .one)) := by
  induction sets with
  | nil => exact absurd rfl filled
  | cons set rest induction =>
      cases rest with
      | nil => exact .one set
      | cons second others =>
          rw [List.length_cons, Nat.add_comm]
          exact .both (.one set) (induction (List.cons_ne_nil _ _))

theorem Row.ways_eq (row : Row count node) : node.ways = [node] := by
  cases row with
  | _ => rfl

theorem Row.alternation_eq (row : Row count node) : alternation [node] = node := by
  have joined (fuel : Nat) : alternationWithin (fuel + 1) [node] = node := by
    rw [alternationWithin, List.flatMap_singleton, row.ways_eq]
    rfl
  rw [alternation, List.foldl_cons, List.foldl_nil, Nat.add_comm, joined]

/-- Too many letters one behind another do not fit. -/
theorem Row.fits_eq_false (row : Row count node) (many : sizeLimit < stateBytes * count) :
    node.fits = false := by
  have behind (states extra : Nat) : (addStates states extra >>= fun _ =>
      countWays ((Node.group 0 node).countedWays .forward) >>= fun ending =>
        addStates 1 (wayBytes * ending.ways)).run ⟨0, 0⟩ = none := by
    refine Option.eq_none_iff_forall_ne_some.2 fun counted ran => ?_
    simp only [StateT.run_bind, Option.bind_eq_bind, Option.bind_eq_some_iff] at ran
    obtain ⟨⟨_, early⟩, opened, ⟨ending, late⟩, inside, closed⟩ := ran
    have letters : early.bytes + stateBytes * count ≤ late.bytes :=
      (Row.group 0 row).takes _ _ _ inside
    have ended := run_add_states closed
    dsimp only at ended
    omega
  have never : (node.countAll .forward).run ⟨0, 0⟩ = none := by
    simp only [countAll]
    split
    · exact behind _ _
    · exact behind _ _
  have bound := row.le_bytes_bound
  rw [fits, Bool.or_eq_false_iff, decide_eq_false_iff_not, List.all_cons, Bool.and_eq_false_iff]
  refine ⟨by omega, .inl ?_⟩
  change ((node.countAll .forward).run ⟨0, 0⟩).isSome = false
  rw [never]
  rfl

end Node

end RepoRules.Pattern
