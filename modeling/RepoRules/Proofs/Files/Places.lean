import RepoRules.Files.Access

/-!
Where paths lead. Without links a path that leads anywhere leads to what its text says, from the top
or from the working directory. So a tree decides whether a path leads there, never where.
-/

namespace RepoRules.Files

/-- The names from the top that a path stands for, whether or not something is there. -/
def Tree.denoted (tree : Tree) (path : Path) : List String :=
  path.parts.foldl Part.follow (if path.isAbsolute then [] else tree.working)

section Following

variable {tree : Tree} {path : Path} {names found : List String}

theorem follow_eq {parts : List Part} (followed : tree.follow names parts = .ok found) :
    found = parts.foldl Part.follow names := by
  induction parts generalizing names with
  | nil => exact (Except.ok.inj followed).symm
  | cons part rest induction =>
      rw [Tree.follow] at followed
      split at followed
      · exact induction followed
      · cases followed
      · cases followed

/-- What is found where a path leads is found at the names that the path stands for. -/
theorem locate_names {node : Node} (located : tree.locate path = .ok (names, node)) :
    names = tree.denoted path := by
  unfold Tree.locate at located
  cases empty : path.isEmpty with
  | true =>
      rw [empty] at located
      cases located
  | false =>
      rw [empty] at located
      rcases followed : tree.follow (if path.isAbsolute then [] else tree.working) path.parts with
        fault | reached
      · rw [followed] at located
        cases located
      · rw [followed] at located
        rcases held : tree.node? reached with _ | found
        · simp only [Bool.false_eq_true, if_false, bind, Except.bind, held] at located
          cases located
        · simp only [Bool.false_eq_true, if_false, bind, Except.bind, held] at located
          cases located
          exact follow_eq followed

theorem canonical_of_there (there : tree.isThere path = true) :
    tree.canonical? path = some ⟨true, tree.denoted path⟩ := by
  unfold Tree.isThere at there
  unfold Tree.canonical?
  cases located : tree.locate path with
  | error fault =>
      rw [located] at there
      cases there
  | ok place =>
      rw [← locate_names (located : tree.locate path = .ok (place.1, place.2))]
      rfl

theorem canonical_of_missing (missing : tree.isThere path = false) :
    tree.canonical? path = none := by
  unfold Tree.isThere at missing
  unfold Tree.canonical?
  cases located : tree.locate path with
  | error fault => rfl
  | ok place =>
      rw [located] at missing
      cases missing

end Following

/-- A path that is absolute, or leads somewhere, is resolved to what it stands for. What a relative
one that leads nowhere is resolved to stays relative. -/
theorem run_resolve (tree : Tree) (path : Path) :
    (Access.ofTree.resolve path).run tree =
      (if path.isAbsolute ∨ tree.isThere path then ⟨true, tree.denoted path⟩ else path.place,
        tree) := by
  have looked : (Access.ofTree.resolve path).run tree =
      ((tree.canonical? path).getD path.place, tree) := rfl
  rw [looked]
  cases there : tree.isThere path with
  | true =>
      rw [canonical_of_there there, if_pos (.inr rfl)]
      rfl
  | false =>
      rw [canonical_of_missing there, Option.getD_none]
      by_cases top : path.isAbsolute = true
      · rw [if_pos (.inl top), Path.place, Tree.denoted, if_pos top, top]
      · rw [if_neg (not_or.2 ⟨top, Bool.false_ne_true⟩)]

theorem join_absolute (base : Path) {path : Path} (relative : path.isAbsolute = false) :
    (base.join path).isAbsolute = base.isAbsolute := by
  unfold Path.join
  rw [relative, if_neg Bool.false_ne_true]
  split
  · rfl
  · rfl

/-- Within an absolute place are just the absolute ones whose names go on where it ends. -/
theorem within_iff (place : Place) (names : List String) :
    place.isWithin ⟨true, names⟩ = true ↔ place.isAbsolute = true ∧ names <+: place.names := by
  rw [Place.isWithin, Bool.or_eq_true, Bool.and_eq_true, Bool.and_eq_true, beq_iff_eq,
    List.isPrefixOf_iff_prefix]
  refine ⟨fun within => ?_, fun ⟨absolute, below⟩ => .inl ⟨absolute.symm, below⟩⟩
  rcases within with ⟨absolute, below⟩ | ⟨relative, -⟩
  · exact ⟨absolute.symm, below⟩
  · cases relative

end RepoRules.Files
