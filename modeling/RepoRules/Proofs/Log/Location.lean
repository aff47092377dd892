import RepoRules.Log.Location
import RepoRules.Proofs.Files.Places

/-!
Which relative directories are accepted for the log file. From an absolute anchor these are the ones
at or below it, whatever the tree holds. From a relative one they are those of them to which the
path leads already: a directory that is still to be made is refused.
-/

namespace RepoRules.Log

open Files

section Running

variable {directory : Path} (relative : directory.isAbsolute = false) (home : Option String)
  (anchor : Path) (tree : Tree)

include relative

theorem directory_path_of_relative :
    directoryPath home (some anchor) (some directory) = .ok (anchor.join directory) := by
  unfold directoryPath
  dsimp only
  rw [relative]
  rfl

theorem run_directory :
    (Log.directory Access.ofTree home (some anchor) (some directory)).run tree =
      let place := ((Access.ofTree.resolve (anchor.join directory)).run tree).1
      let start := ((Access.ofTree.resolve anchor).run tree).1
      (if place.isWithin start then .ok place
        else .error (.outside "config directory" start.text), tree) := by
  unfold Log.directory
  rw [directory_path_of_relative relative]
  simp only [Option.all_some, relative, Bool.false_eq_true, if_false, root, StateT.run_bind,
    run_resolve]
  rfl

end Running

theorem run_file {settings : Settings} {configured : String}
    (given : settings.directory = some configured) (home : Option String) (anchor : Path)
    (tree : Tree) :
    (file Access.ofTree home (some anchor) settings).run tree =
      match (directory Access.ofTree home (some anchor) (some (.ofText configured))).run tree with
      | (.ok place, after) => (.ok (place.join fileName), after)
      | (.error fault, after) => (.error fault, after) := by
  unfold file
  rw [given, Option.map_some, StateT.run_bind]
  rcases (directory Access.ofTree home (some anchor) (some (.ofText configured))).run tree with
    ⟨_ | _, after⟩
  · rfl
  · rfl

/-- The log file is where a relative directory says, if that is at or below the anchor, and unless
the anchor is relative and the path leads nowhere yet; else the directory is refused. -/
theorem relative_directory_is_taken_from_anchor {settings : Settings} {configured : String}
    (given : settings.directory = some configured)
    (relative : (Path.ofText configured).isAbsolute = false) {tree : Tree} {anchor : Path}
    {names : List String} (stands : tree.locate anchor = .ok (names, .directory))
    (home : Option String) :
    let asked := anchor.join (.ofText configured)
    (file Access.ofTree home (some anchor) settings).run tree =
      (if names <+: tree.denoted asked ∧ (anchor.isAbsolute ∨ tree.isThere asked) then
          .ok ⟨true, tree.denoted asked ++ ["rulebot.log"]⟩
        else .error (.outside "config directory" (Place.text ⟨true, names⟩)), tree) := by
  have there : tree.isThere anchor = true := by
    rw [Tree.isThere, stands]
    rfl
  obtain rfl := locate_names stands
  have joined := join_absolute anchor relative
  dsimp only
  rw [run_file given, run_directory relative]
  simp only [run_resolve tree anchor, there, or_true, if_true, within_iff]
  generalize anchor.join (.ofText configured) = asked at joined
  simp only [run_resolve, joined]
  by_cases reached : anchor.isAbsolute = true ∨ tree.isThere asked = true
  · by_cases below : tree.denoted anchor <+: tree.denoted asked
    · simp only [reached, below, if_true, true_and]
      rfl
    · simp only [reached, below, if_true, if_false, true_and, and_true]
  · have kept : asked.place.isAbsolute = false := by
      rw [not_or] at reached
      exact joined.trans (Bool.eq_false_iff.2 reached.1)
    simp only [reached, if_false, kept, Bool.false_eq_true, false_and, and_false]

def workplace (directories : List (List String)) : Tree :=
  ⟨[(["work", "rulebot.toml"], "")], directories, ["work"]⟩

theorem existing_directory_is_accepted :
    (Path.ofText "../work/./logs").isAbsolute = false ∧
      (workplace [["work", "logs"]]).locate (.ofText ".") = .ok (["work"], .directory) ∧
      ((file Access.ofTree none (some (.ofText ".")) { Settings.default with
          directory := some "../work/./logs" }).run (workplace [["work", "logs"]])).1 =
        .ok ⟨true, ["work", "logs", "rulebot.log"]⟩ := by
  have relative : (Path.ofText "../work/./logs").isAbsolute = false := by decide
  have stands : (workplace [["work", "logs"]]).locate (.ofText ".") =
      .ok (["work"], .directory) := rfl
  refine ⟨relative, stands, ?_⟩
  rw [relative_directory_is_taken_from_anchor rfl relative stands none, if_pos (by decide)]
  rfl

/-- A directory below a relative anchor is refused as long as it is not there. -/
theorem missing_directory_is_refused :
    let asked := (Path.ofText ".").join (.ofText "logs")
    let settings : Settings := { Settings.default with directory := some "logs" }
    (workplace []).denoted asked = ["work"] ++ ["logs"] ∧
      ((file Access.ofTree none (some (.ofText ".")) settings).run (workplace [])).1 =
        .error (.outside "config directory" "/work") ∧
      ((file Access.ofTree none (some (.ofText "/work")) settings).run (workplace [])).1 =
        .ok ⟨true, ["work", "logs", "rulebot.log"]⟩ ∧
      ((file Access.ofTree none (some (.ofText ".")) settings).run
          (workplace [["work", "logs"]])).1 =
        .ok ⟨true, ["work", "logs", "rulebot.log"]⟩ := by
  refine ⟨?_, ?_, ?_, ?_⟩
  all_goals rfl

end RepoRules.Log
