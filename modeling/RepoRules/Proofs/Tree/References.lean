import Mathlib.Data.List.Perm.Subperm
import Mathlib.Logic.Relation
import RepoRules.Rules.Tree

/-!
Which predefined sequences refer to which. A reference counts where building a tree would follow it:
in a sequence itself, in the lists inside it, and in the body of a files step whose pattern can be
read.
-/

namespace RepoRules

mutual

def Step.references : Step → List String
  | .action (.predefined name) => [name]
  | .action (.check _) | .action (.operation _) => []
  | .group steps => Step.referencesOf steps
  | .files _ source body =>
      match Pattern.parse source with
      | .ok _ => Step.referencesOf body
      | .error _ => []
  | .malformed _ _ => []

def Step.referencesOf : List Step → List String
  | [] => []
  | step :: rest => step.references ++ Step.referencesOf rest

end

def Step.referring (name : String) : List Step :=
  [.action (.predefined name)]

namespace OrderedMap

variable {α : Type} (map : OrderedMap α)

theorem mem_entries_of_get? {name : String} {value : α} (found : map.get? name = some value) :
    (name, value) ∈ map.entries := by
  obtain ⟨entries⟩ := map
  simp only [get?] at found ⊢
  induction entries with
  | nil => simp at found
  | cons entry rest induction =>
      obtain ⟨other, held⟩ := entry
      by_cases same : name = other
      · subst same
        rw [lookup_cons_self] at found
        cases found
        exact List.mem_cons_self
      · rw [lookup_cons_of_ne same] at found
        exact List.mem_cons_of_mem _ (induction found)

theorem mem_keys_of_get? {name : String} {value : α} (found : map.get? name = some value) :
    name ∈ map.keys :=
  List.mem_map_of_mem (map.mem_entries_of_get? found)

theorem length_le_size_of_nodup {names : List String} (distinct : names.Nodup)
    (known : ∀ name ∈ names, (map.get? name).isSome) : names.length ≤ map.size := by
  have present : names ⊆ map.keys := by
    intro name member
    obtain ⟨value, found⟩ := Option.isSome_iff_exists.1 (known name member)
    exact map.mem_keys_of_get? found
  simpa [keys, size] using (distinct.subperm present).length_le

end OrderedMap

namespace RuleDocument

variable (document : RuleDocument)

def RefersTo (name other : String) : Prop :=
  ∃ steps, document.predefined.get? name = some steps ∧ other ∈ Step.referencesOf steps

def Includes : String → String → Prop :=
  Relation.TransGen document.RefersTo

def Acyclic : Prop :=
  ∀ name, ¬ document.Includes name name

/-- A sequence of steps leads to a name: it refers to it, or to a sequence that leads to it. -/
def Reaches (steps : List Step) (name : String) : Prop :=
  ∃ first ∈ Step.referencesOf steps, Relation.ReflTransGen document.RefersTo first name

variable {document}

/-- Where every reference goes down in rank, nothing leads back to itself. -/
theorem acyclic_of_rank (rank : String → Nat)
    (falls : ∀ entry ∈ document.predefined.entries, ∀ other ∈ Step.referencesOf entry.2,
      rank other < rank entry.1) : document.Acyclic := by
  have lower : ∀ name other, document.RefersTo name other → rank other < rank name := by
    rintro name other ⟨steps, defined, refers⟩
    exact falls (name, steps) (document.predefined.mem_entries_of_get? defined) other refers
  have falling : ∀ name other, document.Includes name other → rank other < rank name := by
    intro name other leads
    induction leads with
    | single refers => exact lower _ _ refers
    | tail _ refers induction => exact Nat.lt_trans (lower _ _ refers) induction
  intro name leads
  exact Nat.lt_irrefl _ (falling name name leads)

theorem reaches_of_reference {steps : List Step} {name : String}
    (refers : name ∈ Step.referencesOf steps) : document.Reaches steps name :=
  ⟨name, refers, .refl⟩

theorem Reaches.of_references {steps others : List Step} {name : String}
    (leads : document.Reaches steps name)
    (within : ∀ other ∈ Step.referencesOf steps, other ∈ Step.referencesOf others) :
    document.Reaches others name := by
  obtain ⟨first, present, path⟩ := leads
  exact ⟨first, within first present, path⟩

theorem Reaches.of_defined {steps others : List Step} {name other : String}
    (leads : document.Reaches steps other) (defined : document.predefined.get? name = some steps)
    (refers : name ∈ Step.referencesOf others) : document.Reaches others other := by
  obtain ⟨first, present, path⟩ := leads
  exact ⟨name, refers, .head ⟨steps, defined, present⟩ path⟩

theorem includes_of_reaches {steps : List Step} {name other : String}
    (defined : document.predefined.get? name = some steps) (leads : document.Reaches steps other) :
    document.Includes name other := by
  obtain ⟨first, present, path⟩ := leads
  exact Relation.TransGen.head' ⟨steps, defined, present⟩ path

theorem Reaches.trans {steps : List Step} {name other : String}
    (leads : document.Reaches steps name)
    (further : Relation.ReflTransGen document.RefersTo name other) :
    document.Reaches steps other := by
  obtain ⟨first, present, path⟩ := leads
  exact ⟨first, present, path.trans further⟩

def ofPredefined (sequences : List (String × List Step)) : RuleDocument where
  revision := 1
  schemaVersion := minimumVersion
  ownerAlias := ""
  metadata := ⟨[], [], none⟩
  actions _ := .empty
  predefined := ⟨sequences⟩

def welcoming : RuleDocument :=
  ofPredefined
    [("welcome", Step.referring "greeting" ++ [.group (Step.referring "greeting")]),
      ("greeting", [.action (.operation (.labels .add ["greeted"]))])]

theorem welcoming_acyclic : welcoming.Acyclic :=
  acyclic_of_rank (fun name => if name = "welcome" then 1 else 0) (by decide +kernel)

end RuleDocument

end RepoRules
