import RepoRules.Rules.Document

/-!
Which steps handle an action. An action may name another action to use instead; that one must have
steps of its own.
-/

namespace RepoRules

/-- What an action leads to: the action whose steps are used, whether that is another than the one
asked for, and the steps; or nothing at all, which is no error. -/
inductive Resolution where
  | resolved (action : String) (remapped : Bool) (steps : List Step)
  | undefined

namespace Resolution

def maximumHops : Nat := 1

/-- Looks up an action, following names while there are hops left. -/
def follow (table : OrderedMap ActionEntry) :
    (hops : Nat) → (remapped : Bool) → (action : String) → Except RuleError Resolution
  | hops, remapped, action =>
      match table.get? action with
      | none => .ok .undefined
      | some (.sequence steps) => .ok (.resolved action remapped steps)
      | some (.other _) => .error (.notASequence action)
      | some (.alias target) =>
          match hops with
          | 0 => .error (.doubleRemap action target)
          | hops + 1 =>
              if target = action then .error (.selfRemap action)
              else follow table hops true target

end Resolution

def resolve (table : OrderedMap ActionEntry) (action : String) : Except RuleError Resolution :=
  Resolution.follow table Resolution.maximumHops false action

end RepoRules
