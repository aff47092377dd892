import Mathlib.Logic.Relation
import RepoRules.Rules.Resolution

/-!
Actions that name other actions. Steps are looked for from name to name, one entry of the table at a
time. At most one name is followed, so that two entries settle what comes of an action; chains of
names and names that lead in a circle are errors.
-/

namespace RepoRules

namespace Resolution

/-- The name at hand, and how many names have been followed to it. -/
structure Position where
  action : String
  hops : Nat

inductive Look where
  | ends (result : Except RuleError Resolution)
  | follows (next : Position)

/-- Looks at the entry of the name at hand. Whether a further name may be followed is asked before
that name is compared with the one at hand. -/
def look (table : OrderedMap ActionEntry) (position : Position) : Look :=
  match table.get? position.action with
  | none => .ends (.ok .undefined)
  | some (.sequence steps) =>
      .ends (.ok (.resolved position.action (decide (0 < position.hops)) steps))
  | some (.other _) => .ends (.error (.notASequence position.action))
  | some (.alias target) =>
      if maximumHops ≤ position.hops then .ends (.error (.doubleRemap position.action target))
      else if target = position.action then .ends (.error (.selfRemap position.action))
      else .follows ⟨target, position.hops + 1⟩

/-- Looking goes on until a look is the last one, however many there are. -/
inductive Looks (table : OrderedMap ActionEntry) :
    Position → Nat → Except RuleError Resolution → Prop
  | last {position : Position} {result : Except RuleError Resolution}
      (ends : look table position = .ends result) : Looks table position 1 result
  | again {position next : Position} {count : Nat} {result : Except RuleError Resolution}
      (follows : look table position = .follows next) (behind : Looks table next count result) :
      Looks table position (count + 1) result

/-- What comes of an action by its own entry and, if that names another action, by the entry of
that one. -/
inductive Settles (table : OrderedMap ActionEntry) (action : String) :
    Except RuleError Resolution → Prop
  | undefined (missing : table.get? action = none) : Settles table action (.ok .undefined)
  | steps {steps : List Step} (held : table.get? action = some (.sequence steps)) :
      Settles table action (.ok (.resolved action false steps))
  | noSequence {text : String} (held : table.get? action = some (.other text)) :
      Settles table action (.error (.notASequence action))
  | itself (names : table.get? action = some (.alias action)) :
      Settles table action (.error (.selfRemap action))
  | undefinedTarget {target : String} (names : table.get? action = some (.alias target))
      (differs : target ≠ action) (missing : table.get? target = none) :
      Settles table action (.ok .undefined)
  | targetSteps {target : String} {steps : List Step}
      (names : table.get? action = some (.alias target)) (differs : target ≠ action)
      (held : table.get? target = some (.sequence steps)) :
      Settles table action (.ok (.resolved target true steps))
  | chained {target further : String} (names : table.get? action = some (.alias target))
      (differs : target ≠ action) (held : table.get? target = some (.alias further)) :
      Settles table action (.error (.doubleRemap target further))
  | noTargetSequence {target text : String} (names : table.get? action = some (.alias target))
      (differs : target ≠ action) (held : table.get? target = some (.other text)) :
      Settles table action (.error (.notASequence target))

def Names (table : OrderedMap ActionEntry) (action target : String) : Prop :=
  table.get? action = some (.alias target)

variable {table : OrderedMap ActionEntry} {action : String}

theorem looks_unique {position : Position} {count other : Nat}
    {result found : Except RuleError Resolution} (looks : Looks table position count result)
    (others : Looks table position other found) : other = count ∧ found = result := by
  induction looks generalizing other with
  | last ends =>
      cases others with
      | last same =>
          rw [ends] at same
          cases same
          exact ⟨rfl, rfl⟩
      | again follows _ =>
          rw [ends] at follows
          cases follows
  | again follows _ induction =>
      cases others with
      | last ends =>
          rw [follows] at ends
          cases ends
      | again same behind =>
          rw [follows] at same
          cases same
          have later := induction behind
          exact ⟨congrArg (· + 1) later.1, later.2⟩

/-- As long as names may be followed, looking on comes to what is found by following as many. -/
theorem looks_follow (hops : Nat) (position : Position)
    (left : hops + position.hops = maximumHops) :
    ∃ count, count ≤ hops + 1 ∧ Looks table position count
      (follow table hops (decide (0 < position.hops)) position.action) := by
  induction hops generalizing position with
  | zero =>
      refine ⟨1, Nat.le_refl 1, .last ?_⟩
      have spent : maximumHops ≤ position.hops := by omega
      unfold look follow
      cases table.get? position.action with
      | none => rfl
      | some entry =>
          cases entry with
          | sequence steps => rfl
          | other text => rfl
          | «alias» target => simp only [if_pos spent]
  | succ hops induction =>
      have unspent : ¬maximumHops ≤ position.hops := by omega
      unfold follow
      cases held : table.get? position.action with
      | none =>
          refine ⟨1, by omega, .last ?_⟩
          simp only [look, held]
      | some entry =>
          cases entry with
          | sequence steps =>
              refine ⟨1, by omega, .last ?_⟩
              simp only [look, held]
          | other text =>
              refine ⟨1, by omega, .last ?_⟩
              simp only [look, held]
          | «alias» target =>
              by_cases same : target = position.action
              · refine ⟨1, by omega, .last ?_⟩
                simp only [look, held, if_neg unspent, if_pos same]
              · have onward : look table position = .follows ⟨target, position.hops + 1⟩ := by
                  simp only [look, held, if_neg unspent, if_neg same]
                have counted : hops + (position.hops + 1) = maximumHops := by omega
                obtain ⟨count, few, behind⟩ := induction ⟨target, position.hops + 1⟩ counted
                refine ⟨count + 1, by omega, .again onward ?_⟩
                simpa only [if_neg same, Nat.zero_lt_succ, decide_true] using behind

theorem resolve_eq_of_settles {result : Except RuleError Resolution}
    (settles : Settles table action result) : resolve table action = result := by
  unfold resolve maximumHops follow
  cases settles with
  | undefined missing => simp only [missing]
  | steps held => simp only [held]
  | noSequence held => simp only [held]
  | itself names => simp only [names, if_true]
  | undefinedTarget names differs missing =>
      simp only [names, if_neg differs, follow, missing]
  | targetSteps names differs held => simp only [names, if_neg differs, follow, held]
  | chained names differs held => simp only [names, if_neg differs, follow, held]
  | noTargetSequence names differs held => simp only [names, if_neg differs, follow, held]

/-- Every table settles every action. -/
theorem exists_settles (table : OrderedMap ActionEntry) (action : String) :
    ∃ result, Settles table action result := by
  cases held : table.get? action with
  | none => exact ⟨_, .undefined held⟩
  | some entry =>
      cases entry with
      | sequence steps => exact ⟨_, .steps held⟩
      | other text => exact ⟨_, .noSequence held⟩
      | «alias» target =>
          by_cases same : target = action
          · subst same
            exact ⟨_, .itself held⟩
          · cases further : table.get? target with
            | none => exact ⟨_, .undefinedTarget held same further⟩
            | some entry =>
                cases entry with
                | sequence steps => exact ⟨_, .targetSteps held same further⟩
                | other text => exact ⟨_, .noTargetSequence held same further⟩
                | «alias» last => exact ⟨_, .chained held same further⟩

theorem resolve_eq_iff {result : Except RuleError Resolution} :
    resolve table action = result ↔ Settles table action result := by
  constructor
  · intro resolved
    obtain ⟨found, settles⟩ := exists_settles table action
    rw [← resolved, resolve_eq_of_settles settles]
    exact settles
  · exact resolve_eq_of_settles

theorem resolve_chain {target further : String} (first : Names table action target)
    (second : Names table target further) :
    resolve table action =
      .error (if target = action then .selfRemap action else .doubleRemap target further) := by
  by_cases same : target = action
  · rw [if_pos same]
    subst same
    exact resolve_eq_of_settles (.itself first)
  · rw [if_neg same]
    exact resolve_eq_of_settles (.chained first same second)

/-- Who names someone on a circle names someone who names someone. -/
theorem chain_of_cycle {member : String} (leads : Relation.ReflTransGen (Names table) action member)
    (cycle : Relation.TransGen (Names table) member member) :
    ∃ target further, Names table action target ∧ Names table target further := by
  have onward : Relation.TransGen (Names table) action member := cycle.trans_right leads
  obtain ⟨target, first, rest⟩ := Relation.TransGen.head'_iff.1 onward
  have behind : Relation.TransGen (Names table) target member := cycle.trans_right rest
  obtain ⟨further, second, _⟩ := Relation.TransGen.head'_iff.1 behind
  exact ⟨target, further, first, second⟩

/-- What comes of an action is settled by its entry and the entry of the action that this one names,
after two looks at most. A chain of two names is an error, and so is a name that leads to a circle
of names. -/
theorem at_most_one_name_is_followed (table : OrderedMap ActionEntry) (action : String) :
    (∀ result, resolve table action = result ↔ Settles table action result) ∧
    (∃ count, count ≤ 2 ∧ ∀ other result, Looks table ⟨action, 0⟩ other result ↔
      other = count ∧ result = resolve table action) ∧
    (∀ target further, Names table action target → Names table target further →
      resolve table action =
        .error (if target = action then .selfRemap action else .doubleRemap target further)) ∧
    ∀ member, Relation.ReflTransGen (Names table) action member →
      Relation.TransGen (Names table) member member →
        ∃ error, resolve table action = .error error := by
  refine ⟨fun _ => resolve_eq_iff, ?_, fun _ _ => resolve_chain, ?_⟩
  · obtain ⟨count, few, looks⟩ := @looks_follow table maximumHops ⟨action, 0⟩ (Nat.add_zero _)
    refine ⟨count, few, fun other result => ⟨looks_unique looks, ?_⟩⟩
    rintro ⟨rfl, rfl⟩
    exact looks
  · intro member leads cycle
    obtain ⟨target, further, first, second⟩ := chain_of_cycle leads cycle
    exact ⟨_, resolve_chain first second⟩

/-- Two actions that name each other. -/
example : resolve ⟨[("opened", .alias "edited"), ("edited", .alias "opened")]⟩ "opened" =
    .error (.doubleRemap "edited" "opened") := rfl

end Resolution

end RepoRules
