import RepoRules.Proofs.Decimal.NearestDouble
import RepoRules.Query.Eval

/-!
Snapshots inside queries. A JSON value that becomes a value of the query language and then JSON
again is the one it was, at any depth, except that an integer outside of the signed range of 64 bits
is now the nearest double.
-/

namespace RepoRules

namespace Json

/-- What JSON can hold: integers of 64 bits, signed or unsigned, and doubles that are numbers. -/
inductive Sound : Json → Prop
  | null : Sound .null
  | bool (flag : Bool) : Sound (.bool flag)
  | int {number : Int} (lower : minSigned ≤ number) (upper : number ≤ maxUnsigned) :
      Sound (.int number)
  | float {number : Float} (finite : number.isFinite = true) : Sound (.float number)
  | string (text : String) : Sound (.string text)
  | array {items : List Json} (inside : ∀ item ∈ items, Sound item) : Sound (.array items)
  | object {fields : List (String × Json)} (inside : ∀ field ∈ fields, Sound field.2) :
      Sound (.object fields)

theorem Sound.field {object value : Json} {name : String} (sound : object.Sound)
    (field : object.field? name = some value) : value.Sound := by
  cases sound with
  | @object fields inside =>
      obtain ⟨before, after, split, -⟩ := List.lookup_eq_some_iff.1 field
      exact inside (name, value) (split ▸ List.mem_append_right before List.mem_cons_self)
  | _ => cases field

def IsSigned (number : Int) : Prop :=
  minSigned ≤ number ∧ number ≤ maxSigned

/-- A value and the one that comes back for it. -/
inductive Survives : Json → Json → Prop
  | null : Survives .null .null
  | bool (flag : Bool) : Survives (.bool flag) (.bool flag)
  | signed {number : Int} (signed : IsSigned number) : Survives (.int number) (.int number)
  | large {number : Int} {double : Float} (beyond : ¬IsSigned number)
      (nearest : Decimal.IsNearest number double) : Survives (.int number) (.float double)
  | float (number : Float) : Survives (.float number) (.float number)
  | string (text : String) : Survives (.string text) (.string text)
  | array {items others : List Json} (each : List.Forall₂ Survives items others) :
      Survives (.array items) (.array others)
  | object {fields others : List (String × Json)}
      (names : others.map Prod.fst = fields.map Prod.fst)
      (each : List.Forall₂ Survives (fields.map Prod.snd) (others.map Prod.snd)) :
      Survives (.object fields) (.object others)

/-- Of an integer beyond the signed range that JSON can hold, the conversion is the nearest. -/
theorem nearest_of_large {number : Int} (lower : maxSigned < number)
    (upper : number ≤ maxUnsigned) : Decimal.IsNearest number (Float.ofInt number) := by
  rw [maxSigned] at lower
  rw [maxUnsigned] at upper
  obtain ⟨natural, rfl⟩ := Int.eq_ofNat_of_zero_le (by omega : 0 ≤ number)
  exact @Decimal.of_int_nearest natural 11 (by decide) (by decide) (by omega) (by omega)

end Json

namespace Query

theorem Value.items_round_trip (items : List Json) :
    Value.toJsonItems (Value.ofJsonItems items) =
      items.map fun item => (Value.ofJson item).toJson := by
  induction items with
  | nil => rfl
  | cons item rest induction =>
      rw [Value.ofJsonItems, Value.toJsonItems, induction, List.map_cons]

theorem Value.fields_round_trip (fields : List (String × Json)) :
    Value.toJsonFields (Value.ofJsonFields fields) =
      fields.map fun field => (field.1, (Value.ofJson field.2).toJson) := by
  induction fields with
  | nil => rfl
  | cons field rest induction =>
      rw [Value.ofJsonFields, Value.toJsonFields, induction, List.map_cons]

theorem Value.survives_of_sound {value : Json} (sound : value.Sound) :
    Json.Survives value (Value.ofJson value).toJson := by
  induction sound with
  | null => exact .null
  | bool flag => exact .bool flag
  | @int number lower upper =>
      rw [Value.ofJson]
      split
      · next signed => exact .signed signed
      · next beyond =>
          have large : Json.maxSigned < number := by
            by_contra small
            exact beyond ⟨lower, not_lt.1 small⟩
          have nearest := Json.nearest_of_large large upper
          rw [Value.toJson, if_pos nearest.finite]
          exact .large beyond nearest
  | @float number finite =>
      rw [Value.ofJson, Value.toJson, if_pos finite]
      exact .float number
  | string text => exact .string text
  | @array items inside induction =>
      rw [Value.ofJson, Value.toJson, Value.items_round_trip]
      exact .array (List.forall₂_map_right_iff.2 (List.forall₂_same.2 induction))
  | @object fields inside induction =>
      rw [Value.ofJson, Value.toJson, Value.fields_round_trip]
      refine .object (by rw [List.map_map]; rfl) ?_
      rw [List.map_map, List.forall₂_map_left_iff, List.forall₂_map_right_iff]
      exact List.forall₂_same.2 induction

theorem run_variable_at {name : String} {memory : Memory} {value : Value}
    (bound : memory.scope.lookup name = some value) (few : memory.operations < operationLimit)
    (position : Position) :
    (variableAt name position).run memory =
      .ok (value, { memory with operations := memory.operations + 1 }) := by
  have counted : (countAt position).run memory =
      pure ((), { memory with operations := memory.operations + 1 }) :=
    if_neg (not_le.2 few)
  rw [variableAt, StateT.run_bind, counted, pure_bind, StateT.run_bind, StateT.run_get, pure_bind]
  dsimp only
  rw [bound]
  rfl

theorem lookup_of_json_fields (name : String) (fields : List (String × Json)) :
    (Value.ofJsonFields fields).lookup name = (fields.lookup name).map Value.ofJson := by
  induction fields with
  | nil => rfl
  | cons field rest induction =>
      rw [Value.ofJsonFields, List.lookup_cons, List.lookup_cons, induction]
      cases name == field.1 <;> rfl

/-- A name stands for the field of the snapshot. -/
theorem value_of_variable {snapshot value : Json} {name : String}
    (field : snapshot.field? name = some value) (position : Position) :
    (Expr.variable name position).value (scopeOf snapshot) = .ok (Value.ofJson value) := by
  cases snapshot with
  | object fields =>
      have bound : (scopeOf (.object fields)).lookup name = some (Value.ofJson value) := by
        rw [scopeOf, lookup_of_json_fields]
        exact congrArg (Option.map Value.ofJson) field
      have ran := @run_variable_at name ⟨scopeOf (.object fields), none, 0⟩ _ bound
        (by decide : 0 < operationLimit) position
      exact congrArg (Except.map Prod.fst) ran
  | _ => cases field

/-- A snapshot comes back from the values of the query language, whole or by the name of a field. -/
theorem snapshots_survive {snapshot : Json} (sound : snapshot.Sound) :
    Json.Survives snapshot (Value.ofJson snapshot).toJson ∧
      ∀ (name : String) (value : Json) (position : Position),
        snapshot.field? name = some value →
          ∃ result, (Expr.variable name position).value (scopeOf snapshot) = .ok result ∧
            Json.Survives value result.toJson := by
  refine ⟨Value.survives_of_sound sound, fun name value position field => ?_⟩
  exact ⟨Value.ofJson value, value_of_variable field position,
    Value.survives_of_sound (sound.field field)⟩

def deepSnapshot : Json :=
  .object [("ids", .array [.int 0xffffffffffffffff, .int 0x7fffffffffffffff, .null]),
    ("issue", .object [("open", .bool true), ("rate", .float 2.5), ("title", .string "Link")])]

theorem deep_snapshot_survives :
    deepSnapshot.Sound ∧ Json.Survives deepSnapshot (Value.ofJson deepSnapshot).toJson ∧
      (Value.ofJson deepSnapshot).toJson = .object
        [("ids", .array [.float 18446744073709551616.0, .int 0x7fffffffffffffff, .null]),
          ("issue", .object
            [("open", .bool true), ("rate", .float 2.5), ("title", .string "Link")])] ∧
      ∃ value result, deepSnapshot.field? "issue" = some value ∧
        (Expr.variable "issue" .start).value (scopeOf deepSnapshot) = .ok result ∧
        Json.Survives value result.toJson := by
  have sound : deepSnapshot.Sound := by
    refine .object ?_
    simp only [List.mem_cons, List.not_mem_nil, or_false, forall_eq_or_imp, forall_eq]
    refine ⟨.array ?_, .object ?_⟩
    · simp only [List.mem_cons, List.not_mem_nil, or_false, forall_eq_or_imp, forall_eq]
      exact ⟨.int (by decide) (by decide), .int (by decide) (by decide), .null⟩
    · simp only [List.mem_cons, List.not_mem_nil, or_false, forall_eq_or_imp, forall_eq]
      exact ⟨.bool true, .float (by decide), .string "Link"⟩
  obtain ⟨survives, fields⟩ := snapshots_survive sound
  obtain ⟨result, given, inside⟩ := fields "issue" _ .start rfl
  exact ⟨sound, survives, rfl, _, result, rfl, given, inside⟩

end Query

end RepoRules
