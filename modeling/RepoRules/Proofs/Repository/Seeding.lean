import RepoRules.Proofs.Decode.Records
import RepoRules.Proofs.Run.Planning
import RepoRules.Repository.Offline

/-!
Repositories in memory that hold what a payload does. Their items are the ones that a delivery of
this payload is about, under the numbers that stand in the payload.
-/

namespace RepoRules

theorem Item.number_of_object {entries : List (String × Json)} (ordered : Json.Ordered entries)
    {item : Item} (read : ofJson (.object entries) = .ok item) :
    (entries.lookup "number").bind Json.natural? = some item.number := by
  have others : ∀ other, other ≠ "number" → ∀ value before after,
      Decode.readField fields before other value = .ok after → after.number = before.number := by
    intro other differs value before after entered
    unfold Decode.readField at entered
    split at entered
    · next field found =>
        have named := List.find?_some found
        have member := List.mem_of_find?_eq_some found
        simp only [fields, List.mem_cons, List.not_mem_nil, or_false] at member
        rcases member with rfl | rfl | rfl | rfl | rfl | rfl | rfl | rfl | rfl | rfl | rfl | rfl |
          rfl | rfl | rfl
        · exact absurd (beq_iff_eq.1 named).symm differs
        case inr.inr.inr.inr.inr.inr.inr.inr.inr.inr.inl =>
          cases entered
          rfl
        all_goals
          obtain ⟨_, _, entered⟩ := bind_eq_ok entered
          cases entered
          rfl
    · cases entered
      rfl
  obtain ⟨value, before, after, found, entered, same⟩ :=
    Decode.record_object_eq_ok ordered read List.mem_cons_self rfl Item.number others
  obtain ⟨number, natural, entered⟩ := bind_eq_ok entered
  cases entered
  obtain rfl := Decode.natural_eq_ok.1 natural
  rw [found, same, Option.bind_some, Json.natural?, if_pos (Int.natCast_nonneg number),
    Int.toNat_natCast]

namespace OfflineStore

/-- What a field holds is entered, if there is anything. -/
theorem seed_eq_ok {α : Type} {payload : Json} {name : String}
    {read : Json → Except Decode.Fault α} {enter : OfflineStore → α → OfflineStore}
    {store seeded : OfflineStore} {held : Option α}
    (taken : seed payload name read enter store = .ok seeded)
    (delivered : Context.objectOf payload name read = .ok held) :
    seeded = (held.map (enter store)).getD store := by
  unfold seed present? at taken
  unfold Context.objectOf at delivered
  split at delivered
  · next missing =>
      cases delivered
      rw [missing] at taken
      cases taken
      rfl
  · next missing =>
      cases delivered
      rw [missing] at taken
      cases taken
      rfl
  · next value filled found =>
      have present : (some value).filter (fun value => !value.isNull) = some value := by
        cases value with
        | null => exact absurd rfl filled
        | bool | int | float | string | array | object => rfl
      obtain ⟨decoded, read, rfl⟩ := map_eq_ok delivered
      rw [found, present] at taken
      obtain ⟨_, again, rfl⟩ := map_eq_ok taken
      rw [map_error_eq_ok read] at again
      cases again
      rfl

/-- The repository that is about one delivery: it holds the items and the comment of the state, and
the changed files under numbers. -/
def about (context : Context) (files : List (Nat × List String)) : OfflineStore where
  rules := none
  issues := (context.issue.map fun item => (item.number, item)).toList
  pulls := (context.pullRequest.map fun item => (item.number, item)).toList
  comments := (context.comment.map fun comment => (comment.id, comment)).toList
  files := files
  log := []

theorem of_payload_eq_about {kind : EventKind} {payload : Json} {document : RuleDocument}
    {served : RepositoryRef} {delivery : Option String} {queries : QueryEngine} {context : Context}
    {store : OfflineStore}
    (seeded : ofPayload payload = .ok store)
    (delivered : Context.ofPayload kind payload document served delivery queries = .ok context) :
    store = about context [] := by
  obtain ⟨issue, pullRequest, comment, issues, pulls, comments, rfl⟩ :=
    Context.exists_of_payload delivered
  unfold ofPayload at seeded
  obtain ⟨first, taken, seeded⟩ := bind_eq_ok seeded
  obtain rfl := seed_eq_ok taken issues
  obtain ⟨second, taken, seeded⟩ := bind_eq_ok seeded
  obtain rfl := seed_eq_ok taken pulls
  obtain rfl := seed_eq_ok seeded comments
  cases issue <;> cases pullRequest <;> cases comment <;> rfl

end OfflineStore

end RepoRules
