import RepoRules.Run.Effect

/-!
Two runs side by side. The clients may keep states of different kinds; as long as these are related,
agreeing runs give the same result, leave the same state behind and note the same events. With
equality as the relation this says which events a single run may note.
-/

namespace RepoRules

namespace Effects

section Steps

variable {σ κ α β : Type}

theorem run_pure (value : α) (state : RunState σ κ) :
    (pure value : Effects σ κ α).run.run state = (.ok value, state) := rfl

theorem run_throw (failure : Failure) (state : RunState σ κ) :
    (throw failure : Effects σ κ α).run.run state = (.error failure, state) := rfl

theorem run_get (state : RunState σ κ) :
    (get : Effects σ κ (RunState σ κ)).run.run state = (.ok state, state) := rfl

theorem run_bind (steps : Effects σ κ α) (next : α → Effects σ κ β) (state : RunState σ κ) :
    (steps >>= next).run.run state =
      match steps.run.run state with
      | (.ok value, after) => (next value).run.run after
      | (.error failure, after) => (.error failure, after) := by
  rw [ExceptT.run_bind, StateT.run_bind]
  rcases steps.run.run state with ⟨_ | _, after⟩
  · rfl
  · rfl

theorem run_bind_ok {steps : Effects σ κ α} {next : α → Effects σ κ β} {state after : RunState σ κ}
    {value : α} (taken : steps.run.run state = (.ok value, after)) :
    (steps >>= next).run.run state = (next value).run.run after := by
  rw [run_bind, taken]

theorem run_bind_error {steps : Effects σ κ α} {next : α → Effects σ κ β}
    {state after : RunState σ κ} {failure : Failure}
    (taken : steps.run.run state = (.error failure, after)) :
    (steps >>= next).run.run state = (.error failure, after) := by
  rw [run_bind, taken]

theorem state_bind {steps : Effects σ κ α} {next : α → Effects σ κ β}
    (looking : ∀ value after, ((next value).run.run after).2 = after) (state : RunState σ κ) :
    ((steps >>= next).run.run state).2 = (steps.run.run state).2 := by
  rw [run_bind]
  rcases steps.run.run state with ⟨failure | value, after⟩
  · rfl
  · exact looking value after

theorem run_note (event : Event) (state : RunState σ κ) :
    (note event : Effects σ κ Unit).run.run state =
      (.ok (), { state with journal := state.journal ++ [event] }) := rfl

theorem run_on_store (step : σ → Except Failure α × σ) (state : RunState σ κ) :
    (onStore step : Effects σ κ α).run.run state =
      ((step state.store).1, { state with store := (step state.store).2 }) := by
  rcases taken : step state.store with ⟨_ | _, after⟩
  · simp only [onStore, run_bind, run_get, taken]
    rfl
  · simp only [onStore, run_bind, run_get, taken]
    rfl

theorem run_call (client : Client σ) (request : Call) (state : RunState σ κ) :
    (call client request).run.run state =
      ((client.answer request state.store).1,
        { state with
          store := (client.answer request state.store).2
          journal := state.journal ++ [.called request] }) := by
  simp only [call, run_bind, run_note, run_on_store]

/-- Mutations go out one after the other, as far as the calls succeed. A failure is the answer to
the last of them. -/
theorem writes_go_out (client : Client σ) (mutations : List Mutation) (state : RunState σ κ) :
    ∃ result store sent,
      (mutations.forM fun mutation => call client (.write mutation)).run.run state =
        (result, { state with
          store
          journal := state.journal ++ sent.map fun mutation => .called (.write mutation) }) ∧
      sent <+: mutations ∧ (∀ value, result = .ok value → sent = mutations) ∧
      ∀ failure, result = .error failure → ∃ last before, sent.getLast? = some last ∧
        (client.answer (.write last) before).1 = .error failure := by
  induction mutations generalizing state with
  | nil =>
      refine ⟨.ok (), state.store, [], ?_, List.prefix_rfl, fun _ _ => rfl, nofun⟩
      rw [List.map_nil, List.append_nil]
      rfl
  | cons mutation rest induction =>
      have first := run_call client (.write mutation) state
      rcases answered : client.answer (.write mutation) state.store with ⟨failure | _, after⟩
      · rw [answered] at first
        refine ⟨.error failure, after, [mutation], run_bind_error first, by simp, nofun, ?_⟩
        rintro _ ⟨⟩
        exact ⟨mutation, state.store, rfl, by rw [answered]⟩
      · rw [answered] at first
        obtain ⟨result, store, sent, others, early, complete, failed⟩ := induction { state with
          store := after
          journal := state.journal ++ [.called (.write mutation)] }
        refine ⟨result, store, mutation :: sent, ?_, ?_, ?_, ?_⟩
        · refine (run_bind_ok first).trans (others.trans ?_)
          rw [List.map_cons, List.append_assoc]
          rfl
        · exact (List.prefix_cons_inj mutation).2 early
        · intro value same
          rw [complete value same]
        · intro failure same
          obtain ⟨last, before, ends, refused⟩ := failed failure same
          refine ⟨last, before, ?_, refused⟩
          rw [List.getLast?_cons, ends]
          rfl

theorem run_within (context : κ) (steps : Effects σ κ α) (state : RunState σ Unit) :
    (within context steps).run.run state =
      match steps.run.run ⟨context, state.store, state.journal⟩ with
      | (.ok value, inner) =>
          (.ok (value, inner.context),
            { state with store := inner.store, journal := inner.journal })
      | (.error failure, inner) =>
          (.error failure, { state with store := inner.store, journal := inner.journal }) := by
  rcases taken : steps.run.run ⟨context, state.store, state.journal⟩ with ⟨_ | _, inner⟩
  · simp only [within, run_bind, run_get, taken]
    rfl
  · simp only [within, run_bind, run_get, taken]
    rfl

theorem journal_within (context : κ) (steps : Effects σ κ α) (state : RunState σ Unit) :
    ((within context steps).run.run state).2.journal =
      (steps.run.run ⟨context, state.store, state.journal⟩).2.journal := by
  rw [run_within]
  rcases steps.run.run ⟨context, state.store, state.journal⟩ with ⟨_ | _, inner⟩
  · rfl
  · rfl

theorem within_bind (context : κ) (steps : Effects σ κ α) (next : α → Effects σ κ β) :
    within context (steps >>= next) =
      (do
        let (value, after) ← within context steps
        within after (next value)) := by
  apply ExceptT.ext
  apply StateT.ext
  intro state
  simp only [run_bind, run_within]
  rcases steps.run.run ⟨context, state.store, state.journal⟩ with ⟨_ | _, inner⟩
  · rfl
  · rfl

end Steps

/-- From related states of their clients, two runs end alike, and the events that both note are
allowed. -/
def Agree {σ τ κ α : Type} (allowed : Event → Prop) (related : σ → τ → Prop)
    (here : Effects σ κ α) (there : Effects τ κ α) : Prop :=
  ∀ context store other journal records, related store other →
    ∃ result after left right events,
      here.run.run ⟨context, store, journal⟩ = (result, ⟨after, left, journal ++ events⟩) ∧
      there.run.run ⟨context, other, records⟩ = (result, ⟨after, right, records ++ events⟩) ∧
      related left right ∧ ∀ event ∈ events, allowed event

section Agreement

variable {σ τ κ α β : Type} {allowed : Event → Prop} {related : σ → τ → Prop}

theorem agree_pure (value : α) :
    Agree allowed related (pure value : Effects σ κ α) (pure value : Effects τ κ α) := by
  intro context store other journal records same
  refine ⟨.ok value, context, store, other, [], ?_, ?_, same, by simp⟩
  · rw [run_pure, List.append_nil]
  · rw [run_pure, List.append_nil]

theorem agree_throw (failure : Failure) :
    Agree allowed related (throw failure : Effects σ κ α) (throw failure : Effects τ κ α) := by
  intro context store other journal records same
  refine ⟨.error failure, context, store, other, [], ?_, ?_, same, by simp⟩
  · rw [run_throw, List.append_nil]
  · rw [run_throw, List.append_nil]

theorem Agree.bind {here : Effects σ κ α} {there : Effects τ κ α} {next : α → Effects σ κ β}
    {following : α → Effects τ κ β} (first : Agree allowed related here there)
    (others : ∀ value, Agree allowed related (next value) (following value)) :
    Agree allowed related (here >>= next) (there >>= following) := by
  intro context store other journal records same
  obtain ⟨result, after, left, right, events, hereRun, thereRun, held, noted⟩ :=
    first context store other journal records same
  cases result with
  | error failure =>
      exact ⟨.error failure, after, left, right, events, run_bind_error hereRun,
        run_bind_error thereRun, held, noted⟩
  | ok value =>
      rw [run_bind_ok hereRun, run_bind_ok thereRun]
      obtain ⟨result, last, left, right, more, hereRun, thereRun, held, notedMore⟩ :=
        others value after left right (journal ++ events) (records ++ events) held
      refine ⟨result, last, left, right, events ++ more, ?_, ?_, held, ?_⟩
      · rw [hereRun, List.append_assoc]
      · rw [thereRun, List.append_assoc]
      · intro event member
        rcases List.mem_append.1 member with early | late
        · exact noted event early
        · exact notedMore event late

theorem agree_note {event : Event} (permitted : allowed event) :
    Agree allowed related (note event : Effects σ κ Unit) (note event : Effects τ κ Unit) := by
  intro context store other journal records same
  exact ⟨.ok (), context, store, other, [event], run_note _ _, run_note _ _, same, by simpa⟩

/-- Clients that answer a call alike and stay related make agreeing calls. -/
theorem agree_call {here : Client σ} {there : Client τ} {request : Call}
    (permitted : allowed (.called request))
    (answers : ∀ store other, related store other →
      (here.answer request store).1 = (there.answer request other).1 ∧
        related (here.answer request store).2 (there.answer request other).2) :
    Agree (κ := κ) allowed related (call here request) (call there request) := by
  intro context store other journal records same
  obtain ⟨reply, held⟩ := answers store other same
  refine ⟨_, context, _, _, [.called request], run_call _ _ _, ?_, held, by simpa⟩
  rw [run_call, reply]

theorem Agree.within {here : Effects σ κ α} {there : Effects τ κ α}
    (agree : Agree allowed related here there) (context : κ) :
    Agree allowed related (within context here) (within context there) := by
  intro _ store other journal records same
  obtain ⟨result, after, left, right, events, hereRun, thereRun, held, noted⟩ :=
    agree context store other journal records same
  simp only [run_within, hereRun, thereRun]
  cases result with
  | error failure => exact ⟨_, (), left, right, events, rfl, rfl, held, noted⟩
  | ok value => exact ⟨_, (), left, right, events, rfl, rfl, held, noted⟩

/-- What a run notes of itself. -/
theorem Agree.journal_eq {steps : Effects σ κ α} (agree : Agree allowed Eq steps steps)
    (state : RunState σ κ) :
    ∃ events, (steps.run.run state).2.journal = state.journal ++ events ∧
      ∀ event ∈ events, allowed event := by
  obtain ⟨_, _, _, _, events, taken, _, _, noted⟩ :=
    agree state.context state.store state.store state.journal state.journal rfl
  exact ⟨events, by rw [taken], noted⟩

end Agreement

end Effects

namespace Run

variable {σ τ : Type} {allowed : Event → Prop} {related : σ → τ → Prop}

theorem run_context (state : RunState σ Context) :
    (context : Run σ Context).run.run state = (.ok state.context, state) := rfl

theorem run_modify_context (change : Context → Context) (state : RunState σ Context) :
    (modifyContext change : Run σ Unit).run.run state =
      (.ok (), { state with context := change state.context }) := rfl

theorem agree_context :
    Effects.Agree allowed related (context : Run σ Context) (context : Run τ Context) := by
  intro current store other journal records same
  refine ⟨.ok current, current, store, other, [], ?_, ?_, same, by simp⟩
  · simp only [context, Effects.run_bind, Effects.run_get, Effects.run_pure, List.append_nil]
  · simp only [context, Effects.run_bind, Effects.run_get, Effects.run_pure, List.append_nil]

theorem agree_modify_context (change : Context → Context) :
    Effects.Agree allowed related (modifyContext change : Run σ Unit)
      (modifyContext change : Run τ Unit) := by
  intro current store other journal records same
  refine ⟨.ok (), change current, store, other, [], ?_, ?_, same, by simp⟩
  · rw [List.append_nil]
    rfl
  · rw [List.append_nil]
    rfl

end Run

end RepoRules
