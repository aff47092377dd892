import RepoRules.Proofs.Metadata.Extraction
import RepoRules.Proofs.Run.Queries
import RepoRules.Proofs.Run.Rereading

/-!
What a walk begins with. However the action came about, and whatever was read anew, the variables
are those that every run has, for the item and the action at hand, and over them the metadata of the
item.
-/

namespace RepoRules

open Effects VariableTable

namespace Resolution

variable {table : OrderedMap ActionEntry} {action name : String} {remapped : Bool}
  {steps : List Step}

theorem remapped_of_follow {hops : Nat}
    (followed : follow table hops true action = .ok (.resolved name remapped steps)) :
    remapped = true := by
  induction hops generalizing action with
  | zero =>
      rw [follow] at followed
      split at followed <;> cases followed
      rfl
  | succ hops induction =>
      rw [follow] at followed
      split at followed
      · cases followed
      · cases followed
        rfl
      · cases followed
      · dsimp only at followed
        split at followed
        · cases followed
        · exact induction followed

theorem name_of_resolve (resolved : resolve table action = .ok (.resolved name false steps)) :
    name = action := by
  rw [resolve, maximumHops, follow] at resolved
  split at resolved
  · cases resolved
  · cases resolved
    rfl
  · cases resolved
  · dsimp only at resolved
    split at resolved
    · cases resolved
    · cases remapped_of_follow resolved

end Resolution

namespace Context

variable {context : Context}

def builtinNames : List String :=
  ["event", "action", "repo", "owner", "number", "title", "author"]

theorem names_of_builtins (context : Context) :
    context.builtins.map Prod.fst = builtinNames := by
  unfold builtins
  cases context.target with
  | none => rfl
  | some item => rfl

theorem entries_of_builtins (context : Context) : Entries context.builtins := by
  constructor
  · rw [names_of_builtins]
    decide
  · rw [names_of_builtins]
    decide +kernel

theorem lookup_builtins_eq_none_iff {name : String} :
    context.builtins.lookup name = none ↔ name ∉ builtinNames := by
  rw [← names_of_builtins context]
  refine ⟨?_, OrderedMap.lookup_eq_none⟩
  intro missing member
  obtain ⟨entry, held, rfl⟩ := List.mem_map.1 member
  have differs := List.lookup_eq_none_iff.1 missing entry held
  rw [bne_self_eq_false] at differs
  cases differs

def requested (context : Context) : String :=
  (context.rerun?.map Prod.snd).getD context.action

/-- There is no metadata, and the variables are those that every run has. -/
structure Plain (context : Context) : Prop where
  metadata : context.metadata = .empty
  table : ∀ name, context.variableTable.get? name = context.builtins.lookup (normalize name)

theorem builtins_seed (context : Context) : context.seedVariables.builtins = context.builtins := rfl

theorem variable_table_seed (context : Context) : context.seedVariables.variableTable =
    (context.variableTable.extend context.builtins).extend context.metadata.entries := rfl

/-- Variables that are set anew leave nothing of those with the same names. -/
theorem plain_of_seed (metadata : context.metadata = .empty)
    (names : ∀ name, normalize name ∉ builtinNames → context.variableTable.get? name = none) :
    Plain context.seedVariables := by
  refine ⟨metadata, ?_⟩
  intro name
  rw [builtins_seed, variable_table_seed, metadata, OrderedMap.empty, extend, List.foldl_nil,
    get?_extend context.entries_of_builtins]
  cases found : context.builtins.lookup (normalize name) with
  | some value => rfl
  | none => exact names name (lookup_builtins_eq_none_iff.1 found)

theorem Plain.names (plain : context.Plain) {name : String}
    (other : normalize name ∉ builtinNames) : context.variableTable.get? name = none := by
  rw [plain.table]
  exact lookup_builtins_eq_none_iff.2 other

theorem builtins_eq (context : Context) : context.builtins =
    ("event", context.kind.name) :: ("action", context.action) :: context.builtins.drop 2 := by
  unfold builtins
  cases context.target with
  | none => rfl
  | some item => rfl

theorem lookup_builtins_set_action (context : Context) (action name : String) :
    (context.setAction action).builtins.lookup name =
      if name = "action" then some action else context.builtins.lookup name := by
  have rest : (context.setAction action).builtins.drop 2 = context.builtins.drop 2 := rfl
  rw [builtins_eq (context.setAction action), builtins_eq context, rest]
  by_cases event : name = "event"
  · subst event
    rw [OrderedMap.lookup_cons_self, OrderedMap.lookup_cons_self, if_neg (by decide)]
    rfl
  · rw [OrderedMap.lookup_cons_of_ne event, OrderedMap.lookup_cons_of_ne event]
    by_cases own : name = "action"
    · subst own
      rw [OrderedMap.lookup_cons_self, if_pos rfl]
      rfl
    · rw [OrderedMap.lookup_cons_of_ne own, OrderedMap.lookup_cons_of_ne own, if_neg own]

theorem Plain.set_action (plain : context.Plain) (action : String) :
    (context.setAction action).Plain := by
  refine ⟨plain.metadata, ?_⟩
  intro name
  have self : normalize "action" = "action" := by decide +kernel
  change (context.variableTable.set "action" action).get? name = _
  rw [get?_set, self, plain.table, lookup_builtins_set_action]

theorem Plain.rerun (plain : context.Plain) (label action : String)
    (issue pullRequest : Option Item) (comment : Option Comment) :
    (context.rerun label action issue pullRequest comment).Plain := by
  refine Plain.set_action (plain_of_seed ?_ ?_) action
  · exact plain.metadata
  · exact fun name other => plain.names other

/-- The state behind the look-up of the action: the name that it led to, if it is another one, has
taken its place. -/
def followed (context : Context) (name : String) (remapped : Bool) : Context :=
  if remapped then context.setAction name else context

section Following

variable (context : Context) (name : String) (remapped : Bool)

theorem kind_followed : (context.followed name remapped).kind = context.kind := by
  cases remapped <;> rfl

theorem repository_followed :
    (context.followed name remapped).repository = context.repository := by
  cases remapped <;> rfl

theorem items_followed : (context.followed name remapped).items = context.items := by
  cases remapped <;> rfl

theorem operations_followed :
    (context.followed name remapped).operations = context.operations := by
  cases remapped <;> rfl

end Following

theorem action_followed {table : OrderedMap ActionEntry} {name : String} {remapped : Bool}
    {steps : List Step}
    (resolved : resolve table context.action = .ok (.resolved name remapped steps)) :
    (context.followed name remapped).action = name := by
  cases remapped with
  | false => exact (Resolution.name_of_resolve resolved).symm
  | true => rfl

theorem Plain.followed (plain : context.Plain) (name : String) (remapped : Bool) :
    (context.followed name remapped).Plain := by
  cases remapped with
  | false => exact plain
  | true => exact plain.set_action name

/-- What a delivery starts with comes from the payload. -/
theorem of_payload_eq_ok {kind : EventKind} {payload : Json} {rules : RuleDocument}
    {served : RepositoryRef} {delivery : Option String} {queries : QueryEngine}
    (read : ofPayload kind payload rules served delivery queries = .ok context) :
    context.kind = kind ∧ context.repository = (repositoryOf? payload).getD served ∧
      context.operations = .empty ∧ context.Plain := by
  obtain ⟨_, _, _, _, _, _, rfl⟩ := exists_of_payload read
  exact ⟨rfl, rfl, rfl, plain_of_seed rfl fun _ _ => rfl⟩

def bodyMetadata (page : String → Option String) (context : Context) : Metadata :=
  match context.target with
  | none => .empty
  | some item => Metadata.ofBody page context.rules.metadata item.body

theorem entries_of_body_metadata (page : String → Option String) (context : Context) :
    Entries (context.bodyMetadata page).entries := by
  unfold bodyMetadata
  cases context.target with
  | none => exact OrderedMap.entries_empty
  | some item => exact Metadata.entries_of_body page _ _

def withMetadata (page : String → Option String) (context : Context) : Context :=
  { context with
    metadata := context.bodyMetadata page
    variableTable := context.variableTable.extend (context.bodyMetadata page).entries }

theorem table_with_metadata (plain : context.Plain) {page : String → Option String}
    (name : String) : (context.withMetadata page).variableTable.get? name =
      ((context.withMetadata page).metadata.get? (normalize name)).or
        (context.builtins.lookup (normalize name)) := by
  rw [← plain.table]
  exact get?_extend (context.entries_of_body_metadata page) context.variableTable name

/-- Metadata has its value among the variables, whatever it is called. -/
theorem covers_with_metadata (plain : context.Plain) {page : String → Option String}
    {name value : String} (found : (context.withMetadata page).metadata.get? name = some value) :
    (context.withMetadata page).variableTable.get? name = some value := by
  have member := OrderedMap.mem_entries_of_get? _ found
  have normal : normalize name = name :=
    (context.entries_of_body_metadata page).normal name (List.mem_map_of_mem member)
  rw [table_with_metadata plain, normal, found]
  rfl

theorem with_metadata_of_empty {page : String → Option String}
    (fresh : context.metadata = .empty) (nothing : context.bodyMetadata page = .empty) :
    context.withMetadata page = context := by
  rw [withMetadata, nothing]
  cases context
  cases fresh
  rfl

theorem body_metadata_unset (page : String → Option String)
    (headers : context.rules.metadata.headers = [])
    (contentUrls : context.rules.metadata.contentUrls = []) :
    context.bodyMetadata page = .empty := by
  unfold bodyMetadata
  cases context.target with
  | none => rfl
  | some item => exact Metadata.of_body_unset page headers contentUrls _

end Context

/-- What applying a rerun, if there is one, makes of a state without metadata, while that of the
client goes from one to another. -/
structure Readies {σ : Type} (client : Client σ) (held : Context) (before : σ) (fresh : Context)
    (after : σ) : Prop where
  kind : fresh.kind = held.kind
  repository : fresh.repository = held.repository
  rules : fresh.rules = held.rules
  action : fresh.action = held.requested
  plain : fresh.Plain
  kept : held.rerun? = none → fresh = held
  reread : held.rerun?.isSome → Rereads client held fresh before after
  marked : ∀ label action, held.rerun? = some (label, action) →
    fresh.operations = held.operations.removeLabel label

def RunState.fetched {σ κ : Type} (state : RunState σ κ) (urls : List String) : RunState σ κ :=
  { state with journal := state.journal ++ urls.map .fetched }

namespace Run

variable {σ : Type} {services : Services σ} {state after : RunState σ Context}

theorem run_fetches (urls : List String) (state : RunState σ Context) :
    (forM urls fun url => (Effects.note (.fetched url) : Run σ Unit)).run.run state =
      (.ok (), state.fetched urls) := by
  induction urls generalizing state with
  | nil =>
      rw [RunState.fetched, List.map_nil, List.append_nil]
      rfl
  | cons url rest induction =>
      have first : (Effects.note (.fetched url) : Run σ Unit).run.run state =
          (.ok (), state.fetched [url]) := rfl
      rw [List.forM_cons, run_bind_ok first, induction]
      simp only [RunState.fetched, List.map_cons, List.map_nil, List.append_assoc,
        List.cons_append, List.nil_append]

/-- Extraction gives the metadata of the body, and notes which pages it asks for. -/
theorem run_extract (services : Services σ) (settings : MetadataSettings) (body : String)
    (state : RunState σ Context) :
    (Metadata.extract (fetch services) settings body .empty).run.run state =
      (.ok (Metadata.ofBody services.page settings body),
        state.fetched
          (Metadata.askedUrls services.page settings (Text.normalizeLineEnds body))) := by
  rw [Metadata.extract_eq (fetch_eq services), run_bind_ok (run_fetches _ state),
    Metadata.of_body_eq]
  rfl

theorem ensure_metadata_eq_ok (fresh : state.context.metadata = .empty)
    (ensured : (ensureMetadata services).run.run state = (.ok (), after)) :
    after.context = state.context.withMetadata services.page ∧ after.store = state.store := by
  unfold ensureMetadata at ensured
  rw [run_bind_ok (run_context state)] at ensured
  dsimp only at ensured
  split at ensured
  · next unset =>
      have empty : (OrderedMap.empty : Metadata).isEmpty = true := rfl
      rw [fresh, empty, Bool.not_true, Bool.false_or, Bool.and_eq_true, List.isEmpty_iff,
        List.isEmpty_iff] at unset
      cases ensured
      have nothing := state.context.body_metadata_unset services.page unset.1 unset.2
      exact ⟨(Context.with_metadata_of_empty fresh nothing).symm, rfl⟩
  · rcases target : state.context.target with _ | item
    · rw [target] at ensured
      cases ensured
      have nothing : state.context.bodyMetadata services.page = .empty := by
        rw [Context.bodyMetadata, target]
      exact ⟨(Context.with_metadata_of_empty fresh nothing).symm, rfl⟩
    · rw [target, fresh] at ensured
      have extracted := run_extract services state.context.rules.metadata item.body state
      have found : state.context.bodyMetadata services.page =
          Metadata.ofBody services.page state.context.rules.metadata item.body := by
        rw [Context.bodyMetadata, target]
      dsimp only at ensured
      rw [run_bind_ok extracted, ← found] at ensured
      cases ensured
      exact ⟨rfl, rfl⟩

/-- Applying a rerun, if there is one, leaves a state that is described by what it holds now. -/
theorem apply_rerun_readies {answer : Option String} (plain : state.context.Plain)
    (applied : (applyRerun services).run.run state = (.ok answer, after)) :
    answer.isSome = state.context.rerun?.isSome ∧
      Readies services.client state.context state.store after.context after.store := by
  rcases apply_rerun_eq_ok applied with ⟨none, rfl, rfl⟩ |
    ⟨label, action, issue, pullRequest, comment, asked, rfl, context, reread⟩
  · refine ⟨by rw [none]; rfl, rfl, rfl, rfl, ?_, plain, fun _ => rfl, ?_, ?_⟩
    · rw [Context.requested, none]
      rfl
    · intro some
      rw [none] at some
      cases some
    · intro label action asked
      rw [none] at asked
      cases asked
  · rw [context] at reread ⊢
    refine ⟨by rw [asked]; rfl, rfl, rfl, rfl, ?_, plain.rerun _ _ _ _ _, ?_, fun _ => reread, ?_⟩
    · rw [Context.requested, asked]
      rfl
    · intro none
      rw [asked] at none
      cases none
    · intro other action found
      rw [asked] at found
      cases found
      rfl

/-- A plan is made for the action that is asked for: there is nothing to do for it, or it leads to
steps, and then the metadata is read. -/
theorem plan_eq_ok {plan : Plan} (plain : state.context.Plain)
    (planned : (Run.plan services).run.run state = (.ok plan, after)) :
    ∃ fresh, plan.rerun = state.context.rerun?.isSome ∧
      Readies services.client state.context state.store fresh after.store ∧
      (resolve (state.context.rules.actions state.context.kind) state.context.requested =
          .ok .undefined ∧ plan.work = none ∧ after.context = fresh ∨
        ∃ name remapped steps,
          resolve (state.context.rules.actions state.context.kind) state.context.requested =
            .ok (.resolved name remapped steps) ∧
          plan.work = some (name, ActionTree.build state.context.rules steps) ∧
          (fresh.followed name remapped).action = name ∧
          after.context = (fresh.followed name remapped).withMetadata services.page) := by
  obtain ⟨answer, middle, applied, planned⟩ := run_bind_eq_ok planned
  obtain ⟨same, readies⟩ := apply_rerun_readies plain applied
  rw [run_bind_ok (run_context middle)] at planned
  cases resolved : resolve (middle.context.rules.actions middle.context.kind)
      middle.context.action with
  | error error =>
      rw [resolved] at planned
      cases planned
  | ok resolution =>
      rw [resolved] at planned
      cases resolution with
      | undefined =>
          cases planned
          rw [readies.rules, readies.kind, readies.action] at resolved
          exact ⟨_, same, readies, .inl ⟨resolved, rfl, rfl⟩⟩
      | resolved name remapped steps =>
          have named := Context.action_followed resolved
          have ensured : ((ensureMetadata services >>= fun _ =>
              pure (⟨answer.isSome, some (name, ActionTree.build middle.context.rules steps)⟩ :
                Plan)).run.run { middle with context := middle.context.followed name remapped }) =
                  (.ok plan, after) := by
            cases remapped with
            | false => exact planned
            | true => exact planned
          obtain ⟨_, last, ensured, ended⟩ := run_bind_eq_ok ensured
          cases ended
          obtain ⟨context, store⟩ :=
            ensure_metadata_eq_ok (readies.plain.followed name remapped).metadata ensured
          dsimp only at context store
          rw [readies.rules, readies.kind, readies.action] at resolved
          rw [readies.rules, context, store]
          exact ⟨_, same, readies, .inr ⟨name, remapped, steps, resolved, rfl, named, rfl⟩⟩

end Run

/-- How a walk begins for what was delivered: with the action that is asked for or stands for it,
with items as they were delivered or read anew, with the metadata of the item at hand, and with
variables for all of this. -/
structure Begins {σ : Type} (services : Services σ) (delivered : Context) (before : σ)
    (action : String) (start : Context) (after : σ) : Prop where
  resolved : ∃ remapped steps,
    resolve (delivered.rules.actions delivered.kind) delivered.requested =
      .ok (.resolved action remapped steps)
  kept : delivered.rerun? = none → start.items = delivered.items
  reread : delivered.rerun?.isSome → Rereads services.client delivered start before after
  metadata : start.metadata = start.bodyMetadata services.page
  table : ∀ name, start.variableTable.get? name =
    (start.metadata.get? (normalize name)).or (List.lookup (normalize name)
      [("event", delivered.kind.name), ("action", action), ("repo", delivered.repository.name),
        ("owner", delivered.repository.owner),
        ("number", (start.target.map fun item => toString item.number).getD ""),
        ("title", (start.target.map Item.title).getD ""),
        ("author", (start.target.map Item.author).getD "")])
  covers : ∀ name value, start.metadata.get? name = some value →
    start.variableTable.get? name = some value

theorem Context.builtins_of_target (context : Context) : context.builtins =
    [("event", context.kind.name), ("action", context.action), ("repo", context.repository.name),
      ("owner", context.repository.owner),
      ("number", (context.target.map fun item => toString item.number).getD ""),
      ("title", (context.target.map Item.title).getD ""),
      ("author", (context.target.map Item.author).getD "")] := by
  unfold builtins
  cases context.target with
  | none => rfl
  | some item => rfl

namespace Run

variable {σ : Type} {services : Services σ} {state after : RunState σ Context}

theorem begins_of_plan {rerun : Bool} {action : String} {tree : ActionTree}
    (plain : state.context.Plain)
    (planned : (plan services).run.run state = (.ok ⟨rerun, some (action, tree)⟩, after)) :
    Begins services state.context state.store action after.context after.store := by
  obtain ⟨fresh, _, readies, ⟨_, idle, _⟩ | ⟨_, remapped, steps, resolved, work, named, context⟩⟩ :=
    plan_eq_ok plain planned
  · cases idle
  cases work
  have plain := readies.plain.followed action remapped
  have items := fresh.items_followed action remapped
  rw [context]
  refine ⟨⟨remapped, steps, resolved⟩, ?_, ?_, rfl, ?_,
    fun _ _ => Context.covers_with_metadata plain⟩
  · intro none
    rw [readies.kept none] at items ⊢
    exact items
  · intro some
    exact (readies.reread some).of_items items
  · intro name
    rw [Context.table_with_metadata plain, Context.builtins_of_target, Context.kind_followed,
      Context.repository_followed, named, readies.kind, readies.repository]
    rfl

end Run

namespace Engine

variable {σ : Type}

theorem with_services_eq_ok {α : Type} {engine : Engine σ} {delivery : Delivery}
    {steps : Services σ → RepositoryRef → Effects σ Unit α} {value : α}
    {before after : RunState σ Unit}
    (served : (engine.withServices delivery steps).run.run before = (.ok value, after)) :
    ∃ client repository entered, Context.repositoryOf? delivery.payload = some repository ∧
      engine.clientFor ((delivery.payload.path? ["installation", "id"]).bind Json.natural?)
        repository before.store = (.ok client, entered) ∧
      ∀ {β : Type} (steps : Services σ → RepositoryRef → Effects σ Unit β),
        (engine.withServices delivery steps).run.run before =
          (steps ⟨client, engine.page⟩ repository).run.run { before with store := entered } := by
  unfold withServices at served ⊢
  cases found : Context.repositoryOf? delivery.payload with
  | none =>
      rw [found] at served
      cases served
  | some repository =>
      rw [found] at served
      obtain ⟨client, middle, entered, _⟩ := run_bind_eq_ok served
      rw [run_on_store] at entered
      obtain ⟨answered, rfl⟩ := Prod.mk.inj entered
      exact ⟨client, repository, _, rfl, Prod.ext answered rfl, fun steps =>
        run_bind_ok ((run_on_store _ _).trans (Prod.ext answered rfl))⟩

/-- The way of a delivery up to the walk: a client is found, the rules are loaded, the payload is
read and a plan is made, with which the delivery goes on. -/
structure Prepares (engine : Engine σ) (delivery : Delivery) (before : RunState σ Unit)
    (client : Client σ) (repository : RepositoryRef) (delivered : Context)
    (loaded : RunState σ Unit) (plan : Plan) (start : Context) (ready : RunState σ Unit) :
    Prop where
  named : Context.repositoryOf? delivery.payload = some repository
  started : ∃ entered,
    engine.clientFor ((delivery.payload.path? ["installation", "id"]).bind Json.natural?)
        repository before.store = (.ok client, entered) ∧
      (startingContext engine.rules engine.queries delivery ⟨client, engine.page⟩
          repository).run.run { before with store := entered } = (.ok delivered, loaded)
  planned : (within delivered (Run.plan ⟨client, engine.page⟩)).run.run loaded =
    (.ok (plan, start), ready)
  continued : (engine.handle delivery).run.run before =
    (carryOut ⟨client, engine.page⟩ plan start).run.run ready

section Preparing

variable {engine : Engine σ} {delivery : Delivery} {before ready : RunState σ Unit} {plan : Plan}
  {start : Context}

theorem exists_prepares
    (prepared : (engine.withServices delivery
      (prepare engine.rules engine.queries delivery)).run.run before =
      (.ok (plan, start), ready)) :
    ∃ client repository delivered loaded,
      engine.Prepares delivery before client repository delivered loaded plan start ready := by
  obtain ⟨client, repository, entered, named, found, goes⟩ := with_services_eq_ok prepared
  rw [goes] at prepared
  obtain ⟨delivered, loaded, started, planned⟩ := run_bind_eq_ok prepared
  refine ⟨client, repository, delivered, loaded, named, ⟨entered, found, started⟩, planned, ?_⟩
  rw [handle_eq, goes, serve_eq, run_bind_ok prepared]

/-- A delivery that comes to its end has got that far. -/
theorem prepared_of_handled {last : RunState σ Unit} {outcome : Outcome}
    (handled : (engine.handle delivery).run.run before = (.ok outcome, last)) :
    ∃ plan start ready,
      (engine.withServices delivery (prepare engine.rules engine.queries delivery)).run.run before =
        (.ok (plan, start), ready) := by
  rw [handle_eq] at handled
  obtain ⟨client, repository, entered, _, _, goes⟩ := with_services_eq_ok handled
  rw [goes, serve_eq] at handled
  obtain ⟨⟨plan, start⟩, ready, prepared, _⟩ := run_bind_eq_ok handled
  exact ⟨plan, start, ready, (goes _).trans prepared⟩

variable {client : Client σ} {repository : RepositoryRef} {delivered : Context}
  {loaded : RunState σ Unit}

theorem Prepares.payload
    (prepares : engine.Prepares delivery before client repository delivered loaded plan start
      ready) :
    ∃ document, Context.ofPayload delivery.kind delivery.payload document client.repository
      delivery.id engine.queries = .ok delivered := by
  obtain ⟨entered, found, started⟩ := prepares.started
  obtain ⟨document, _, payload⟩ := starting_context_eq_ok started
  exact ⟨document, payload⟩

/-- What was delivered comes from the payload, and nothing is pooled yet. -/
theorem Prepares.delivered_eq
    (prepares : engine.Prepares delivery before client repository delivered loaded plan start
      ready) :
    delivered.kind = delivery.kind ∧ delivered.repository = repository ∧
      delivered.operations = .empty ∧ delivered.Plain := by
  obtain ⟨document, payload⟩ := prepares.payload
  obtain ⟨kind, own, empty, plain⟩ := Context.of_payload_eq_ok payload
  rw [prepares.named] at own
  exact ⟨kind, own, empty, plain⟩

end Preparing

/-- Whenever a delivery gets as far as a walk, the walk begins like this. -/
theorem variables_at_beginning (engine : Engine σ) (delivery : Delivery)
    {before ready : RunState σ Unit} {rerun : Bool} {action : String} {tree : ActionTree}
    {start : Context}
    (prepared : (engine.withServices delivery
      (prepare engine.rules engine.queries delivery)).run.run before =
      (.ok (⟨rerun, some (action, tree)⟩, start), ready)) :
    ∃ client repository delivered loaded,
      engine.Prepares delivery before client repository delivered loaded
        ⟨rerun, some (action, tree)⟩ start ready ∧
      delivered.kind = delivery.kind ∧ delivered.repository = repository ∧
      Begins ⟨client, engine.page⟩ delivered loaded.store action start ready.store := by
  obtain ⟨client, repository, delivered, loaded, prepares⟩ := exists_prepares prepared
  obtain ⟨kind, own, _, plain⟩ := prepares.delivered_eq
  refine ⟨client, repository, delivered, loaded, prepares, kind, own, ?_⟩
  obtain ⟨inner, planned, rfl, rfl⟩ := run_within_eq_ok prepares.planned
  exact Run.begins_of_plan plain planned

end Engine

def Delivery.labeled (issue : List (String × Json)) : Delivery where
  kind := .issues
  payload := .ofFields
    [("action", .string "labeled"), ("issue", .ofFields issue),
      ("repository", .ofFields [("full_name", .string "octo/docs")])]
  id := none

def RuleDocument.onReopened (steps : List Step) : RuleDocument where
  revision := 1
  schemaVersion := minimumVersion
  ownerAlias := ""
  metadata := ⟨[["Fields"]], [], some "([a-z]+): ([a-z]+)"⟩
  actions _ := ⟨[("opened", .sequence steps), ("reopened", .alias "opened")]⟩
  predefined := .empty

def rerunOfReopened : Delivery :=
  .labeled
    [("number", .int 7), ("title", .string "Stale"),
      ("labels", .array [.ofFields [("name", .string "Rerun-Action- Reopened ")]])]

def OfflineStore.rewritten : OfflineStore :=
  (Delivery.labeled
    [("number", .int 7), ("title", .string "Fresh"), ("body", .string "Fields\ntitle: covered"),
      ("user", .ofFields [("login", .string "ann")])]).seeded

namespace Engine

/-- The title is that of the fields, the author that of the issue as it is now, and the action the
one that stands for the one asked for. -/
theorem rewritten_at_beginning :
    let engine : Engine OfflineStore :=
      fixed (OfflineStore.client ⟨"octo", "docs"⟩) (fun _ => none) (.fixed (.onReopened []))
    ∃ start tree after,
      (engine.withServices rerunOfReopened
        (prepare engine.rules engine.queries rerunOfReopened)).run.run
        ⟨(), OfflineStore.rewritten, []⟩ = (.ok (⟨true, some ("opened", tree)⟩, start), after) ∧
      start.variableTable.get? "title" = some "covered" ∧
      start.variableTable.get? "author" = some "ann" ∧
      start.variableTable.get? "action" = some "opened" := by
  intro engine
  have computed : ((engine.withServices rerunOfReopened
      (prepare engine.rules engine.queries rerunOfReopened)).run.run
        ⟨(), OfflineStore.rewritten, []⟩).1.toOption.map (fun ready =>
      (ready.1.rerun, ready.1.work.map Prod.fst, ready.2.metadata.entries,
        ready.2.target.map Item.author)) =
      some (true, some "opened", [("title", "covered")], some "ann") := by decide +kernel
  rcases ready : (engine.withServices rerunOfReopened
      (prepare engine.rules engine.queries rerunOfReopened)).run.run
        ⟨(), OfflineStore.rewritten, []⟩ with
    ⟨failure | ⟨⟨rerun, work⟩, start⟩, after⟩
  · rw [ready] at computed
    cases computed
  · rw [ready] at computed
    simp only [Except.toOption, Option.map_some, Option.some.injEq, Prod.mk.injEq,
      Option.map_eq_some_iff] at computed
    obtain ⟨rfl, ⟨⟨_, tree⟩, rfl, rfl⟩, entries, item, target, author⟩ := computed
    obtain ⟨client, repository, delivered, loaded, _, _, _, begins⟩ :=
      variables_at_beginning engine rerunOfReopened ready
    have title : start.metadata.get? "title" = some "covered" := by
      rw [OrderedMap.get?, entries]
      decide
    have others {name : String} (normal : normalize name = name) (other : name ≠ "title") :
        start.metadata.get? (normalize name) = none := by
      rw [OrderedMap.get?, entries, normal, OrderedMap.lookup_cons_of_ne other]
      rfl
    have own : normalize "author" = "author" := by decide +kernel
    have final : normalize "action" = "action" := by decide +kernel
    refine ⟨start, tree, after, rfl, begins.covers _ _ title, ?_, ?_⟩
    · rw [begins.table, others own (by decide), own, target]
      simp [List.lookup_cons, author]
    · rw [begins.table, others final (by decide), final]
      simp [List.lookup_cons]

end Engine

end RepoRules
