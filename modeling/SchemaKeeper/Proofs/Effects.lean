import SchemaKeeper.Proofs.Entries
import SchemaKeeper.Proofs.Outcomes
import SchemaKeeper.Registry.Actions

/-!
Contract: what each action does to a registry.

An action is refused before it touches anything, fails at the one connection that it
uses, or does its work. `Effect` lists these outcomes with the registry that each leaves
behind; whatever is kept by every effect is kept by every run.

Owns: the effects of actions, and what is registered after additions and removals.

Does not own: what effects keep (`Registrations`, `Leaks`).
-/

namespace SchemaKeeper.Registry

variable {σ : Type}

/-! ## Registrations -/

theorem handle?_congr {registry later : Registry σ}
    (same : later.connections = registry.connections) : later.handle? = registry.handle? := by
  funext name
  rw [handle?, same]
  rfl

theorem model?_congr {registry later : Registry σ} (same : later.models = registry.models) :
    later.model? = registry.model? := by
  funext key
  rw [model?, same]
  rfl

theorem handle?_append {registry later : Registry σ} {name : String} {handle : Handle}
    (free : registry.handle? name = none)
    (connections : later.connections = registry.connections ++ [(name, handle)])
    (other : String) :
    later.handle? other = if other = name then some handle else registry.handle? other := by
  rw [handle?, connections, lookup_append_entry free]
  rfl

theorem model?_append {registry later : Registry σ} {key : ModelKey} {added : Model}
    (free : registry.model? key = none)
    (models : later.models = registry.models ++ [(key, added)]) (other : ModelKey) :
    later.model? other = if other = key then some added else registry.model? other := by
  rw [model?, models, lookup_append_entry free]
  rfl

theorem handle?_forget (registry : Registry σ) (name other : String) :
    (registry.forget name).handle? other =
      if other = name then none else registry.handle? other := by
  unfold handle? forget
  rw [lookup_filter fun known => known != name]
  by_cases same : other = name <;> simp [same]

theorem model?_forget (registry : Registry σ) (name : String) (key : ModelKey) :
    (registry.forget name).model? key =
      if key.connection = name then none else registry.model? key := by
  unfold model? forget
  rw [lookup_filter fun known : ModelKey => known.connection != name]
  by_cases same : key.connection = name <;> simp [same]

@[simp] theorem withState_same (registry : Registry σ) (handle : Handle) (state : σ) :
    (registry.withState handle state).state handle = state := by
  simp [withState]

theorem withState_other (registry : Registry σ) {handle other : Handle} (state : σ)
    (different : other ≠ handle) :
    (registry.withState handle state).state other = registry.state other := by
  simp [withState, different]

/-! ## Calls -/

theorem connection_found {registry : Registry σ} {name : String} {handle : Handle}
    (known : registry.handle? name = some handle) :
    connection name registry = (.ok handle, registry) := by
  unfold connection
  rw [run_get_bind, known]
  rfl

theorem connection_missing {registry : Registry σ} {name : String}
    (unknown : registry.handle? name = none) :
    connection name registry = (.error (.notRegistered (.connection name)), registry) := by
  unfold connection
  rw [run_get_bind, unknown]
  rfl

theorem connection_succeeds_iff {registry : Registry σ} {name : String} {handle : Handle} :
    (connection name registry).1 = .ok handle ↔ registry.handle? name = some handle := by
  cases known : registry.handle? name with
  | none =>
      rw [connection_missing known]
      simp
  | some other =>
      rw [connection_found known]
      simp

theorem model_found {registry : Registry σ} {key : ModelKey} {found : Model}
    (known : registry.model? key = some found) :
    model key registry = (.ok found, registry) := by
  unfold model
  rw [run_get_bind, known]
  rfl

theorem model_missing {registry : Registry σ} {key : ModelKey}
    (unknown : registry.model? key = none) :
    model key registry =
      (.error (.notRegistered (.model key.connection key.table)), registry) := by
  unfold model
  rw [run_get_bind, unknown]
  rfl

theorem model_succeeds_iff {registry : Registry σ} {key : ModelKey} {found : Model} :
    (model key registry).1 = .ok found ↔ registry.model? key = some found := by
  cases known : registry.model? key with
  | none =>
      rw [model_missing known]
      simp
  | some other =>
      rw [model_found known]
      simp

theorem through_run {α : Type} {request : Request σ α} {registry : Registry σ} {handle : Handle}
    {result : Except RequestError α} {later : σ}
    (run : request (registry.state handle) = (result, later)) :
    through handle request registry =
      (result.mapError .request, registry.withState handle later) := by
  unfold through
  rw [run]

section Calls

variable [Connection σ] {registry : Registry σ} {name : String} {handle : Handle} {later : σ}

theorem registerConnection_taken (known : registry.hasConnection name = true) :
    registerConnection name handle registry =
      (.error (.alreadyRegistered (.connection name)), registry) := by
  unfold registerConnection
  rw [run_get_bind, if_pos known]
  rfl

theorem registerConnection_failed {cause : ConnectionError}
    (free : registry.handle? name = none)
    (failed : Connection.connect (registry.state handle) = (.error cause, later)) :
    registerConnection name handle registry =
      (.error (.request (.connection cause)), registry.withState handle later) := by
  unfold registerConnection
  rw [run_get_bind, hasConnection, free, if_neg (by decide)]
  exact run_bind_error (through_run (Request.access_run failed))

theorem registerConnection_opened (free : registry.handle? name = none)
    (connected : Connection.connect (registry.state handle) = (.ok (), later)) :
    registerConnection name handle registry = (.ok (), { registry.withState handle later with
      connections := registry.connections ++ [(name, handle)] }) := by
  unfold registerConnection
  rw [run_get_bind, hasConnection, free, if_neg (by decide)]
  exact run_bind_ok (through_run (Request.access_run connected))

theorem unregisterConnection_absent (unknown : registry.handle? name = none) :
    unregisterConnection name registry = (.ok false, registry) := by
  unfold unregisterConnection
  rw [run_get_bind, unknown]
  rfl

theorem unregisterConnection_known {result : Except ConnectionError Unit}
    (known : registry.handle? name = some handle)
    (disconnected : Connection.disconnect (registry.state handle) = (result, later)) :
    unregisterConnection name registry =
      ((result.mapError fun cause => .request (.connection cause)).map fun _ => true,
        (registry.forget name).withState handle later) := by
  have forgotten : (modify fun registry => registry.forget name : Call σ Unit) registry =
      (.ok (), registry.forget name) := rfl
  have disconnects : Request.access Connection.disconnect ((registry.forget name).state handle) =
      (result.mapError .connection, later) := Request.access_run disconnected
  have closed := through_run disconnects
  unfold unregisterConnection
  rw [run_get_bind, known]
  dsimp only
  rw [run_bind_ok forgotten]
  cases result with
  | error cause => exact run_bind_error closed
  | ok => exact run_bind_ok closed

variable {table : Table}

theorem registerModel_taken (known : (registry.model? ⟨name, table.name⟩).isSome = true) :
    registerModel name table registry =
      (.error (.alreadyRegistered (.model name table.name)), registry) := by
  unfold registerModel
  rw [run_get_bind]
  dsimp only
  rw [if_pos known]
  rfl

theorem registerModel_unowned (free : registry.model? ⟨name, table.name⟩ = none)
    (unknown : registry.handle? name = none) :
    registerModel name table registry =
      (.error (.notRegistered (.connection name)), registry) := by
  unfold registerModel
  rw [run_get_bind]
  dsimp only
  rw [free, if_neg (by decide)]
  exact run_bind_error (connection_missing unknown)

theorem registerModel_failed {cause : RequestError}
    (free : registry.model? ⟨name, table.name⟩ = none)
    (known : registry.handle? name = some handle)
    (failed : table.reconcile (registry.state handle) = (.error cause, later)) :
    registerModel name table registry =
      (.error (.request cause), registry.withState handle later) := by
  unfold registerModel
  rw [run_get_bind]
  dsimp only
  rw [free, if_neg (by decide), run_bind_ok (connection_found known)]
  exact run_bind_error (through_run failed)

theorem registerModel_reconciled {plan : Plan}
    (free : registry.model? ⟨name, table.name⟩ = none)
    (known : registry.handle? name = some handle)
    (carriedOut : table.reconcile (registry.state handle) = (.ok plan, later)) :
    registerModel name table registry = (.ok ⟨handle, table⟩,
      { registry.withState handle later with
        models := registry.models ++ [(⟨name, table.name⟩, ⟨handle, table⟩)] }) := by
  unfold registerModel
  rw [run_get_bind]
  dsimp only
  rw [free, if_neg (by decide), run_bind_ok (connection_found known)]
  exact run_bind_ok (through_run carriedOut)

end Calls

/-! ## Effects -/

def Action.looksUp : Action → Bool
  | .model _ | .connection _ | .modelsOn _ => true
  | _ => false

variable [Connection σ]

/-- What an action can come to: its result and the registry behind it. -/
inductive Effect (registry : Registry σ) :
    Action → Except RegistryError Answer → Registry σ → Prop where
  | nameTaken {name : String} {handle : Handle} (known : registry.hasConnection name = true) :
      Effect registry (.registerConnection name handle)
        (.error (.alreadyRegistered (.connection name))) registry
  | connectFailed {name : String} {handle : Handle} {cause : ConnectionError} {later : σ}
      (free : registry.handle? name = none)
      (failed : Connection.connect (registry.state handle) = (.error cause, later)) :
      Effect registry (.registerConnection name handle)
        (.error (.request (.connection cause))) (registry.withState handle later)
  | opened {name : String} {handle : Handle} {later : σ} (free : registry.handle? name = none)
      (connected : Connection.connect (registry.state handle) = (.ok (), later)) :
      Effect registry (.registerConnection name handle) (.ok .done)
        { registry.withState handle later with
          connections := registry.connections ++ [(name, handle)] }
  | absent {name : String} (unknown : registry.handle? name = none) :
      Effect registry (.unregisterConnection name) (.ok (.known false)) registry
  | closed {name : String} {handle : Handle} {later : σ}
      (known : registry.handle? name = some handle)
      (disconnected : Connection.disconnect (registry.state handle) = (.ok (), later)) :
      Effect registry (.unregisterConnection name) (.ok (.known true))
        ((registry.forget name).withState handle later)
  | abandoned {name : String} {handle : Handle} {cause : ConnectionError} {later : σ}
      (known : registry.handle? name = some handle)
      (failed : Connection.disconnect (registry.state handle) = (.error cause, later)) :
      Effect registry (.unregisterConnection name) (.error (.request (.connection cause)))
        ((registry.forget name).withState handle later)
  | modelTaken {name : String} {table : Table}
      (known : (registry.model? ⟨name, table.name⟩).isSome = true) :
      Effect registry (.registerModel name table)
        (.error (.alreadyRegistered (.model name table.name))) registry
  | unowned {name : String} {table : Table} (free : registry.model? ⟨name, table.name⟩ = none)
      (unknown : registry.handle? name = none) :
      Effect registry (.registerModel name table)
        (.error (.notRegistered (.connection name))) registry
  | reconcileFailed {name : String} {table : Table} {handle : Handle} {cause : RequestError}
      {later : σ} (free : registry.model? ⟨name, table.name⟩ = none)
      (known : registry.handle? name = some handle)
      (failed : table.reconcile (registry.state handle) = (.error cause, later)) :
      Effect registry (.registerModel name table) (.error (.request cause))
        (registry.withState handle later)
  | reconciled {name : String} {table : Table} {handle : Handle} {plan : Plan} {later : σ}
      (free : registry.model? ⟨name, table.name⟩ = none)
      (known : registry.handle? name = some handle)
      (carriedOut : table.reconcile (registry.state handle) = (.ok plan, later)) :
      Effect registry (.registerModel name table) (.ok (.model ⟨handle, table⟩))
        { registry.withState handle later with
          models := registry.models ++ [(⟨name, table.name⟩, ⟨handle, table⟩)] }
  | lookedUp {action : Action} {result : Except RegistryError Answer}
      (question : action.looksUp = true) : Effect registry action result registry
  | allDisconnected {result : Except RegistryError Answer} {later : Registry σ}
      (connections : later.connections = registry.connections)
      (models : later.models = registry.models)
      (others : ∀ handle, handle ∉ registry.connections.map (·.2) →
        later.state handle = registry.state handle) :
      Effect registry .disconnectAll result later

/-! ## Actions -/

theorem disconnectEach_keeps (handles : List Handle) (registry : Registry σ) :
    (disconnectEach handles registry).2.connections = registry.connections ∧
      (disconnectEach handles registry).2.models = registry.models ∧
      ∀ handle, handle ∉ handles →
        (disconnectEach handles registry).2.state handle = registry.state handle := by
  induction handles generalizing registry with
  | nil => exact ⟨rfl, rfl, fun _ _ => rfl⟩
  | cons first rest inductionHypothesis =>
      obtain ⟨connections, models, others⟩ :=
        inductionHypothesis (through first (Request.access Connection.disconnect) registry).2
      refine ⟨connections, models, fun handle absent => ?_⟩
      rw [List.mem_cons, not_or] at absent
      exact (others handle absent.2).trans (withState_other registry _ absent.1)

theorem perform_effect {registry later : Registry σ} {action : Action}
    {result : Except RegistryError Answer} (run : perform action registry = (result, later)) :
    Effect registry action result later := by
  cases action with
  | registerConnection name handle =>
      by_cases known : registry.hasConnection name = true
      · cases (run_bind_error (registerConnection_taken known)).symm.trans run
        exact .nameTaken known
      · have free : registry.handle? name = none := by simpa [hasConnection] using known
        rcases connects : Connection.connect (registry.state handle) with ⟨cause | _, later⟩
        · cases (run_bind_error (registerConnection_failed free connects)).symm.trans run
          exact .connectFailed free connects
        · cases (run_bind_ok (registerConnection_opened free connects)).symm.trans run
          exact .opened free connects
  | unregisterConnection name =>
      cases known : registry.handle? name with
      | none =>
          cases (run_bind_ok (unregisterConnection_absent known)).symm.trans run
          exact .absent known
      | some handle =>
          rcases disconnects : Connection.disconnect (registry.state handle) with
            ⟨cause | _, later⟩
          · cases (run_bind_error (unregisterConnection_known known disconnects)).symm.trans run
            exact .abandoned known disconnects
          · cases (run_bind_ok (unregisterConnection_known known disconnects)).symm.trans run
            exact .closed known disconnects
  | registerModel name table =>
      cases taken : registry.model? ⟨name, table.name⟩ with
      | some model =>
          have known : (registry.model? ⟨name, table.name⟩).isSome = true := by rw [taken]; rfl
          cases (run_bind_error (registerModel_taken known)).symm.trans run
          exact .modelTaken known
      | none =>
          cases known : registry.handle? name with
          | none =>
              cases (run_bind_error (registerModel_unowned taken known)).symm.trans run
              exact .unowned taken known
          | some handle =>
              rcases reconciles : table.reconcile (registry.state handle) with ⟨cause | plan, later⟩
              · cases (run_bind_error (registerModel_failed taken known reconciles)).symm.trans run
                exact .reconcileFailed taken known reconciles
              · cases (run_bind_ok (registerModel_reconciled taken known reconciles)).symm.trans run
                exact .reconciled taken known reconciles
  | model key =>
      cases known : registry.model? key with
      | none =>
          cases (run_bind_error (model_missing known)).symm.trans run
          exact .lookedUp rfl
      | some found =>
          cases (run_bind_ok (model_found known)).symm.trans run
          exact .lookedUp rfl
  | connection name =>
      cases known : registry.handle? name with
      | none =>
          cases (run_bind_error (connection_missing known)).symm.trans run
          exact .lookedUp rfl
      | some handle =>
          cases (run_bind_ok (connection_found known)).symm.trans run
          exact .lookedUp rfl
  | modelsOn name =>
      cases run
      exact .lookedUp rfl
  | disconnectAll =>
      have kept := disconnectEach_keeps (registry.connections.map (·.2)) registry
      rcases disconnects : disconnectAll registry with ⟨cause | _, last⟩
      all_goals
        change disconnectEach _ registry = _ at disconnects
        rw [disconnects] at kept
        obtain ⟨connections, models, others⟩ := kept
      · cases (run_bind_error disconnects).symm.trans run
        exact .allDisconnected connections models others
      · cases (run_bind_ok disconnects).symm.trans run
        exact .allDisconnected connections models others

/-- A model that is registered was free, and its table was reconciled over the connection
that is registered. -/
theorem registerModel_ok {registry later : Registry σ} {name : String} {table : Table}
    {registered : Model} (run : registerModel name table registry = (.ok registered, later)) :
    ∃ handle plan state, registry.model? ⟨name, table.name⟩ = none ∧
      registry.handle? name = some handle ∧
      table.reconcile (registry.state handle) = (.ok plan, state) ∧
      later = { registry.withState handle state with
        models := registry.models ++ [(⟨name, table.name⟩, ⟨handle, table⟩)] } := by
  have performed : perform (.registerModel name table) registry =
      (.ok (.model registered), later) := run_bind_ok run
  cases perform_effect performed with
  | @reconciled _ _ handle plan state free known carriedOut =>
      exact ⟨handle, plan, state, free, known, carriedOut, rfl⟩
  | lookedUp question => cases question

end SchemaKeeper.Registry
