import SchemaKeeper.Proofs.Effects

/-!
Contract: what is registered after any run of a registry.

A run leaves its events behind, and these decide what can be looked up. A connection is
there from its registration until its name is unregistered, and a model from its own
registration until its connection's ends. Connections may fail at any call.

Owns: the events that begin and end registrations, and the invariant that ties them to
the registry.

Does not own: what single actions do (`Effects`).
-/

namespace SchemaKeeper.Registry

variable {σ : Type}

/-! ## Events -/

def Event.Opens (event : Event) (name : String) (handle : Handle) : Prop :=
  event = ⟨.registerConnection name handle, .ok .done⟩

/-- The connection of the name was unregistered. However such a call ends, nothing is
registered under the name after it. -/
def Event.Closes (event : Event) (name : String) : Prop :=
  event.action = .unregisterConnection name

/-- A registration of the name began or ended. -/
def Event.Rebinds (event : Event) (name : String) : Prop :=
  (∃ handle, event.Opens name handle) ∨ event.Closes name

/-- A table of the key's name was registered on the key's connection, as this model. -/
def Event.Registers (event : Event) (key : ModelKey) (model : Model) : Prop :=
  ∃ table, table.name = key.table ∧
    event = ⟨.registerModel key.connection table, .ok (.model model)⟩

structure Event.Quiet (event : Event) : Prop where
  rebinds : ∀ name, ¬ event.Rebinds name
  registers : ∀ key model, ¬ event.Registers key model

def Action.changes : Action → Bool
  | .registerConnection _ _ | .unregisterConnection _ | .registerModel _ _ => true
  | _ => false

/-- The connection was registered under the name just before these events, and in none of
them was the name registered again or unregistered. -/
def OpenSince (history : List Event) (name : String) (handle : Handle) (since : List Event) :
    Prop :=
  ∃ before opening, history = before ++ opening :: since ∧ opening.Opens name handle ∧
    ∀ event ∈ since, ¬ event.Rebinds name

/-- By the events, the connection is registered under the name. -/
def Connected (history : List Event) (name : String) (handle : Handle) : Prop :=
  ∃ since, OpenSince history name handle since

/-- The model was registered during the registration of its connection that still lasts. -/
def RegisteredSince (history : List Event) (key : ModelKey) (model : Model) : Prop :=
  ∃ handle since, OpenSince history key.connection handle since ∧
    ∃ event ∈ since, event.Registers key model

section Events

variable {history since : List Event} {event : Event} {name other : String} {handle : Handle}
  {key : ModelKey} {model : Model}

theorem quiet_of_action {action : Action} {result : Except RegistryError Answer}
    (changing : action.changes = false) : Event.Quiet ⟨action, result⟩ where
  rebinds := by
    rintro _ (⟨_, ⟨⟩⟩ | closes)
    · contradiction
    · cases closes
      contradiction
  registers := by
    rintro _ _ ⟨_, _, ⟨⟩⟩
    contradiction

theorem quiet_of_error {action : Action} {cause : RegistryError}
    (keeps : ∀ name, action ≠ .unregisterConnection name) :
    Event.Quiet ⟨action, .error cause⟩ where
  rebinds := by
    rintro name (⟨_, ⟨⟩⟩ | closes)
    exact keeps name closes
  registers := by rintro _ _ ⟨_, _, ⟨⟩⟩

theorem Event.Opens.not_rebinds (opens : event.Opens name handle) (different : other ≠ name) :
    ¬ event.Rebinds other := by
  cases opens
  rintro (⟨_, ⟨⟩⟩ | closes)
  · exact different rfl
  · cases closes

theorem Event.Closes.not_rebinds (closes : event.Closes name) (different : other ≠ name) :
    ¬ event.Rebinds other := by
  rintro (⟨_, rfl⟩ | closesOther)
  · cases closes
  · cases closes.symm.trans closesOther
    exact different rfl

theorem Event.Closes.not_registers (closes : event.Closes name) : ¬ event.Registers key model := by
  rintro ⟨_, _, rfl⟩
  cases closes

theorem openSince_self (opens : event.Opens name handle) :
    OpenSince (history ++ [event]) name handle [] :=
  ⟨history, event, rfl, opens, by simp⟩

/-- The latest event is the registration itself, or came after it. -/
theorem OpenSince.latest (opened : OpenSince (history ++ [event]) name handle since) :
    (since = [] ∧ event.Opens name handle) ∨
      ∃ earlier, since = earlier ++ [event] ∧ OpenSince history name handle earlier ∧
        ¬ event.Rebinds name := by
  obtain ⟨before, opening, split, opens, lasting⟩ := opened
  rcases List.eq_nil_or_concat since with rfl | ⟨earlier, last, rfl⟩
  · obtain ⟨-, same⟩ := List.append_inj' split rfl
    cases same
    exact .inl ⟨rfl, opens⟩
  · rw [List.concat_eq_append, ← List.cons_append, ← List.append_assoc] at split
    obtain ⟨same, lastSame⟩ := List.append_inj' split rfl
    cases lastSame
    rw [List.concat_eq_append] at lasting ⊢
    have earlierLasting : ∀ event ∈ earlier, ¬ event.Rebinds name :=
      fun event listed => lasting event (List.mem_append_left _ listed)
    exact .inr ⟨earlier, rfl, ⟨before, opening, same, opens, earlierLasting⟩,
      lasting event (by simp)⟩

theorem OpenSince.append (opened : OpenSince history name handle since)
    (keeps : ¬ event.Rebinds name) :
    OpenSince (history ++ [event]) name handle (since ++ [event]) := by
  obtain ⟨before, opening, rfl, opens, lasting⟩ := opened
  refine ⟨before, opening, by simp, opens, fun later listed => ?_⟩
  rcases List.mem_append.1 listed with listed | listed
  · exact lasting later listed
  · obtain rfl : later = event := by simpa using listed
    exact keeps

theorem connected_append_iff (keeps : ¬ event.Rebinds name) :
    Connected (history ++ [event]) name handle ↔ Connected history name handle := by
  constructor
  · rintro ⟨since, opened⟩
    rcases opened.latest with ⟨_, opens⟩ | ⟨earlier, _, openedEarlier, _⟩
    · exact absurd (.inl ⟨handle, opens⟩) keeps
    · exact ⟨earlier, openedEarlier⟩
  · rintro ⟨since, opened⟩
    exact ⟨_, opened.append keeps⟩

theorem connected_of_opens_iff (opens : event.Opens name handle) {known : Handle} :
    Connected (history ++ [event]) name known ↔ handle = known := by
  constructor
  · rintro ⟨since, opened⟩
    rcases opened.latest with ⟨_, opensKnown⟩ | ⟨_, _, _, keeps⟩
    · cases opens.symm.trans opensKnown
      rfl
    · exact absurd (.inl ⟨handle, opens⟩) keeps
  · rintro rfl
    exact ⟨[], openSince_self opens⟩

theorem Event.Closes.not_connected (closes : event.Closes name) :
    ¬ Connected (history ++ [event]) name handle := by
  rintro ⟨since, opened⟩
  rcases opened.latest with ⟨_, rfl⟩ | ⟨_, _, _, keeps⟩
  · cases closes
  · exact keeps (.inr closes)

/-- A registration that only just began or ended has no models. -/
theorem not_registeredSince_of_rebinds (rebinds : event.Rebinds key.connection) :
    ¬ RegisteredSince (history ++ [event]) key model := by
  rintro ⟨_, since, opened, later, listed, _⟩
  rcases opened.latest with ⟨rfl, _⟩ | ⟨_, _, _, keeps⟩
  · contradiction
  · exact keeps rebinds

theorem registeredSince_append_iff (keeps : ¬ event.Rebinds key.connection) :
    RegisteredSince (history ++ [event]) key model ↔
      RegisteredSince history key model ∨
        event.Registers key model ∧ ∃ handle, Connected history key.connection handle := by
  constructor
  · rintro ⟨handle, since, opened, later, listed, registers⟩
    rcases opened.latest with ⟨_, opens⟩ | ⟨earlier, rfl, openedEarlier, _⟩
    · exact absurd (.inl ⟨handle, opens⟩) keeps
    · rcases List.mem_append.1 listed with listed | listed
      · exact .inl ⟨handle, earlier, openedEarlier, later, listed, registers⟩
      · obtain rfl : later = event := by simpa using listed
        exact .inr ⟨registers, handle, earlier, openedEarlier⟩
  · rintro (⟨handle, since, opened, later, listed, registers⟩ |
      ⟨registers, handle, since, opened⟩)
    · exact ⟨handle, _, opened.append keeps, later, List.mem_append_left _ listed, registers⟩
    · exact ⟨handle, _, opened.append keeps, event, by simp, registers⟩

/-- Events that register no model on the key leave its registration as it was. -/
theorem registeredSince_kept_iff (keeps : ¬ event.Rebinds key.connection)
    (registers : ¬ event.Registers key model) :
    RegisteredSince (history ++ [event]) key model ↔ RegisteredSince history key model := by
  rw [registeredSince_append_iff keeps]
  simp [registers]

end Events

/-! ## The invariant -/

/-- The registrations of a registry are those that the events behind it made and did not
end. -/
structure Recorded (history : List Event) (registry : Registry σ) : Prop where
  namesDistinct : (registry.connections.map (·.1)).Nodup
  keysDistinct : (registry.models.map (·.1)).Nodup
  owned : ∀ key model, registry.model? key = some model →
    registry.handle? key.connection = some model.handle ∧ model.table.name = key.table
  connected : ∀ name handle,
    registry.handle? name = some handle ↔ Connected history name handle
  registered : ∀ key model,
    registry.model? key = some model ↔ RegisteredSince history key model

theorem recorded_start (state : Handle → σ) : Recorded [] (start state) where
  namesDistinct := List.nodup_nil
  keysDistinct := List.nodup_nil
  owned := by
    intro key model found
    contradiction
  connected := by
    intro name handle
    refine ⟨fun found => by contradiction, ?_⟩
    rintro ⟨since, before, opening, split, _⟩
    simp at split
  registered := by
    intro key model
    refine ⟨fun found => by contradiction, ?_⟩
    rintro ⟨handle, since, ⟨before, opening, split, _⟩, _⟩
    simp at split

namespace Recorded

variable {history : List Event} {registry later : Registry σ} {event : Event} {name : String}

theorem model?_eq_none (recorded : Recorded history registry) {key : ModelKey}
    (unknown : registry.handle? key.connection = none) : registry.model? key = none := by
  rw [Option.eq_none_iff_forall_ne_some]
  intro model found
  have known := (recorded.owned key model found).1
  rw [unknown] at known
  contradiction

/-- Without a registration there is nothing to forget. -/
theorem forgets_unknown (recorded : Recorded history registry)
    (unknown : registry.handle? name = none) :
    (∀ other, registry.handle? other = if other = name then none else registry.handle? other) ∧
      ∀ key, registry.model? key =
        if key.connection = name then none else registry.model? key := by
  refine ⟨fun other => ?_, fun key => ?_⟩
  · by_cases same : other = name
    · rw [if_pos same, same, unknown]
    · rw [if_neg same]
  · by_cases same : key.connection = name
    · rw [if_pos same, recorded.model?_eq_none (same ▸ unknown)]
    · rw [if_neg same]

/-- An event that changes nothing, with the registrations as they were. -/
theorem unmoved (recorded : Recorded history registry) (quiet : event.Quiet)
    (connections : later.connections = registry.connections)
    (models : later.models = registry.models) : Recorded (history ++ [event]) later where
  namesDistinct := connections ▸ recorded.namesDistinct
  keysDistinct := models ▸ recorded.keysDistinct
  owned := by
    intro key model
    rw [handle?_congr connections, model?_congr models]
    exact recorded.owned key model
  connected := by
    intro name handle
    rw [handle?_congr connections, connected_append_iff (quiet.rebinds name)]
    exact recorded.connected name handle
  registered := by
    intro key model
    rw [model?_congr models,
      registeredSince_kept_iff (quiet.rebinds key.connection) (quiet.registers key model)]
    exact recorded.registered key model

/-- Unregistering takes the name and its models away, and keeps everything else. -/
theorem closed_under (recorded : Recorded history registry) (closes : event.Closes name)
    (namesDistinct : (later.connections.map (·.1)).Nodup)
    (keysDistinct : (later.models.map (·.1)).Nodup)
    (handles : ∀ other,
      later.handle? other = if other = name then none else registry.handle? other)
    (models : ∀ key,
      later.model? key = if key.connection = name then none else registry.model? key) :
    Recorded (history ++ [event]) later where
  namesDistinct := namesDistinct
  keysDistinct := keysDistinct
  owned := by
    intro key model found
    rw [models] at found
    rw [handles]
    split at found
    · contradiction
    · next different =>
        rw [if_neg different]
        exact recorded.owned key model found
  connected := by
    intro other handle
    rw [handles]
    by_cases same : other = name
    · subst same
      simp [closes.not_connected]
    · rw [if_neg same, connected_append_iff (closes.not_rebinds same)]
      exact recorded.connected other handle
  registered := by
    intro key model
    rw [models]
    by_cases same : key.connection = name
    · have gone : ¬ RegisteredSince (history ++ [event]) key model :=
        not_registeredSince_of_rebinds (.inr (same ▸ closes))
      simp [same, gone]
    · rw [if_neg same,
        registeredSince_kept_iff (closes.not_rebinds same) closes.not_registers]
      exact recorded.registered key model

theorem forgotten (recorded : Recorded history registry) (closes : event.Closes name)
    (connections : later.connections = (registry.forget name).connections)
    (models : later.models = (registry.forget name).models) :
    Recorded (history ++ [event]) later := by
  have namesDistinct : (later.connections.map (·.1)).Nodup :=
    connections ▸ recorded.namesDistinct.sublist (List.filter_sublist.map _)
  have keysDistinct : (later.models.map (·.1)).Nodup :=
    models ▸ recorded.keysDistinct.sublist (List.filter_sublist.map _)
  refine recorded.closed_under closes namesDistinct keysDistinct ?_ ?_
  · rw [handle?_congr connections]
    exact handle?_forget registry name
  · rw [model?_congr models]
    exact model?_forget registry name

theorem opened_under (recorded : Recorded history registry) {handle : Handle}
    (free : registry.handle? name = none) (opens : event.Opens name handle)
    (connections : later.connections = registry.connections ++ [(name, handle)])
    (models : later.models = registry.models) : Recorded (history ++ [event]) later := by
  have handles := handle?_append free connections
  refine ⟨connections ▸ nodup_append_entry recorded.namesDistinct free,
    models ▸ recorded.keysDistinct, ?owned, ?connected, ?registered⟩
  case owned =>
    intro key model found
    rw [model?_congr models] at found
    obtain ⟨known, named⟩ := recorded.owned key model found
    have different : key.connection ≠ name := by
      intro same
      rw [same, free] at known
      contradiction
    rw [handles, if_neg different]
    exact ⟨known, named⟩
  case connected =>
    intro other known
    rw [handles]
    by_cases same : other = name
    · subst same
      rw [if_pos rfl, connected_of_opens_iff opens, Option.some_inj]
    · rw [if_neg same, connected_append_iff (opens.not_rebinds same)]
      exact recorded.connected other known
  case registered =>
    intro key model
    rw [model?_congr models]
    by_cases same : key.connection = name
    · -- a name that was free has no models, and none are registered since
      have absent : registry.model? key = none := recorded.model?_eq_none (same ▸ free)
      have unregistered : ¬ RegisteredSince (history ++ [event]) key model :=
        not_registeredSince_of_rebinds (.inl ⟨handle, same ▸ opens⟩)
      simp [absent, unregistered]
    · have registersNone : ¬ event.Registers key model := by
        cases opens
        rintro ⟨_, _, ⟨⟩⟩
      rw [registeredSince_kept_iff (opens.not_rebinds same) registersNone]
      exact recorded.registered key model

theorem reconciled_on (recorded : Recorded history registry) {table : Table}
    {handle : Handle} (free : registry.model? ⟨name, table.name⟩ = none)
    (known : registry.handle? name = some handle)
    (connections : later.connections = registry.connections)
    (models : later.models =
      registry.models ++ [(⟨name, table.name⟩, ⟨handle, table⟩)]) :
    Recorded (history ++ [⟨.registerModel name table, .ok (.model ⟨handle, table⟩)⟩]) later := by
  have modelsAfter := model?_append free models
  have keeps : ∀ other,
      ¬ Event.Rebinds ⟨.registerModel name table, .ok (.model ⟨handle, table⟩)⟩ other := by
    rintro _ (⟨_, ⟨⟩⟩ | closes)
    cases closes
  refine ⟨connections ▸ recorded.namesDistinct,
    models ▸ nodup_append_entry recorded.keysDistinct free, ?owned, ?connected, ?registered⟩
  case owned =>
    intro key model found
    rw [modelsAfter] at found
    rw [handle?_congr connections]
    split at found
    · next same =>
        cases found
        cases same
        exact ⟨known, rfl⟩
    · exact recorded.owned key model found
  case connected =>
    intro other someHandle
    rw [handle?_congr connections, connected_append_iff (keeps other)]
    exact recorded.connected other someHandle
  case registered =>
    intro key model
    rw [modelsAfter]
    by_cases same : key = ⟨name, table.name⟩
    · subst same
      have connected : ∃ handle, Connected history name handle :=
        ⟨handle, (recorded.connected name handle).1 known⟩
      have unregistered : ¬ RegisteredSince history ⟨name, table.name⟩ model := by
        rw [← recorded.registered, free]
        nofun
      rw [if_pos rfl, registeredSince_append_iff (keeps name)]
      constructor
      · rintro ⟨⟩
        exact .inr ⟨⟨table, rfl, rfl⟩, connected⟩
      · rintro (registered | ⟨⟨_, _, ⟨⟩⟩, _⟩)
        · exact absurd registered unregistered
        · rfl
    · have registersNone : ¬ Event.Registers
          ⟨.registerModel name table, .ok (.model ⟨handle, table⟩)⟩ key model := by
        cases key
        rintro ⟨_, rfl, ⟨⟩⟩
        exact same rfl
      rw [if_neg same, registeredSince_kept_iff (keeps key.connection) registersNone]
      exact recorded.registered key model

end Recorded

/-! ## Runs -/

section Runs

variable [Connection σ]

theorem perform_recorded {history : List Event} {registry later : Registry σ} {action : Action}
    {result : Except RegistryError Answer} (recorded : Recorded history registry)
    (run : perform action registry = (result, later)) :
    Recorded (history ++ [⟨action, result⟩]) later := by
  cases perform_effect run with
  | nameTaken known => exact recorded.unmoved (quiet_of_error nofun) rfl rfl
  | connectFailed free failed => exact recorded.unmoved (quiet_of_error nofun) rfl rfl
  | opened free connected => exact recorded.opened_under free rfl rfl rfl
  | absent unknown =>
      obtain ⟨handles, models⟩ := recorded.forgets_unknown unknown
      exact recorded.closed_under rfl recorded.namesDistinct recorded.keysDistinct handles models
  | closed known disconnected => exact recorded.forgotten rfl rfl rfl
  | abandoned known failed => exact recorded.forgotten rfl rfl rfl
  | modelTaken known => exact recorded.unmoved (quiet_of_error nofun) rfl rfl
  | unowned free unknown => exact recorded.unmoved (quiet_of_error nofun) rfl rfl
  | reconcileFailed free known failed => exact recorded.unmoved (quiet_of_error nofun) rfl rfl
  | reconciled free known carriedOut => exact recorded.reconciled_on free known rfl rfl
  | lookedUp question =>
      have changing : action.changes = false := by
        cases action with
        | registerConnection name handle => contradiction
        | unregisterConnection name => contradiction
        | registerModel name table => contradiction
        | _ => rfl
      exact recorded.unmoved (quiet_of_action changing) rfl rfl
  | allDisconnected connections models others =>
      exact recorded.unmoved (quiet_of_action rfl) connections models

theorem performAll_recorded {history : List Event} {registry : Registry σ}
    (recorded : Recorded history registry) (actions : List Action) :
    Recorded (history ++ (performAll actions registry).1) (performAll actions registry).2 := by
  induction actions generalizing history registry with
  | nil => simpa [performAll] using recorded
  | cons action rest inductionHypothesis =>
      have step := perform_recorded recorded
        (show perform action registry = ((perform action registry).1, _) from rfl)
      have whole := inductionHypothesis step
      rw [List.append_assoc] at whole
      exact whole

end Runs

/-! ## Coherence -/

/-- What can be looked up in a registry, by the events behind it. -/
structure Coherent (history : List Event) (registry : Registry σ) : Prop where
  /-- A registered model has the connection that is registered under its owner's name, and
  is registered under its table's name. -/
  owned : ∀ key found, (key, found) ∈ registry.models →
    (connection key.connection registry).1 = .ok found.handle ∧ key.table = found.table.name
  /-- A connection is found under a name if it was registered under it, and the name was
  neither registered again nor unregistered since. -/
  connected : ∀ name handle,
    (connection name registry).1 = .ok handle ↔ Connected history name handle
  /-- A model is found if it was registered since its connection was, and the connection is
  still registered. -/
  found : ∀ key found, (model key registry).1 = .ok found ↔ RegisteredSince history key found
  /-- The models on a connection are the same ones. -/
  listed : ∀ name found, found ∈ registry.modelsOn name ↔
    ∃ table, RegisteredSince history ⟨name, table⟩ found
  /-- No model is listed twice. -/
  listedOnce : ∀ name, (registry.modelsOn name).Nodup
  /-- No model outlives the registration of its connection. -/
  outlived : ∀ name, (∀ handle, ¬ Connected history name handle) →
    registry.modelsOn name = [] ∧ ∀ table, (model ⟨name, table⟩ registry).1 =
      .error (.notRegistered (.model name table))

namespace Recorded

variable {history : List Event} {registry : Registry σ}

theorem mem_connections_iff (recorded : Recorded history registry) {name : String}
    {handle : Handle} :
    (name, handle) ∈ registry.connections ↔ registry.handle? name = some handle :=
  (lookup_eq_some_iff_mem recorded.namesDistinct).symm

theorem mem_models_iff (recorded : Recorded history registry) {key : ModelKey} {found : Model} :
    (key, found) ∈ registry.models ↔ registry.model? key = some found :=
  (lookup_eq_some_iff_mem recorded.keysDistinct).symm

theorem mem_modelsOn_iff (recorded : Recorded history registry) {name : String} {found : Model} :
    found ∈ registry.modelsOn name ↔ ∃ table, registry.model? ⟨name, table⟩ = some found := by
  simp only [modelsOn, List.mem_map, List.mem_filter, ← recorded.mem_models_iff]
  constructor
  · rintro ⟨⟨⟨owner, table⟩, _⟩, ⟨listed, same⟩, rfl⟩
    obtain rfl : owner = name := by simpa using same
    exact ⟨table, listed⟩
  · rintro ⟨table, listed⟩
    exact ⟨(⟨name, table⟩, found), ⟨listed, by simp⟩, rfl⟩

theorem modelsOn_nodup (recorded : Recorded history registry) (name : String) :
    (registry.modelsOn name).Nodup := by
  have named : ∀ key found, (key, found) ∈ registry.models → found.table.name = key.table :=
    fun key found listed => (recorded.owned key found (recorded.mem_models_iff.1 listed)).2
  refine List.Nodup.map_on ?_ ((List.Nodup.of_map _ recorded.keysDistinct).filter _)
  rintro ⟨⟨owner, table⟩, found⟩ listed ⟨⟨otherOwner, otherTable⟩, other⟩ otherListed same
  -- the model says the table, and the filter says the owner
  rw [List.mem_filter] at listed otherListed
  obtain rfl : found = other := same
  obtain rfl : owner = name := by simpa using listed.2
  obtain rfl : otherOwner = owner := by simpa using otherListed.2
  obtain rfl : found.table.name = table := named _ _ listed.1
  obtain rfl : found.table.name = otherTable := named _ _ otherListed.1
  rfl

theorem coherent (recorded : Recorded history registry) : Coherent history registry where
  owned key found listed := by
    obtain ⟨known, named⟩ := recorded.owned key found (recorded.mem_models_iff.1 listed)
    rw [connection_found known]
    exact ⟨rfl, named.symm⟩
  connected name handle := by
    rw [connection_succeeds_iff]
    exact recorded.connected name handle
  found key found := by
    rw [model_succeeds_iff]
    exact recorded.registered key found
  listed name found := by
    rw [recorded.mem_modelsOn_iff]
    exact exists_congr fun table => recorded.registered ⟨name, table⟩ found
  listedOnce := recorded.modelsOn_nodup
  outlived name disconnected := by
    have unknown : registry.handle? name = none := by
      rw [Option.eq_none_iff_forall_ne_some]
      exact fun handle known => disconnected handle ((recorded.connected name handle).1 known)
    refine ⟨List.eq_nil_iff_forall_not_mem.2 fun found listed => ?_, fun table => ?_⟩
    · obtain ⟨table, known⟩ := recorded.mem_modelsOn_iff.1 listed
      rw [recorded.model?_eq_none unknown] at known
      contradiction
    · rw [model_missing (recorded.model?_eq_none unknown)]

end Recorded

section Runs

variable [Connection σ]

/-- Whatever was done, and whichever connections failed, a model is there exactly if it
was registered since its connection was and the connection is still registered. -/
theorem performAll_coherent (state : Handle → σ) (actions : List Action) :
    Coherent (performAll actions (start state)).1 (performAll actions (start state)).2 := by
  have recorded := performAll_recorded (recorded_start state) actions
  rw [List.nil_append] at recorded
  exact recorded.coherent

end Runs

end SchemaKeeper.Registry
