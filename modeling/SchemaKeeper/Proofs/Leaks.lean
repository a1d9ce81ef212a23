import Mathlib.Data.List.Induction
import SchemaKeeper.Connection.Memory
import SchemaKeeper.Proofs.Outcomes
import SchemaKeeper.Proofs.Registrations

/-!
Contract: failed calls on a registry leave the registrations as they were, and open
connections stay within reach.

What counts as open is a property of connections: connecting may bring it about,
disconnecting ends it, and other calls do not bring it about. Every connection that is
open at some point of a run is then registered, or was given up when it could not be
closed.

Owns: what failures leave behind, which connections can be open, and the life cycle of
sessions and of connections in memory.

Does not own: what is registered after a run (`Registrations`).
-/

namespace SchemaKeeper

variable {σ : Type}

/-! ## Stray connections -/

namespace Registry

def IsRegistered (registry : Registry σ) (handle : Handle) : Prop :=
  ∃ name, registry.handle? name = some handle

/-- The connection is open without being registered. -/
def IsStray (isOpen : σ → Prop) (registry : Registry σ) (handle : Handle) : Prop :=
  isOpen (registry.state handle) ∧ ¬ registry.IsRegistered handle

namespace IsStray

variable {isOpen : σ → Prop} {registry : Registry σ} {handle : Handle}

/-- A call that opens nothing strays nothing. -/
theorem of_withState {used : Handle} {state : σ}
    (stray : IsStray isOpen (registry.withState used state) handle)
    (opensNone : ¬ isOpen (registry.state used) → ¬ isOpen state) :
    IsStray isOpen registry handle := by
  obtain ⟨opened, unregistered⟩ := stray
  refine ⟨?_, unregistered⟩
  by_cases same : handle = used
  · subst same
    rw [withState_same] at opened
    exact Classical.byContradiction fun closed => opensNone closed opened
  · rwa [withState_other registry state same] at opened

theorem of_opened {later : Registry σ} {name : String} {added : Handle} {state : σ}
    (stray : IsStray isOpen later handle) (free : registry.handle? name = none)
    (states : later.state = (registry.withState added state).state)
    (connections : later.connections = registry.connections ++ [(name, added)]) :
    IsStray isOpen registry handle := by
  obtain ⟨opened, unregistered⟩ := stray
  have handles := handle?_append free connections
  have different : handle ≠ added := by
    rintro rfl
    exact unregistered ⟨name, by rw [handles, if_pos rfl]⟩
  refine ⟨by rwa [states, withState_other registry state different] at opened, ?_⟩
  rintro ⟨other, known⟩
  have otherName : other ≠ name := by
    rintro rfl
    rw [free] at known
    contradiction
  exact unregistered ⟨other, by rw [handles, if_neg otherName, known]⟩

theorem of_forget {name : String} {removed : Handle} {state : σ}
    (stray : IsStray isOpen ((registry.forget name).withState removed state) handle)
    (known : registry.handle? name = some removed) (different : handle ≠ removed) :
    IsStray isOpen registry handle := by
  obtain ⟨opened, unregistered⟩ := stray
  refine ⟨by rwa [withState_other _ state different] at opened, ?_⟩
  rintro ⟨other, registered⟩
  have otherName : other ≠ name := by
    rintro rfl
    rw [known] at registered
    exact different (Option.some.inj registered).symm
  exact unregistered
    ⟨other, ((handle?_forget registry name other).trans (if_neg otherName)).trans registered⟩

end IsStray

end Registry

section Runs

variable [Connection σ]

/-! ## Open connections -/

/-- Connections are opened and closed by the calls made for it: a closed one that fails to
open stays closed, one that was closed is closed, and descriptions and statements open
none. -/
structure Lifecycle (isOpen : σ → Prop) : Prop where
  connectFails : ∀ state cause later,
    Connection.connect state = (.error cause, later) → ¬ isOpen state → ¬ isOpen later
  disconnects : ∀ state later, Connection.disconnect state = (.ok (), later) → ¬ isOpen later
  describes : ∀ table, Preserves (fun state => ¬ isOpen state) (Connection.describe table)
  executes : ∀ statement, Preserves (fun state => ¬ isOpen state) (Connection.execute statement)

namespace Lifecycle

variable {isOpen : σ → Prop}

theorem traced (lifecycle : Lifecycle isOpen) :
    Lifecycle fun traced : Traced σ => isOpen traced.connection where
  connectFails := by
    intro traced cause later failed closed
    obtain ⟨connection, failedInside, rfl⟩ := Traced.passOn_eq_iff.1 failed
    exact lifecycle.connectFails _ _ _ failedInside closed
  disconnects := by
    intro traced later closes
    obtain ⟨connection, closesInside, rfl⟩ := Traced.passOn_eq_iff.1 closes
    exact lifecycle.disconnects _ _ closesInside
  describes table := Traced.passOn_preserves (lifecycle.describes table)
  executes statement :=
    have remembered : Preserves (fun traced : Traced σ => ¬ isOpen traced.connection)
        (Traced.remember statement) := fun _ closed => closed
    remembered.bind fun _ => Traced.passOn_preserves (lifecycle.executes statement)

theorem reconciles (lifecycle : Lifecycle isOpen) (table : Table) :
    Preserves (fun state => ¬ isOpen state) table.reconcile := by
  have described : Preserves (fun state => ¬ isOpen state)
      (Request.access (Connection.describe table.name)) :=
    Request.access_preserves (lifecycle.describes table.name)
  have planned : Preserves (fun state => ¬ isOpen state) table.livePlan :=
    described.bind fun live => Request.checked_preserves (table.planFor live)
  refine planned.bind fun plan => ?_
  cases plan.statement? with
  | none => exact .pure plan
  | some statement =>
      have executed : Preserves (fun state => ¬ isOpen state)
          (Request.access (Connection.execute statement)) :=
        Request.access_preserves (lifecycle.executes statement)
      exact executed.bind fun _ => .pure plan

end Lifecycle

namespace Registry

/-! ## Failures -/

/-- What calls leave behind that fail, are refused or unregister. A registry holds the
states of its connections, so a call that leaves it as it is has opened nothing and passed
no statement on. -/
structure FailsCleanly (registry : Registry σ) : Prop where
  /-- A connection that is not registered leaves the registrations as they were. -/
  connectionFails : ∀ name handle cause later,
    registerConnection name handle registry = (.error cause, later) →
      later.connections = registry.connections ∧ later.models = registry.models
  /-- A model that is not registered leaves the registrations as they were. -/
  modelFails : ∀ name table cause later,
    registerModel name table registry = (.error cause, later) →
      later.connections = registry.connections ∧ later.models = registry.models
  /-- A name that is taken is refused before anything is opened. -/
  nameTaken : ∀ name handle, registry.hasConnection name = true →
    registerConnection name handle registry =
      (.error (.alreadyRegistered (.connection name)), registry)
  /-- A table that has a model on the connection is refused before anything is sent. -/
  modelTaken : ∀ name table, (registry.model? ⟨name, table.name⟩).isSome = true →
    registerModel name table registry =
      (.error (.alreadyRegistered (.model name table.name)), registry)
  /-- A connection that is not registered is refused before anything is sent. -/
  unowned : ∀ name table, registry.hasConnection name = false →
    registerModel name table registry = (.error (.notRegistered (.connection name)), registry)
  /-- A model is refused for no other reasons. -/
  refusesModel : ∀ name table entry later,
    (registerModel name table registry = (.error (.alreadyRegistered entry), later) ∨
      registerModel name table registry = (.error (.notRegistered entry), later)) →
        later = registry
  /-- However it ends, unregistering takes the name and its models away, and nothing else. -/
  unregisters : ∀ name result later, unregisterConnection name registry = (result, later) →
    (∀ other, later.handle? other = if other = name then none else registry.handle? other) ∧
      ∀ key, later.model? key = if key.connection = name then none else registry.model? key

theorem registerConnection_effect {registry later : Registry σ} {name : String}
    {handle : Handle} {cause : RegistryError}
    (run : registerConnection name handle registry = (.error cause, later)) :
    Effect registry (.registerConnection name handle) (.error cause) later :=
  perform_effect (run_bind_error run)

theorem registerModel_effect {registry later : Registry σ} {name : String} {table : Table}
    {cause : RegistryError} (run : registerModel name table registry = (.error cause, later)) :
    Effect registry (.registerModel name table) (.error cause) later :=
  perform_effect (run_bind_error run)

theorem Recorded.failsCleanly {history : List Event} {registry : Registry σ}
    (recorded : Recorded history registry) : FailsCleanly registry where
  connectionFails := by
    intro name handle cause later run
    cases registerConnection_effect run with
    | nameTaken => exact ⟨rfl, rfl⟩
    | connectFailed => exact ⟨rfl, rfl⟩
    | lookedUp question => cases question
  modelFails := by
    intro name table cause later run
    cases registerModel_effect run with
    | modelTaken => exact ⟨rfl, rfl⟩
    | unowned => exact ⟨rfl, rfl⟩
    | reconcileFailed => exact ⟨rfl, rfl⟩
    | lookedUp question => cases question
  nameTaken _ _ known := registerConnection_taken known
  modelTaken _ _ known := registerModel_taken known
  unowned := by
    intro name table absent
    have unknown : registry.handle? name = none := by simpa [hasConnection] using absent
    exact registerModel_unowned (recorded.model?_eq_none unknown) unknown
  refusesModel := by
    rintro name table entry later (run | run)
    · cases registerModel_effect run with
      | modelTaken => rfl
      | lookedUp question => cases question
    · cases registerModel_effect run with
      | unowned => rfl
      | lookedUp question => cases question
  unregisters := by
    intro name result later run
    cases known : registry.handle? name with
    | none =>
        cases (unregisterConnection_absent known).symm.trans run
        exact recorded.forgets_unknown known
    | some handle =>
        rcases disconnects : Connection.disconnect (registry.state handle) with ⟨ended, state⟩
        cases (unregisterConnection_known known disconnects).symm.trans run
        exact ⟨handle?_forget registry name, model?_forget registry name⟩

/-! ## Leaks -/

/-- The action unregisters the connection and fails to close it. -/
def GivesUp (registry : Registry σ) (action : Action) (handle : Handle) : Prop :=
  ∃ name cause, action = .unregisterConnection name ∧ registry.handle? name = some handle ∧
    (unregisterConnection name registry).1 = .error (.request (.connection cause))

/-- A connection that strays after an action has strayed before, or the action has given it
up. -/
theorem stray_after {isOpen : σ → Prop} (lifecycle : Lifecycle isOpen) {history : List Event}
    {registry later : Registry σ} (recorded : Recorded history registry) {action : Action}
    {result : Except RegistryError Answer} (run : perform action registry = (result, later))
    {handle : Handle} (stray : IsStray isOpen later handle) :
    IsStray isOpen registry handle ∨ registry.GivesUp action handle := by
  cases perform_effect run with
  | nameTaken | absent | modelTaken | unowned | lookedUp => exact .inl stray
  | connectFailed free failed =>
      exact .inl (stray.of_withState (lifecycle.connectFails _ _ _ failed))
  | opened free connected => exact .inl (stray.of_opened free rfl rfl)
  | @closed name used state known disconnected =>
      have different : handle ≠ used := by
        rintro rfl
        have opened := stray.1
        rw [withState_same] at opened
        exact lifecycle.disconnects _ _ disconnected opened
      exact .inl (stray.of_forget known different)
  | @abandoned name used cause state known failed =>
      by_cases same : handle = used
      · subst same
        refine .inr ⟨name, cause, rfl, known, ?_⟩
        rw [unregisterConnection_known known failed]
        rfl
      · exact .inl (stray.of_forget known same)
  | @reconcileFailed name table used cause state free known failed =>
      have opensNone := lifecycle.reconciles table (registry.state used)
      rw [failed] at opensNone
      exact .inl (stray.of_withState opensNone)
  | @reconciled name table used plan state free known carriedOut =>
      have opensNone := lifecycle.reconciles table (registry.state used)
      rw [carriedOut] at opensNone
      have withoutModel : IsStray isOpen (registry.withState used state) handle := stray
      exact .inl (withoutModel.of_withState opensNone)
  | allDisconnected connections models others =>
      obtain ⟨opened, unregistered⟩ := stray
      have kept : ¬ registry.IsRegistered handle := by
        rintro ⟨name, known⟩
        exact unregistered ⟨name, by rw [handle?_congr connections, known]⟩
      have unlisted : handle ∉ registry.connections.map (·.2) := by
        intro listed
        obtain ⟨⟨name, _⟩, member, rfl⟩ := List.mem_map.1 listed
        exact kept ⟨name, recorded.mem_connections_iff.1 member⟩
      exact .inl ⟨by rwa [others handle unlisted] at opened, kept⟩

/-! ## Runs -/

theorem performAll_append (front back : List Action) (registry : Registry σ) :
    (performAll (front ++ back) registry).2 =
      (performAll back (performAll front registry).2).2 := by
  induction front generalizing registry with
  | nil => rfl
  | cons action rest inductionHypothesis =>
      exact inductionHypothesis (perform action registry).2

/-- The registry that actions lead to, over connections that nothing was passed to yet. -/
def reached (connections : Handle → σ) (actions : List Action) : Registry (Traced σ) :=
  (performAll actions (start fun handle => Traced.start (connections handle))).2

theorem reached_append (connections : Handle → σ) (actions : List Action) (action : Action) :
    reached connections (actions ++ [action]) =
      (perform action (reached connections actions)).2 :=
  performAll_append actions [action] _

/-- One of the actions unregistered the connection and failed to close it. -/
def GivenUp (connections : Handle → σ) (actions : List Action) (handle : Handle) : Prop :=
  ∃ front action back, actions = front ++ action :: back ∧
    (reached connections front).GivesUp action handle

theorem reached_recorded (connections : Handle → σ) (actions : List Action) :
    ∃ history, Recorded history (reached connections actions) :=
  ⟨_, performAll_recorded (recorded_start _) actions⟩

theorem stray_reached {isOpen : σ → Prop} (lifecycle : Lifecycle isOpen)
    {connections : Handle → σ} (closed : ∀ handle, ¬ isOpen (connections handle))
    (actions : List Action) {handle : Handle}
    (stray : IsStray (fun traced => isOpen traced.connection) (reached connections actions)
      handle) : GivenUp connections actions handle := by
  induction actions using List.reverseRecOn with
  | nil => exact absurd stray.1 (closed handle)
  | append_singleton front action inductionHypothesis =>
      obtain ⟨history, recorded⟩ := reached_recorded connections front
      rw [reached_append] at stray
      rcases stray_after lifecycle.traced recorded rfl stray with earlier | givenUp
      · obtain ⟨before, given, back, rfl, gives⟩ := inductionHypothesis earlier
        exact ⟨before, given, back ++ [action], by simp, gives⟩
      · exact ⟨front, action, [], rfl, givenUp⟩

/-- Whatever was done to connections that were closed at first, failures leave the
registrations as they were, and every open connection is registered or was given up. -/
theorem failures_leak_nothing {isOpen : σ → Prop} (lifecycle : Lifecycle isOpen)
    {connections : Handle → σ} (closed : ∀ handle, ¬ isOpen (connections handle))
    (actions : List Action) :
    FailsCleanly (reached connections actions) ∧
      ∀ handle, isOpen ((reached connections actions).state handle).connection →
        (reached connections actions).IsRegistered handle ∨
          GivenUp connections actions handle := by
  obtain ⟨history, recorded⟩ := reached_recorded connections actions
  refine ⟨recorded.failsCleanly, fun handle opened => ?_⟩
  by_cases registered : (reached connections actions).IsRegistered handle
  · exact .inl registered
  · exact .inr (stray_reached lifecycle closed actions ⟨opened, registered⟩)

end Registry

end Runs

/-! ## Sessions -/

namespace MariaDb.Session

theorem ask_preserves {α : Type} (question : Question σ α) :
    Preserves (fun session => ¬ session.isOpen = true) (ask question) :=
  fun _ closed => closed

theorem requireOpen_preserves :
    Preserves (fun session : Session σ => ¬ session.isOpen = true) requireOpen := by
  rintro ⟨server, _ | version⟩ closed <;> exact closed

variable [Server σ]

theorem lifecycle : Lifecycle fun session : Session σ => session.isOpen = true where
  connectFails := by
    rintro ⟨server, _ | version⟩ cause later failed closed
    · rcases openClosed_cases failed with ⟨_, _, kept⟩ | ⟨_, _, _, _, ⟨⟩, _⟩
      rw [isOpen, kept]
      exact Bool.false_ne_true
    · exact absurd rfl closed
  disconnects := by
    rintro ⟨server, _ | version⟩ later closes
    · cases closes
      exact Bool.false_ne_true
    · cases closes
      exact Bool.false_ne_true
  describes table := requireOpen_preserves.bind fun _ =>
    (ask_preserves (Server.columns table)).bind fun _ =>
      (ask_preserves (Server.foreignKeys table)).bind fun _ _ closed => closed
  executes statement := requireOpen_preserves.bind fun _ => ask_preserves (Server.execute statement)

end MariaDb.Session

/-! ## Connections in memory -/

namespace MemoryConnection

theorem pass_isOpen (call : Connection.Call) (connection : MemoryConnection) :
    (pass call connection).2.isOpen = connection.isOpen := by
  unfold pass
  rw [run_get_bind]
  cases connection.failures.lookup call with
  | some text => rfl
  | none =>
      dsimp only
      split <;> rfl

theorem pass_preserves (call : Connection.Call) :
    Preserves (fun connection => ¬ connection.isOpen = true) (pass call) := by
  intro connection closed
  rwa [pass_isOpen]

theorem lifecycle : Lifecycle fun connection : MemoryConnection => connection.isOpen = true where
  connectFails := by
    intro connection cause later failed
    rcases passes : pass .connect connection with ⟨other | _, passed⟩
    · cases (run_bind_error passes).symm.trans failed
      rw [← pass_isOpen .connect connection, passes]
      exact id
    · cases (run_bind_ok passes).symm.trans failed
  disconnects := by
    intro connection later closes
    rcases passes : pass .disconnect connection with ⟨other | _, passed⟩
    · cases (run_bind_error passes).symm.trans closes
    · cases (run_bind_ok passes).symm.trans closes
      exact Bool.false_ne_true
  describes table := (pass_preserves .describe).bind fun _ _ closed => closed
  executes statement := (pass_preserves .execute).bind fun _ _ closed => closed

end MemoryConnection

namespace Registry

/-- Connections in memory, the first of which cannot be closed when that is first tried. -/
def stock (handle : Handle) : MemoryConnection :=
  if handle = ⟨0⟩ then ({} : MemoryConnection).withFailure .disconnect "reset" else {}

def notes : Table where
  name := "notes"
  fields := [("text", { kind := .string, maxSize := some (.ofInt 8) })]
  accepted := by decide +kernel

/-- A name that is taken, given up and taken again. -/
def outage : List Action := [
  .registerConnection "main" ⟨0⟩,
  .registerModel "main" notes,
  .registerConnection "main" ⟨1⟩,
  .unregisterConnection "main",
  .registerConnection "main" ⟨1⟩]

/-- After the outage the first connection is still open, and it was given up. -/
theorem outage_leaks_nothing :
    (∀ handle, ¬ (stock handle).isOpen = true) ∧ FailsCleanly (reached stock outage) ∧
      (reached stock outage).connections = [("main", ⟨1⟩)] ∧
      ((reached stock outage).state ⟨0⟩).connection.isOpen = true ∧
      GivenUp stock outage ⟨0⟩ := by
  have closed : ∀ handle, ¬ (stock handle).isOpen = true := by
    intro handle
    unfold stock
    split <;> exact Bool.false_ne_true
  have registered : (reached stock outage).connections = [("main", ⟨1⟩)] := by decide +kernel
  have opened : ((reached stock outage).state ⟨0⟩).connection.isOpen = true := by decide +kernel
  obtain ⟨failsCleanly, accounted⟩ :=
    failures_leak_nothing MemoryConnection.lifecycle closed outage
  refine ⟨closed, failsCleanly, registered, opened, ?_⟩
  rcases accounted ⟨0⟩ opened with ⟨name, known⟩ | givenUp
  · rw [handle?, registered, List.lookup_cons] at known
    split at known <;> cases known
  · exact givenUp

end Registry

end SchemaKeeper
