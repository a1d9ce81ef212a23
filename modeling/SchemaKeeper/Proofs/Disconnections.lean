import SchemaKeeper.Connection.Watched
import SchemaKeeper.Proofs.Effects

/-!
Contract: closing all connections of a registry, in whatever order they are visited.

A registry takes over the connections that are registered, so none of them has two names. Then
each visit meets its connection as it was before the first visit: what one visit does or fails
with has no part in another. All visits together are a walk along the order, and only the error
that is passed on depends on which failure the walk meets first.

Owns: what visits leave behind, the outcome of the walk, and registries whose connections have
one name each.
-/

namespace SchemaKeeper.Registry

variable {σ : Type}

/-! ## Registries -/

def handles (registry : Registry σ) : List Handle :=
  registry.connections.map (·.2)

/-- No connection is registered under two names. -/
def Exclusive (registry : Registry σ) : Prop :=
  registry.handles.Nodup

/-- The registry with its connections listed in another order. -/
def listedAs (registry : Registry σ) (order : List (String × Handle)) : Registry σ :=
  { registry with connections := order }

/-! ## Registrations -/

/-- The connection that an action hands over to the registry. -/
def Action.handedOver? : Action → Option Handle
  | .registerConnection _ handle => some handle
  | _ => none

theorem handles_forget (registry : Registry σ) (name : String) :
    (registry.forget name).handles.Sublist registry.handles :=
  List.filter_sublist.map _

section Registrations

variable [Connection σ]

/-- An action registers no other connection than the one that it hands over. -/
theorem handles_perform (action : Action) (registry : Registry σ) :
    (perform action registry).2.handles.Sublist
      (registry.handles ++ action.handedOver?.toList) := by
  rcases run : perform action registry with ⟨result, later⟩
  cases perform_effect run with
  | opened free connected =>
      rw [handles, List.map_append]
      exact List.Sublist.refl _
  | closed known disconnected | abandoned known failed =>
      exact (handles_forget registry _).trans (List.sublist_append_left ..)
  | allDisconnected connections models others =>
      rw [handles, connections]
      exact List.sublist_append_left ..
  | nameTaken | connectFailed | absent | modelTaken | unowned | reconcileFailed | reconciled
  | lookedUp => exact List.sublist_append_left ..

theorem handles_performAll (actions : List Action) (registry : Registry σ) :
    (performAll actions registry).2.handles.Sublist
      (registry.handles ++ actions.filterMap Action.handedOver?) := by
  induction actions generalizing registry with
  | nil => exact List.sublist_append_left ..
  | cons action rest inductionHypothesis =>
      have first := handles_perform action registry
      have later := inductionHypothesis (perform action registry).2
      have handedOver : (action :: rest).filterMap Action.handedOver? =
          action.handedOver?.toList ++ rest.filterMap Action.handedOver? := by
        cases handed : action.handedOver? <;> simp [handed]
      rw [handedOver, ← List.append_assoc]
      exact later.trans (first.append_right _)

/-- A run that hands no connection over twice keeps none under two names. -/
theorem exclusive_performAll {state : Handle → σ} {actions : List Action}
    (handedOverOnce : (actions.filterMap Action.handedOver?).Nodup) :
    (performAll actions (start state)).2.Exclusive :=
  handedOverOnce.sublist (handles_performAll actions (start state))

end Registrations

/-! ## Visits -/

section Visits

variable [Connection σ]

/-- What closing a connection of the registry comes to. -/
def closing (registry : Registry σ) (handle : Handle) : Except RegistryError Unit :=
  (Connection.disconnect (registry.state handle)).1.mapError fun cause =>
    .request (.connection cause)

def closedAt (registry : Registry σ) (handle : Handle) : Registry σ :=
  registry.withState handle (Connection.disconnect (registry.state handle)).2

theorem through_disconnect (handle : Handle) (registry : Registry σ) :
    through handle (Request.access Connection.disconnect) registry =
      (registry.closing handle, registry.closedAt handle) := by
  rcases disconnects : Connection.disconnect (registry.state handle) with ⟨result, state⟩
  rw [through_run (Request.access_run disconnects), closing, closedAt, disconnects]
  cases result <;> rfl

/-- A visit closes its connection and goes on to the others, whatever it comes to. -/
theorem disconnectEach_cons (handle : Handle) (rest : List Handle) (registry : Registry σ) :
    disconnectEach (handle :: rest) registry =
      (registry.closing handle >>= fun _ => (disconnectEach rest (registry.closedAt handle)).1,
        (disconnectEach rest (registry.closedAt handle)).2) := by
  have visited := through_disconnect handle registry
  have first := congrArg Prod.fst visited
  have between := congrArg Prod.snd visited
  dsimp only at first between
  rw [← first, ← between]
  rfl

/-- Closing one connection has no part in closing another. -/
theorem closing_closedAt (registry : Registry σ) {handle other : Handle}
    (different : other ≠ handle) :
    (registry.closedAt handle).closing other = registry.closing other := by
  rw [closing, closedAt, withState_other registry _ different]
  rfl

/-- Each connection that is visited is left as one call leaves it, and the others as they were. -/
theorem state_disconnectEach {handles : List Handle} (distinct : handles.Nodup)
    (registry : Registry σ) (handle : Handle) :
    (disconnectEach handles registry).2.state handle =
      if handle ∈ handles then (Connection.disconnect (registry.state handle)).2
      else registry.state handle := by
  induction handles generalizing registry with
  | nil => rfl
  | cons first rest inductionHypothesis =>
      obtain ⟨firstOnce, restDistinct⟩ := List.nodup_cons.1 distinct
      rw [disconnectEach_cons]
      dsimp only
      rw [inductionHypothesis restDistinct]
      by_cases same : handle = first
      · subst same
        rw [if_neg firstOnce, if_pos List.mem_cons_self, closedAt, withState_same]
      · rw [closedAt, withState_other registry _ same]
        simp [same]

/-- The visits come to what a walk comes to that stops at the first failure. -/
theorem result_disconnectEach {handles : List Handle} (distinct : handles.Nodup)
    (registry : Registry σ) :
    (disconnectEach handles registry).1 = forM handles registry.closing := by
  induction handles generalizing registry with
  | nil => rfl
  | cons first rest inductionHypothesis =>
      obtain ⟨firstOnce, restDistinct⟩ := List.nodup_cons.1 distinct
      have others : forM rest (registry.closedAt first).closing = forM rest registry.closing := by
        refine forM_congr fun other member => closing_closedAt registry ?_
        rintro rfl
        exact firstOnce member
      rw [disconnectEach_cons, List.forM_cons]
      dsimp only
      rw [inductionHypothesis restDistinct, others]

/-- Closing all connections in an order is visiting them in that order. -/
theorem disconnectAll_listedAs (registry : Registry σ) (order : List (String × Handle)) :
    disconnectAll (registry.listedAs order) =
      disconnectEach (order.map (·.2)) (registry.listedAs order) :=
  run_get_bind

end Visits

/-! ## All connections -/

/-- What closing all connections comes to if they are visited in the given order. -/
structure ClosesAll [Connection σ] (registry : Registry (Watched σ))
    (order : List (String × Handle)) (result : Except RegistryError Unit)
    (later : Registry (Watched σ)) : Prop where
  /-- Each registered connection is told once to close, and no other is called. -/
  calls : ∀ handle, (later.state handle).calls =
    (registry.state handle).calls ++ if handle ∈ registry.handles then [.disconnect] else []
  /-- Each registered connection is left as its own call leaves it, and the others stay. -/
  connection : ∀ handle, (later.state handle).connection =
    if handle ∈ registry.handles
      then (Connection.disconnect (registry.state handle).connection).2
      else (registry.state handle).connection
  succeeds_iff : result = .ok () ↔ ∀ handle ∈ registry.handles,
    (Connection.disconnect (registry.state handle).connection).1 = .ok ()
  /-- An error is the one of the first connection visited that fails to close. -/
  fails_iff : ∀ error, result = .error error ↔ ∃ handle cause,
    FirstWith (fun other => (Connection.disconnect (registry.state other).connection).1 ≠ .ok ())
      (order.map (·.2)) handle ∧
    (Connection.disconnect (registry.state handle).connection).1 = .error cause ∧
    error = .request (.connection cause)
  connections : later.connections = order
  models : later.models = registry.models

section All

variable [Connection σ] {registry : Registry (Watched σ)}

theorem closing_eq_ok_iff {handle : Handle} :
    registry.closing handle = .ok () ↔
      (Connection.disconnect (registry.state handle).connection).1 = .ok () :=
  mapError_eq_ok_iff

theorem closing_eq_error_iff {handle : Handle} {error : RegistryError} :
    registry.closing handle = .error error ↔ ∃ cause,
      (Connection.disconnect (registry.state handle).connection).1 = .error cause ∧
        error = .request (.connection cause) := by
  change (Connection.disconnect (registry.state handle).connection).1.mapError _ = _ ↔ _
  cases (Connection.disconnect (registry.state handle).connection).1 <;>
    simp [Except.mapError, eq_comm]

theorem closesAll_disconnectAll (exclusive : registry.Exclusive)
    {order : List (String × Handle)} (visits : order.Perm registry.connections) :
    ClosesAll registry order (disconnectAll (registry.listedAs order)).1
      (disconnectAll (registry.listedAs order)).2 := by
  have sameHandles : (order.map (·.2)).Perm registry.handles := visits.map _
  have distinct : (order.map (·.2)).Nodup := sameHandles.nodup_iff.2 exclusive
  have left := state_disconnectEach distinct (registry.listedAs order)
  have outcome := result_disconnectEach distinct (registry.listedAs order)
  obtain ⟨connections, models, -⟩ :=
    disconnectEach_keeps (order.map (·.2)) (registry.listedAs order)
  rw [disconnectAll_listedAs]
  refine ⟨fun handle => ?_, fun handle => ?_, ?_, fun error => ?_, connections, models⟩
  · rw [left, ← if_congr sameHandles.mem_iff rfl rfl]
    split
    · rfl
    · exact (List.append_nil _).symm
  · rw [left, ← if_congr sameHandles.mem_iff rfl rfl]
    split <;> rfl
  · rw [outcome, forM_eq_ok_iff]
    simp only [sameHandles.mem_iff]
    exact forall₂_congr fun handle _ => closing_eq_ok_iff
  · rw [outcome, forM_eq_error_iff]
    have refuses : (fun other => (registry.listedAs order).closing other ≠ .ok ()) =
        fun other => (Connection.disconnect (registry.state other).connection).1 ≠ .ok () :=
      funext fun _ => propext (not_congr closing_eq_ok_iff)
    rw [refuses]
    simp only [closing_eq_error_iff, exists_and_left]
    rfl

/-- The order in which the connections are visited decides no more than which of the failures
is passed on. A registry takes over the connections that are registered on it, so it keeps
none of them under two names. -/
theorem disconnectAll_any_order (exclusive : registry.Exclusive)
    {firstOrder secondOrder : List (String × Handle)}
    (visitsFirst : firstOrder.Perm registry.connections)
    (visitsSecond : secondOrder.Perm registry.connections) :
    let first := disconnectAll (registry.listedAs firstOrder)
    let second := disconnectAll (registry.listedAs secondOrder)
    ClosesAll registry firstOrder first.1 first.2 ∧
      ClosesAll registry secondOrder second.1 second.2 ∧
      first.2.state = second.2.state ∧ (first.1 = .ok () ↔ second.1 = .ok ()) := by
  have first := closesAll_disconnectAll exclusive visitsFirst
  have second := closesAll_disconnectAll exclusive visitsSecond
  refine ⟨first, second, funext fun handle => ?_, first.succeeds_iff.trans second.succeeds_iff.symm⟩
  have sameCalls := (first.calls handle).trans (second.calls handle).symm
  have sameConnection := (first.connection handle).trans (second.connection handle).symm
  exact Watched.ext sameConnection sameCalls

end All

/-- A connection that fails the next time it is told to close. -/
def failingToClose (text : String) : Watched MemoryConnection :=
  .start (({} : MemoryConnection).withFailure .disconnect text)

/-- Three connections, of which two fail to close. -/
def fleet : Handle → Watched MemoryConnection
  | ⟨0⟩ => failingToClose "primary is busy"
  | ⟨1⟩ => .start {}
  | _ => failingToClose "archive is busy"

def enlistments : List Action :=
  [.registerConnection "primary" ⟨0⟩, .registerConnection "replica" ⟨1⟩,
    .registerConnection "archive" ⟨2⟩]

theorem fleet_any_order :
    let registry := (performAll enlistments (start fleet)).2
    let forwards := disconnectAll (registry.listedAs registry.connections)
    let backwards := disconnectAll (registry.listedAs registry.connections.reverse)
    forwards.1 = .error (.request (.connection (.unexpectedResponse (.other "primary is busy")))) ∧
      backwards.1 =
        .error (.request (.connection (.unexpectedResponse (.other "archive is busy")))) ∧
      ClosesAll registry registry.connections forwards.1 forwards.2 ∧
      ClosesAll registry registry.connections.reverse backwards.1 backwards.2 ∧
      forwards.2.state = backwards.2.state ∧ (forwards.1 = .ok () ↔ backwards.1 = .ok ()) := by
  have exclusive : (performAll enlistments (start fleet)).2.Exclusive :=
    exclusive_performAll (by decide)
  have sameButForErrors := disconnectAll_any_order exclusive (.refl _) (List.reverse_perm _)
  exact ⟨by decide, by decide, sameButForErrors⟩

end SchemaKeeper.Registry
