import SchemaKeeper.Connection.Traced
import SchemaKeeper.MariaDb.Session
import SchemaKeeper.Proofs.Outcomes

/-!
Contract: calls that succeed from the states they are made in.

`Succeeds before call after` says that the call gives a value from every state that
satisfies `before`, and that `after` holds of the value and the state it leaves. It is
passed up from a server to the session with it, to the trace around the session and to
the requests that use the connection.

Owns: the rule of sequence, and the rules of the layers.

Does not own: what any server answers (`Synchronization`).
-/

namespace SchemaKeeper

variable {σ α β ε : Type}

/-! ## Sequences -/

/-- The call gives a value from every state before it. -/
def Succeeds (before : σ → Prop) (call : ExceptT ε (StateM σ) α) (after : α → σ → Prop) : Prop :=
  ∀ state, before state → ∃ value later, call state = (.ok value, later) ∧ after value later

namespace Succeeds

theorem pure {value : α} {after : α → σ → Prop} :
    Succeeds (after value) (pure value : ExceptT ε (StateM σ) α) after :=
  fun state holds => ⟨value, state, rfl, holds⟩

theorem bind {before : σ → Prop} {first : ExceptT ε (StateM σ) α} {between : α → σ → Prop}
    {next : α → ExceptT ε (StateM σ) β} {after : β → σ → Prop}
    (firstSucceeds : Succeeds before first between)
    (restSucceeds : ∀ value, Succeeds (between value) (next value) after) :
    Succeeds before (first >>= next) after := by
  intro state holds
  obtain ⟨value, middle, run, betweenHolds⟩ := firstSucceeds state holds
  rw [run_bind_ok run]
  exact restSucceeds value middle betweenHolds

/-- The value of the call is not used. -/
theorem discard {before after : σ → Prop} {call : ExceptT ε (StateM σ) α}
    (succeeds : Succeeds before call fun _ => after) :
    Succeeds before (do let _ ← call) fun _ => after :=
  succeeds.bind fun _ state holds => ⟨(), state, rfl, holds⟩

end Succeeds

/-! ## Sessions -/

namespace MariaDb

/-- The server answers the question from every state before it. -/
def Answers (before : σ → Prop) (question : Question σ α) (after : α → σ → Prop) : Prop :=
  ∀ state, before state → ∃ value later, question state = (some value, later) ∧ after value later

namespace Session

/-- The session is open, and the server satisfies the condition. -/
def Open (condition : σ → Prop) (session : Session σ) : Prop :=
  session.isOpen = true ∧ condition session.server

variable {before : σ → Prop} {question : Question σ α} {after : α → σ → Prop}

theorem succeeds_ask (answers : Answers before question after) (version : Option Version) :
    Succeeds (fun session => session.version = version ∧ before session.server) (ask question)
      fun value session => session.version = version ∧ after value session.server := by
  rintro ⟨server, _⟩ ⟨rfl, holds⟩
  obtain ⟨value, later, run, afterHolds⟩ := answers server holds
  refine ⟨value, ⟨later, _⟩, ?_, rfl, afterHolds⟩
  change (_, Session.mk (question server).2 _) = _
  rw [run]

theorem succeeds_ask_open (answers : Answers before question after) :
    Succeeds (Open before) (ask question) fun value => Open (after value) := by
  rintro session ⟨opened, holds⟩
  obtain ⟨value, later, run, sameVersion, afterHolds⟩ :=
    succeeds_ask answers session.version session ⟨rfl, holds⟩
  refine ⟨value, later, run, ?_, afterHolds⟩
  rw [isOpen, sameVersion]
  exact opened

theorem succeeds_requireOpen : Succeeds (Open before) requireOpen fun _ => Open before := by
  rintro ⟨server, version⟩ ⟨opened, holds⟩
  obtain ⟨version, rfl⟩ := Option.isSome_iff_exists.1 opened
  exact ⟨version, ⟨server, some version⟩, rfl, rfl, holds⟩

variable [Server σ]

theorem succeeds_execute {statement : Statement} {answer : Nat → σ → Prop}
    (answers : Answers before (Server.execute statement) answer) :
    Succeeds (Open before) (Connection.execute statement) fun count => Open (answer count) :=
  succeeds_requireOpen.bind fun _ => succeeds_ask_open answers

theorem succeeds_connect : Succeeds (Open before) Connection.connect fun _ => Open before := by
  rintro session ⟨opened, holds⟩
  refine ⟨(), session, ?_, opened, holds⟩
  change (if session.isOpen then Pure.pure () else openClosed) session = _
  rw [if_pos opened]
  rfl

theorem succeeds_disconnect :
    Succeeds (Open before) Connection.disconnect fun _ _ => True := by
  rintro session ⟨opened, _⟩
  refine ⟨(), ⟨(Server.logout session.server).2, none⟩, ?_, trivial⟩
  change (if session.isOpen then closeOpen else Pure.pure ()) session = _
  rw [if_pos opened]
  rfl

end Session

end MariaDb

/-! ## Traces -/

namespace Traced

/-- The connection inside satisfies the condition, and these statements were passed on. -/
def Sent (condition : σ → Prop) (statements : List Statement) (traced : Traced σ) : Prop :=
  condition traced.connection ∧ traced.statements = statements

variable {before : σ → Prop} {sent : List Statement}

theorem succeeds_passOn {call : Access σ α} {after : α → σ → Prop}
    (succeeds : Succeeds before call after) :
    Succeeds (Sent before sent) (passOn call) fun value => Sent (after value) sent := by
  rintro ⟨connection, _⟩ ⟨holds, rfl⟩
  obtain ⟨value, later, run, afterHolds⟩ := succeeds connection holds
  refine ⟨value, ⟨later, _⟩, ?_, afterHolds, rfl⟩
  change ((call connection).1, Traced.mk (call connection).2 _) = _
  rw [run]

theorem succeeds_execute [Connection σ] {statement : Statement} {after : Nat → σ → Prop}
    (succeeds : Succeeds before (Connection.execute statement) after) :
    Succeeds (Sent before sent) (Connection.execute statement) fun count =>
      Sent (after count) (sent ++ [statement]) := by
  have remembered : Succeeds (Sent before sent) (remember statement) fun _ =>
      Sent before (sent ++ [statement]) := by
    rintro ⟨connection, _⟩ ⟨holds, rfl⟩
    exact ⟨(), ⟨connection, _⟩, rfl, holds, rfl⟩
  exact remembered.bind fun _ => succeeds_passOn succeeds

end Traced

/-! ## Requests -/

namespace Request

theorem succeeds_checked {result : Except Error α} {value : α} {after : α → σ → Prop}
    (accepted : result = .ok value) :
    Succeeds (after value) (checked result : Request σ α) after := by
  subst accepted
  exact Succeeds.pure

theorem succeeds_access {before : σ → Prop} {call : Access σ α} {after : α → σ → Prop}
    (succeeds : Succeeds before call after) : Succeeds before (access call) after := by
  intro state holds
  obtain ⟨value, later, run, afterHolds⟩ := succeeds state holds
  exact ⟨value, later, access_run run, afterHolds⟩

end Request

end SchemaKeeper
