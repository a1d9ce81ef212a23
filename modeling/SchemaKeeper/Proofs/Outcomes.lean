import SchemaKeeper.Connection.Traced
import SchemaKeeper.MariaDb.Session
import SchemaKeeper.Proofs.Results
import SchemaKeeper.Table.Reconciliation

/-!
Contract: what a call has done when it is over.

A call through a layer succeeds exactly if the call inside does, and leaves the layer's
own part as the layer says. From the success of a whole call follows what each layer
below was asked and answered.

Owns: outcomes of traced calls, sessions and reconciliations, and the conditions that
they preserve.

Does not own: calls that are known to succeed (`Success`).
-/

namespace SchemaKeeper

variable {σ α : Type}

/-! ## Traces -/

namespace Traced

variable {traced later : Traced σ} {call : Access σ α}

theorem passOn_eq_iff {result : Except ConnectionError α} :
    passOn call traced = (result, later) ↔
      ∃ connection, call traced.connection = (result, connection) ∧
        later = ⟨connection, traced.statements⟩ := by
  rcases run : call traced.connection with ⟨given, connection⟩
  have passed : passOn call traced = (given, ⟨connection, traced.statements⟩) := by
    rw [passOn, run]
  rw [passed]
  constructor
  · rintro ⟨⟩
    exact ⟨connection, rfl, rfl⟩
  · rintro ⟨_, ⟨⟩, rfl⟩
    rfl

theorem passOn_preserves {condition : σ → Prop} (preserves : Preserves condition call) :
    Preserves (fun traced => condition traced.connection) (passOn call) :=
  fun traced holds => preserves traced.connection holds

theorem passOn_keepsStatements (sent : List Statement) :
    Preserves (fun traced => traced.statements = sent) (passOn call) :=
  fun _ same => same

theorem execute_eq_iff [Connection σ] {statement : Statement}
    {result : Except ConnectionError Nat} :
    Connection.execute statement traced = (result, later) ↔
      ∃ connection, Connection.execute statement traced.connection = (result, connection) ∧
        later = ⟨connection, traced.statements ++ [statement]⟩ := by
  change passOn (Connection.execute statement)
    ⟨traced.connection, traced.statements ++ [statement]⟩ = (result, later) ↔ _
  exact passOn_eq_iff

end Traced

/-! ## Sessions -/

namespace MariaDb

section Descriptions

variable [Server σ]

/-- The server's answers about a table, as a description. -/
def describe (table : String) : Question σ (List LiveColumn) := do
  let reports ← Server.columns table
  let foreignKeys ← Server.foreignKeys table
  return reports.map fun report => report.liveColumn foreignKeys

end Descriptions

namespace Session

variable {session later : Session σ}

theorem ask_eq_ok_iff {question : Question σ α} {value : α} :
    ask question session = (.ok value, later) ↔
      ∃ server, question session.server = (some value, server) ∧
        later = ⟨server, session.version⟩ := by
  unfold ask
  rcases question session.server with ⟨_ | given, server⟩
  · constructor
    · rintro ⟨⟩
    · rintro ⟨_, ⟨⟩, _⟩
  · constructor
    · rintro ⟨⟩
      exact ⟨server, rfl, rfl⟩
    · rintro ⟨_, ⟨⟩, rfl⟩
      rfl

theorem ask_version {question : Question σ α} {result : Except ConnectionError α}
    (asked : ask question session = (result, later)) : later.version = session.version := by
  cases asked
  rfl

section Questions

variable {β : Type} {question : Question σ α} {next : α → Question σ β} {server after : σ}

theorem run_question_some {value : α} (run : question server = (some value, after)) :
    (question >>= next) server = next value after := by
  simp only [bind, OptionT.bind, OptionT.mk, StateT.bind]
  rw [run]

theorem run_question_none (run : question server = (none, after)) :
    (question >>= next) server = (none, after) := by
  simp only [bind, OptionT.bind, OptionT.mk, StateT.bind]
  rw [run]
  rfl

variable (question next) in
/-- Two questions in a row are asked one after the other. -/
theorem ask_bind :
    ask (question >>= next) = (do ask (next (← ask question)) : Access (Session σ) β) := by
  funext session
  rcases run : question session.server with ⟨_ | value, server⟩
  · have asked : ask question session = (.error .failed, ⟨server, session.version⟩) := by
      rw [ask, run]
    rw [run_bind_error asked, ask, run_question_none run]
  · have asked : ask question session = (.ok value, ⟨server, session.version⟩) := by
      rw [ask, run]
    rw [run_bind_ok asked, ask, run_question_some run]
    rfl

end Questions

theorem requireOpen_eq_ok_iff {version : Version} :
    requireOpen session = (.ok version, later) ↔
      session.version = some version ∧ later = session := by
  rcases session with ⟨server, _ | known⟩
  · constructor
    · rintro ⟨⟩
    · rintro ⟨⟨⟩, _⟩
  · constructor
    · rintro ⟨⟩
      exact ⟨rfl, rfl⟩
    · rintro ⟨⟨⟩, rfl⟩
      rfl

theorem requireOpen_bind_eq_ok_iff {next : Access (Session σ) α} {value : α} :
    (requireOpen >>= fun _ => next) session = (.ok value, later) ↔
      session.isOpen = true ∧ next session = (.ok value, later) := by
  rw [run_bind_eq_ok_iff, isOpen, Option.isSome_iff_exists]
  simp only [requireOpen_eq_ok_iff]
  constructor
  · rintro ⟨version, _, ⟨known, rfl⟩, succeeded⟩
    exact ⟨⟨version, known⟩, succeeded⟩
  · rintro ⟨⟨version, known⟩, succeeded⟩
    exact ⟨version, session, ⟨known, rfl⟩, succeeded⟩

variable [Server σ]

theorem describe_eq_ok_iff {table : String} {live : List LiveColumn} :
    Connection.describe table session = (.ok live, later) ↔ session.isOpen = true ∧
      ∃ server, describe table session.server = (some live, server) ∧
        later = ⟨server, session.version⟩ := by
  rw [← ask_eq_ok_iff, ← requireOpen_bind_eq_ok_iff, describe, ask_bind]
  simp only [ask_bind]
  rfl

theorem execute_eq_ok_iff {statement : Statement} {count : Nat} :
    Connection.execute statement session = (.ok count, later) ↔ session.isOpen = true ∧
      ∃ server, Server.execute statement session.server = (some count, server) ∧
        later = ⟨server, session.version⟩ := by
  rw [← ask_eq_ok_iff, ← requireOpen_bind_eq_ok_iff]
  rfl

/-- Opening a session gives it the version that the server reports, or changes no version. -/
theorem openClosed_cases {result : Except ConnectionError Unit}
    (opens : openClosed session = (result, later)) :
    (∃ cause, result = .error cause ∧ later.version = session.version) ∨
      ∃ entered report version server, result = .ok () ∧
        Server.login session.server = (some (), entered) ∧
        Server.version entered = (some report, server) ∧
        Version.ofReport? report = some version ∧ later = ⟨server, some version⟩ := by
  unfold openClosed at opens
  rcases logsIn : ask Server.login session with ⟨cause | _, entered⟩
  · cases (run_bind_error logsIn).symm.trans opens
    exact .inl ⟨cause, rfl, ask_version logsIn⟩
  rw [run_bind_ok logsIn] at opens
  rcases reports : ask Server.version entered with ⟨cause | report, answered⟩
  · cases (run_bind_error reports).symm.trans opens
    exact .inl ⟨cause, rfl, (ask_version reports).trans (ask_version logsIn)⟩
  rw [run_bind_ok reports] at opens
  cases read : Version.ofReport? report with
  | none =>
      rw [read] at opens
      cases opens
      exact .inl ⟨_, rfl, (ask_version reports).trans (ask_version logsIn)⟩
  | some version =>
      rw [read] at opens
      cases opens
      obtain ⟨admitted, entrance, rfl⟩ := ask_eq_ok_iff.1 logsIn
      obtain ⟨server, reported, rfl⟩ := ask_eq_ok_iff.1 reports
      exact .inr ⟨admitted, report, version, server, rfl, entrance, reported, read, rfl⟩

theorem isOpen_of_connect (connected : Connection.connect session = (.ok (), later)) :
    later.isOpen = true := by
  rcases session with ⟨server, _ | version⟩
  · rcases openClosed_cases connected with ⟨_, ⟨⟩, _⟩ | ⟨_, _, _, _, _, _, _, _, rfl⟩
    rfl
  · cases connected
    rfl

end Session

end MariaDb

/-! ## Requests -/

namespace Request

variable {state later : σ}

theorem checked_eq_ok_iff {result : Except Error α} {value : α} :
    checked result state = (.ok value, later) ↔ result = .ok value ∧ later = state := by
  change (result.mapError RequestError.refused, state) = _ ↔ _
  rw [Prod.mk.injEq, mapError_eq_ok_iff, eq_comm (a := state)]

theorem access_run {call : Access σ α} {result : Except ConnectionError α}
    (run : call state = (result, later)) :
    access call state = (result.mapError .connection, later) := by
  change ((call state).1.mapError RequestError.connection, (call state).2) = _
  rw [run]

theorem access_eq_ok_iff {call : Access σ α} {value : α} :
    access call state = (.ok value, later) ↔ call state = (.ok value, later) := by
  change ((call state).1.mapError RequestError.connection, (call state).2) = _ ↔ _
  rw [Prod.mk.injEq, mapError_eq_ok_iff, Prod.ext_iff]

theorem access_preserves {condition : σ → Prop} {call : Access σ α}
    (preserves : Preserves condition call) : Preserves condition (access call) :=
  preserves

theorem checked_preserves {condition : σ → Prop} (result : Except Error α) :
    Preserves condition (checked result : Request σ α) :=
  fun _ holds => holds

end Request

/-! ## Reconciliation -/

namespace Table

variable [Connection σ] {table : Table} {plan : Plan} {state later : σ}

theorem livePlan_eq_ok_iff :
    table.livePlan state = (.ok plan, later) ↔
      ∃ live, Connection.describe table.name state = (.ok live, later) ∧
        table.planFor live = .ok plan := by
  unfold livePlan
  rw [run_bind_eq_ok_iff]
  simp only [Request.access_eq_ok_iff, Request.checked_eq_ok_iff]
  constructor
  · rintro ⟨live, _, described, planned, rfl⟩
    exact ⟨live, described, planned⟩
  · rintro ⟨live, described, planned⟩
    exact ⟨live, later, described, planned, rfl⟩

/-- A successful reconciliation has carried out the plan that it gives. -/
theorem livePlan_of_reconcile (reconciled : table.reconcile state = (.ok plan, later)) :
    ∃ planned, table.livePlan state = (.ok plan, planned) ∧
      (plan.statement? = none ∧ later = planned ∨
        ∃ statement count, plan.statement? = some statement ∧
          Connection.execute statement planned = (.ok count, later)) := by
  unfold reconcile at reconciled
  obtain ⟨found, planned, livePlanned, carriedOut⟩ := run_bind_eq_ok_iff.1 reconciled
  cases written : found.statement? with
  | none =>
      rw [written] at carriedOut
      cases carriedOut
      exact ⟨_, livePlanned, .inl ⟨written, rfl⟩⟩
  | some statement =>
      rw [written] at carriedOut
      obtain ⟨count, _, executed, finished⟩ := run_bind_eq_ok_iff.1 carriedOut
      cases finished
      exact ⟨planned, livePlanned, .inr ⟨statement, count, written,
        Request.access_eq_ok_iff.1 executed⟩⟩

end Table

end SchemaKeeper
