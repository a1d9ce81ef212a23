import SchemaKeeper.Connection.Traced
import SchemaKeeper.Proofs.Results

/-!
Contract: what is known of a request from the checks and calls that it is made of.

A request over a traced connection passes statements on one by one. Which ones they
can be, whether the request can be refused at all, and whether it can be refused once
a statement is on its way, is settled for checks and calls and carries over to
sequences of them.

Owns: the three properties and their rules.

Does not own: the requests on a table (`Refusals`, `Restrictions`).
-/

namespace SchemaKeeper.Request

variable {σ α β : Type}

/-! ## Properties -/

/-- The request passes on no statement but allowed ones. -/
def Sends (allowed : Statement → Prop) (request : Request (Traced σ) α) : Prop :=
  ∀ traced, ∃ sent, (request traced).2.statements = traced.statements ++ sent ∧
    ∀ statement ∈ sent, allowed statement

/-- The request fails for reasons of the connection only. -/
def NeverRefuses (request : Request σ α) : Prop :=
  ∀ state cause, (request state).1 ≠ .error (.refused cause)

/-- A request that is refused has not passed on any statement. -/
def RefusesFirst (request : Request (Traced σ) α) : Prop :=
  ∀ traced cause, (request traced).1 = .error (.refused cause) →
    (request traced).2.statements = traced.statements

/-! ## Statements -/

namespace Sends

variable {allowed : Statement → Prop}

theorem of_unchanged {request : Request (Traced σ) α}
    (unchanged : ∀ traced, (request traced).2.statements = traced.statements) :
    Sends allowed request := by
  intro traced
  refine ⟨[], ?_, by simp⟩
  rw [unchanged, List.append_nil]

theorem pure (value : α) : Sends allowed (pure value : Request (Traced σ) α) :=
  of_unchanged fun _ => rfl

theorem throw (cause : RequestError) :
    Sends allowed (MonadExcept.throw cause : Request (Traced σ) α) :=
  of_unchanged fun _ => rfl

theorem checked (result : Except Error α) :
    Sends allowed (Request.checked result : Request (Traced σ) α) :=
  of_unchanged fun _ => rfl

/-- Calls that carry no statement go straight to the connection inside. -/
theorem passOn (call : Access σ α) : Sends allowed (access (Traced.passOn call)) :=
  of_unchanged fun _ => rfl

theorem bind {first : Request (Traced σ) α} {next : α → Request (Traced σ) β}
    (firstSends : Sends allowed first) (restSends : ∀ value, Sends allowed (next value)) :
    Sends allowed (first >>= next) := by
  intro traced
  obtain ⟨sent, grown, permitted⟩ := firstSends traced
  rcases run : first traced with ⟨cause | value, later⟩
  · rw [run] at grown
    rw [run_bind_error run]
    exact ⟨sent, grown, permitted⟩
  · obtain ⟨more, grownAgain, morePermitted⟩ := restSends value later
    rw [run] at grown
    rw [run_bind_ok run, grownAgain, grown, List.append_assoc]
    exact ⟨sent ++ more, rfl, List.forall_mem_append.2 ⟨permitted, morePermitted⟩⟩

theorem mono {request : Request (Traced σ) α} {other : Statement → Prop}
    (sends : Sends allowed request) (implies : ∀ statement, allowed statement → other statement) :
    Sends other request := by
  intro traced
  obtain ⟨sent, grown, permitted⟩ := sends traced
  exact ⟨sent, grown, fun statement member => implies statement (permitted statement member)⟩

theorem answer {request : Request (Traced σ) α} (sends : Sends allowed request) (give : α → β) :
    Sends allowed (do return give (← request)) :=
  sends.bind fun value => .pure (give value)

/-- What follows a check may rely on it. -/
theorem checked_bind {result : Except Error α} {next : α → Request (Traced σ) β}
    (restSends : ∀ value, result = .ok value → Sends allowed (next value)) :
    Sends allowed (Request.checked result >>= next) := by
  cases result with
  | error cause => exact of_unchanged fun _ => rfl
  | ok value => exact restSends value rfl

variable [Connection σ]

theorem execute {statement : Statement} (permitted : allowed statement) :
    Sends allowed (access (Connection.execute statement) : Request (Traced σ) Nat) :=
  fun _ => ⟨[statement], rfl, by simpa using permitted⟩

theorem query {statement : Statement} (permitted : allowed statement) :
    Sends allowed (access (Connection.query statement) : Request (Traced σ) (List Record)) :=
  fun _ => ⟨[statement], rfl, by simpa using permitted⟩

end Sends

/-! ## Refusals -/

namespace NeverRefuses

theorem iff_failsOnly {request : Request σ α} :
    NeverRefuses request ↔ FailsOnly (fun failure => ∀ cause, failure ≠ .refused cause) request := by
  constructor
  · intro never state failure failed cause refused
    subst refused
    exact never state cause failed
  · exact fun fails state cause refused => fails state _ refused cause rfl

theorem pure (value : α) : NeverRefuses (pure value : Request σ α) :=
  iff_failsOnly.2 (.pure value)

theorem throw (cause : ConnectionError) :
    NeverRefuses (MonadExcept.throw (.connection cause) : Request σ α) :=
  iff_failsOnly.2 (.throw nofun)

theorem access (call : Access σ α) : NeverRefuses (Request.access call) :=
  iff_failsOnly.2 (.translate (fun _ => rfl) fun _ _ _ => nofun)

theorem checked {result : Except Error α} (accepted : ∃ value, result = .ok value) :
    NeverRefuses (Request.checked result : Request σ α) := by
  obtain ⟨value, rfl⟩ := accepted
  exact NeverRefuses.pure value

theorem bind {first : Request σ α} {next : α → Request σ β} (firstNever : NeverRefuses first)
    (restNever : ∀ value, NeverRefuses (next value)) : NeverRefuses (first >>= next) :=
  iff_failsOnly.2 ((iff_failsOnly.1 firstNever).bind fun value => iff_failsOnly.1 (restNever value))

/-- What follows a check only sees what the check gives. -/
theorem checked_bind {result : Except Error α} {next : α → Request σ β} {value : α}
    (accepted : result = .ok value) (rest : NeverRefuses (next value)) :
    NeverRefuses (Request.checked result >>= next) := by
  subst accepted
  exact rest

end NeverRefuses

namespace RefusesFirst

theorem of_neverRefuses {request : Request (Traced σ) α} (never : NeverRefuses request) :
    RefusesFirst request :=
  fun traced cause refused => absurd refused (never traced cause)

theorem checked (result : Except Error α) :
    RefusesFirst (Request.checked result : Request (Traced σ) α) :=
  fun _ _ _ => rfl

/-- Refusals may come as long as nothing was sent. -/
theorem silent_bind {first : Request (Traced σ) α} {next : α → Request (Traced σ) β}
    (silent : Sends (fun _ => False) first) (rest : ∀ value, RefusesFirst (next value)) :
    RefusesFirst (first >>= next) := by
  intro traced cause refused
  obtain ⟨sent, grown, none⟩ := silent traced
  rw [List.eq_nil_iff_forall_not_mem.2 none, List.append_nil] at grown
  rcases run : first traced with ⟨failure | value, later⟩
  · rw [run] at grown
    rw [run_bind_error run]
    exact grown
  · rw [run] at grown
    rw [run_bind_ok run] at refused ⊢
    exact (rest value later cause refused).trans grown

/-- Once refusals are no longer possible, anything may be sent. -/
theorem bind_never {first : Request (Traced σ) α} {next : α → Request (Traced σ) β}
    (refusesFirst : RefusesFirst first) (never : ∀ value, NeverRefuses (next value)) :
    RefusesFirst (first >>= next) := by
  intro traced cause refused
  rcases run : first traced with ⟨failure | value, later⟩
  · have unsent := refusesFirst traced cause
    rw [run] at unsent
    rw [run_bind_error run] at refused ⊢
    exact unsent (congrArg _ (Except.error.inj refused))
  · rw [run_bind_ok run] at refused
    exact absurd refused (never value later cause)

theorem answer {request : Request (Traced σ) α} (refusesFirst : RefusesFirst request)
    (give : α → β) : RefusesFirst (do return give (← request)) :=
  refusesFirst.bind_never fun value => .pure (give value)

/-- What follows a check may rely on it. -/
theorem checked_bind {result : Except Error α} {next : α → Request (Traced σ) β}
    (rest : ∀ value, result = .ok value → RefusesFirst (next value)) :
    RefusesFirst (Request.checked result >>= next) := by
  intro traced cause refused
  cases result with
  | error failure => rfl
  | ok value => exact rest value rfl traced cause refused

end RefusesFirst

end SchemaKeeper.Request
