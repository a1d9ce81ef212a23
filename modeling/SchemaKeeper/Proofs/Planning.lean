import SchemaKeeper.Command
import SchemaKeeper.Proofs.Realization
import SchemaKeeper.Proofs.Requests

/-!
Contract: a table that has been built always has a plan, unless a description cannot be compared.

Planning maps the fields of a table to columns once more and passes on what the mapping is
refused for. The check of the table has seen every field mapped, so nothing is refused any more,
and what is left is a described column without a type. Behind the reading of a document, then, no
command finds fault with a declaration.

Owns: why planning fails, and which failures of commands are about declarations.
-/

namespace SchemaKeeper

/-! ## Plans -/

section Plans

variable {declared : Table} {live : List LiveColumn}

/-- Planning fails for the first column without a type, and for nothing else. -/
theorem Table.planFor_eq_error_iff {cause : Error} :
    declared.planFor live = .error cause ↔
      ∃ column, FirstWith (fun other => Text.trim other.type = "") live column ∧
        cause = .untypedColumn declared.name column.name := by
  obtain ⟨columns, mapped⟩ := declared.exists_columns
  have untyped (column : LiveColumn) :
      FirstWith (fun other => Text.trim other.type = "") live column ↔
        live.find? (fun other => Text.trim other.type == "") = some column := by
    simp only [find?_eq_some_iff_firstWith, beq_iff_eq]
  simp only [untyped]
  cases found : live.find? (fun other => Text.trim other.type == "") with
  | none =>
      have typed : ∀ column ∈ live, Text.trim column.type ≠ "" := by
        simpa using List.find?_eq_none.1 found
      by_cases missing : live = []
      · subst missing
        rw [PhysicalTable.planFor_nil mapped]
        simp
      · rw [PhysicalTable.planFor_eq_alter mapped missing typed]
        simp
  | some column =>
      rw [PhysicalTable.planFor_eq_error found]
      simp [eq_comm]

theorem Table.exists_planFor_error_iff :
    (∃ cause, declared.planFor live = .error cause) ↔
      ∃ column ∈ live, Text.trim column.type = "" := by
  rw [← exists_firstWith_iff]
  simp only [planFor_eq_error_iff]
  exact ⟨fun ⟨_, column, first, _⟩ => ⟨column, first⟩,
    fun ⟨column, first⟩ => ⟨_, column, first, rfl⟩⟩

end Plans

/-! ## Failures -/

/-- The fault of a declaration that a request fails for. -/
def RequestError.configuration? : RequestError → Option ConfigurationError
  | .refused (.configuration cause) => some cause
  | _ => none

def RegistryError.configuration? : RegistryError → Option ConfigurationError
  | .request cause => cause.configuration?
  | _ => none

def CommandError.configuration? : CommandError → Option ConfigurationError
  | .refused (.configuration cause) => some cause
  | .registry cause => cause.configuration?
  | _ => none

variable {σ α : Type}

/-! ## Requests -/

/-- The request finds no fault with a declaration. -/
abbrev Request.Declared (request : Request σ α) : Prop :=
  FailsOnly (fun failure => failure.configuration? = none) request

theorem Request.declared_access (call : Access σ α) : (Request.access call).Declared :=
  .translate (fun _ => rfl) fun _ _ _ => rfl

theorem Request.declared_checked {result : Except Error α}
    (faultless : ∀ cause, result ≠ .error (.configuration cause)) :
    (Request.checked result : Request σ α).Declared := by
  intro state failure failed
  cases result with
  | ok value => cases failed
  | error refusal =>
      cases failed
      cases refusal with
      | configuration cause => exact absurd rfl (faultless cause)
      | _ => rfl

section Requests

variable [Connection σ] (table : Table)

theorem Table.livePlan_declared : (table.livePlan : Request σ Plan).Declared := by
  refine (Request.declared_access (Connection.describe table.name)).bind fun live => ?_
  refine Request.declared_checked fun cause failed => ?_
  obtain ⟨column, _, untyped⟩ := Table.planFor_eq_error_iff.1 failed
  cases untyped

theorem Table.reconcile_declared : (table.reconcile : Request σ Plan).Declared := by
  refine table.livePlan_declared.bind fun plan => ?_
  cases plan.statement? with
  | none => exact .pure plan
  | some statement =>
      exact (Request.declared_access (Connection.execute statement)).bind fun _ => .pure plan

end Requests

/-! ## Registries -/

namespace Registry

abbrev Call.Declared (call : Call σ α) : Prop :=
  FailsOnly (fun failure => failure.configuration? = none) call

theorem through_declared {request : Request σ α} (declared : request.Declared) (handle : Handle) :
    (through handle request).Declared :=
  .translate (fun _ => rfl) declared

theorem connection_declared (name : String) : (connection name : Call σ Handle).Declared := by
  unfold connection
  refine .get_bind fun registry => ?_
  split
  · exact .pure _
  · exact .throw rfl

variable [Connection σ]

theorem registerConnection_declared (name : String) (handle : Handle) :
    (registerConnection name handle : Call σ Unit).Declared := by
  unfold registerConnection
  refine .get_bind fun registry => ?_
  have opens := through_declared (Request.declared_access (σ := σ) Connection.connect) handle
  split
  case' isTrue => refine FailsOnly.bind (.throw rfl) fun _ => ?_
  all_goals exact opens.bind fun _ => .modify _

theorem registerModel_declared (name : String) (table : Table) :
    (registerModel name table : Call σ Model).Declared := by
  unfold registerModel
  refine .get_bind fun registry => ?_
  dsimp only
  split
  case' isTrue => refine FailsOnly.bind (.throw rfl) fun _ => ?_
  all_goals
    exact (connection_declared name).bind fun handle =>
      (through_declared table.reconcile_declared handle).bind fun _ =>
        (FailsOnly.modify _).bind fun _ => .pure _

/-- The first failure counts, and each of them is one of the connection. -/
theorem disconnectEach_declared (handles : List Handle) :
    (disconnectEach handles : Call σ Unit).Declared := by
  induction handles with
  | nil => exact .pure ()
  | cons handle rest inductionHypothesis =>
      have closes : (through handle (Request.access Connection.disconnect) : Call σ Unit).Declared :=
        through_declared (Request.declared_access Connection.disconnect) handle
      intro registry failure failed
      have steps : (disconnectEach (handle :: rest) registry).1 =
          (do
            (through handle (Request.access Connection.disconnect) registry).1
            (disconnectEach rest
              (through handle (Request.access Connection.disconnect) registry).2).1) := rfl
      rw [steps] at failed
      rcases bind_eq_error_iff.1 failed with first | ⟨_, _, others⟩
      · exact closes registry failure first
      · exact inductionHypothesis _ failure others

theorem disconnectAll_declared : (disconnectAll : Call σ Unit).Declared := by
  unfold disconnectAll
  exact .get_bind fun registry => disconnectEach_declared (registry.connections.map (·.2))

end Registry

/-! ## Commands -/

namespace Command

abbrev Step.Declared (step : Step σ α) : Prop :=
  FailsOnly (fun failure => failure.configuration? = none) step

theorem through_declared {request : Request σ α} (declared : request.Declared) :
    (through request).Declared :=
  .translate (fun _ => rfl) declared

theorem within_declared {call : Registry.Call σ α} (declared : call.Declared) :
    (within call).Declared :=
  .translate (fun _ => rfl) declared

theorem print_declared (statement : Statement) : (print statement : Step σ Unit).Declared :=
  .modify _

theorem printCreations_declared (tables : List Table) :
    (printCreations tables : Step σ Unit).Declared := by
  refine .forM fun table => ?_
  obtain ⟨creation, created⟩ := table.exists_creation
  rw [created]
  exact print_declared (.create creation)

theorem report_declared {step : Step σ Unit} (declared : step.Declared) (connection : σ) :
    (report step connection).1.failure.bind CommandError.configuration? = none := by
  unfold report
  rcases run : step ⟨connection, []⟩ with ⟨cause | _, progress⟩
  · exact declared _ cause (congrArg Prod.fst run)
  · rfl

variable [Connection σ]

theorem preview_declared (tables : List Table) : (preview tables : Step σ Unit).Declared := by
  have opens := Request.declared_access (σ := σ) Connection.connect
  have closes := Request.declared_access (σ := σ) Connection.disconnect
  refine (through_declared opens).bind fun _ => FailsOnly.bind (.forM fun table => ?_) fun _ =>
    through_declared closes
  refine (through_declared table.livePlan_declared).bind fun plan => ?_
  cases plan.statement? with
  | none => exact .pure ()
  | some statement => exact print_declared statement

theorem reconcileAll_declared (tables : List Table) :
    (reconcileAll tables : Step σ Unit).Declared := by
  have opens := Request.declared_access (σ := σ) Connection.connect
  refine (through_declared opens).bind fun _ => within_declared ?_
  refine (Registry.registerConnection_declared connectionName onlyHandle).bind fun _ => ?_
  refine FailsOnly.bind (.forM fun table => ?_) fun _ => Registry.disconnectAll_declared
  exact (Registry.registerModel_declared connectionName table).bind fun _ => .pure ()

/-- A document that is not loaded is missing, or does not build. -/
theorem load_failure {path : String} {file : Except UnreadableFile String}
    {failure : CommandError} (failed : load path file = .error failure) :
    (∃ cause, failure = .unreadable path cause) ∨
      ∃ cause, failure = .refused (.configuration cause) := by
  cases file with
  | error cause =>
      cases failed
      exact .inl ⟨cause, rfl⟩
  | ok text =>
      change (Document.ofJsonText text >>= Document.build).mapError _ = .error failure at failed
      cases built : (Document.ofJsonText text >>= Document.build) with
      | ok tables =>
          rw [built] at failed
          cases failed
      | error cause =>
          rw [built] at failed
          cases failed
          exact .inr ⟨cause, rfl⟩

/-- No command finds fault with the tables of a document. -/
theorem run_faultless {path : String} {file : Except UnreadableFile String} {tables : List Table}
    (loaded : load path file = .ok tables) (command : Command) (connection : Option σ) :
    (command.run path file connection).1.failure.bind CommandError.configuration? = none := by
  unfold run
  rw [loaded]
  cases command with
  | check => exact report_declared (printCreations_declared tables) ()
  | plan =>
      cases connection with
      | none => rfl
      | some connection => exact report_declared (preview_declared tables) connection
  | sync =>
      cases connection with
      | none => rfl
      | some connection => exact report_declared (reconcileAll_declared tables) connection

/-- What a command finds fault with is what the document does not build for. -/
theorem run_configuration?_iff (command : Command) (path : String)
    (file : Except UnreadableFile String) (connection : Option σ) (cause : ConfigurationError) :
    (command.run path file connection).1.failure.bind CommandError.configuration? = some cause ↔
      load path file = .error (.refused (.configuration cause)) := by
  cases loaded : load path file with
  | ok tables => simp [run_faultless loaded]
  | error failure =>
      unfold run
      rw [loaded]
      rcases load_failure loaded with ⟨unread, rfl⟩ | ⟨fault, rfl⟩
      · simp [CommandError.configuration?]
      · simp [CommandError.configuration?]

end Command

/-- A built table is created without fail, and its plan fails only for a description with a
column that has no type: the first such column is named. A mapping failure never comes up, so a
command reports a fault of a declaration only for a document that does not build. -/
theorem built_tables_plan [Connection σ] (table : Table) (live : List LiveColumn)
    (command : Command) (path : String) (file : Except UnreadableFile String)
    (connection : Option σ) :
    (∃ creation, table.creation = .ok creation) ∧
    ((∃ cause, table.planFor live = .error cause) ↔
      live ≠ [] ∧ ∃ column ∈ live, Text.trim column.type = "") ∧
    (∀ cause, table.planFor live = .error cause ↔
      ∃ column, FirstWith (fun other => Text.trim other.type = "") live column ∧
        cause = .untypedColumn table.name column.name) ∧
    ∀ cause, (command.run path file connection).1.failure.bind CommandError.configuration? =
        some cause ↔
      Command.load path file = .error (.refused (.configuration cause)) := by
  refine ⟨table.exists_creation, ?_, fun cause => Table.planFor_eq_error_iff,
    Command.run_configuration?_iff command path file connection⟩
  rw [Table.exists_planFor_error_iff]
  exact ⟨fun ⟨column, listed, untyped⟩ =>
    ⟨List.ne_nil_of_mem listed, column, listed, untyped⟩, And.right⟩

end SchemaKeeper
