import SchemaKeeper.Proofs.Effects
import SchemaKeeper.Proofs.Outcomes
import SchemaKeeper.Proofs.Realization
import SchemaKeeper.Proofs.Synchronization

/-!
Contract: `plan` prints the statements that `sync` executes.

`plan` describes every table before anything is changed, and `sync` describes each table
after the ones in front of it were changed. Both come to the same statements on a server
that keeps tables apart: what is said of a table then depends on where the server started
and not on what was done to other tables. A table that is listed twice is no exception,
because `sync` does not succeed on it.

Owns: servers that keep tables apart, and what the two commands do from the same start.

Does not own: plans (`Realization`), and the registry that `sync` goes through
(`Synchronization`).
-/

namespace SchemaKeeper

variable {σ : Type}

/-! ## Servers -/

namespace MariaDb

variable [Server σ]

/-- What the server would say of a table now; nothing if it would fail. -/
def described (server : σ) (table : String) : Option (List LiveColumn) :=
  (describe table server).1

variable (σ) in
/-- What is said of a table does not depend on other tables being described, or being
created or altered. -/
structure KeepsApart : Prop where
  describes : ∀ (server later : σ) table live, describe table server = (some live, later) →
    ∀ other, other ≠ table → described later other = described server other
  executes : ∀ (server later : σ) (plan : Plan) statement count, plan.statement? = some statement →
    Server.execute statement server = (some count, later) →
      ∀ other, other ≠ plan.table → described later other = described server other

/-- Of all tables but these, the server says what was noted. -/
def AgreesBeyond (names : List String) (noted : String → Option (List LiveColumn)) (server : σ) :
    Prop :=
  ∀ other, other ∉ names → described server other = noted other

theorem AgreesBeyond.append {names : List String} {noted : String → Option (List LiveColumn)}
    {server later : σ} (agrees : AgreesBeyond names noted server) {name : String}
    (unchanged : ∀ other, other ≠ name → described later other = described server other) :
    AgreesBeyond (names ++ [name]) noted later := by
  intro other absent
  rw [List.mem_append, List.mem_singleton, not_or] at absent
  rw [unchanged other absent.2, agrees other absent.1]

end MariaDb

/-! ## Plans -/

/-- The plans of tables for the descriptions that were noted, one by one. -/
def Plans (noted : String → Option (List LiveColumn)) (tables : List Table) (plans : List Plan) :
    Prop :=
  List.Forall₂ (fun table plan => ∃ live, noted table.name = some live ∧
    table.planFor live = .ok plan) tables plans

def statementsOf (plans : List Plan) : List Statement :=
  plans.flatMap fun plan => plan.statement?.toList

theorem Plans.unique {noted : String → Option (List LiveColumn)} {tables : List Table}
    {first second : List Plan} (firstPlans : Plans noted tables first)
    (secondPlans : Plans noted tables second) : first = second := by
  refine List.right_unique_forall₂' ?_ firstPlans secondPlans
  rintro table plan other ⟨live, reported, planned⟩ ⟨_, again, otherPlanned⟩
  cases reported.symm.trans again
  cases planned.symm.trans otherPlanned
  rfl

theorem Table.planFor_table {table : Table} {live : List LiveColumn} {plan : Plan}
    (planned : table.planFor live = .ok plan) : plan.table = table.name := by
  obtain ⟨columns, mapped⟩ := table.exists_columns
  rcases PhysicalTable.planFor_cases mapped planned with ⟨_, rfl⟩ | ⟨_, _, rfl⟩ <;> rfl

/-! ## Reconciliation -/

section Reconciliation

open MariaDb Traced

variable [Server σ] {noted : String → Option (List LiveColumn)} {names : List String}
  {sent : List Statement} {table : Table} {plan : Plan} {traced later : Traced (Session σ)}

/-- Until a table has its turn, it is planned for what was noted of it. -/
theorem Table.livePlan_noted (apart : KeepsApart σ)
    (ready : Sent (Session.Open (AgreesBeyond names noted)) sent traced)
    (pending : table.name ∉ names) (planned : table.livePlan traced = (.ok plan, later)) :
    (∃ live, noted table.name = some live ∧ table.planFor live = .ok plan) ∧
      Sent (Session.Open (AgreesBeyond (names ++ [table.name]) noted)) sent later := by
  obtain ⟨⟨opened, agrees⟩, rfl⟩ := ready
  obtain ⟨live, describes, accepted⟩ := Table.livePlan_eq_ok_iff.1 planned
  obtain ⟨session, describesInside, rfl⟩ := passOn_eq_iff.1 describes
  obtain ⟨_, server, answered, rfl⟩ := Session.describe_eq_ok_iff.1 describesInside
  have reported : noted table.name = some live := by
    rw [← agrees table.name pending, described, answered]
  exact ⟨⟨live, reported, accepted⟩,
    ⟨opened, agrees.append (apart.describes _ _ _ _ answered)⟩, rfl⟩

/-- A table that is reconciled receives the statement of its plan. -/
theorem Table.reconcile_noted (apart : KeepsApart σ)
    (ready : Sent (Session.Open (AgreesBeyond names noted)) sent traced)
    (pending : table.name ∉ names) (reconciled : table.reconcile traced = (.ok plan, later)) :
    (∃ live, noted table.name = some live ∧ table.planFor live = .ok plan) ∧
      Sent (Session.Open (AgreesBeyond (names ++ [table.name]) noted))
        (sent ++ plan.statement?.toList) later := by
  obtain ⟨planned, livePlanned, carriedOut⟩ := Table.livePlan_of_reconcile reconciled
  obtain ⟨found, ⟨opened, agrees⟩, rfl⟩ := Table.livePlan_noted apart ready pending livePlanned
  refine ⟨found, ?_⟩
  rcases carriedOut with ⟨upToDate, rfl⟩ | ⟨statement, count, written, executes⟩
  · rw [upToDate]
    exact ⟨⟨opened, agrees⟩, (List.append_nil _).symm⟩
  · obtain ⟨session, executesInside, rfl⟩ := execute_eq_iff.1 executes
    obtain ⟨_, server, answered, rfl⟩ := Session.execute_eq_ok_iff.1 executesInside
    obtain ⟨live, _, accepted⟩ := found
    rw [written]
    refine ⟨⟨opened, fun other absent => ?_⟩, rfl⟩
    have different : other ≠ plan.table := by
      rintro rfl
      rw [Table.planFor_table accepted] at absent
      exact absent (by simp)
    rw [apart.executes _ _ _ _ _ written answered other different, agrees other absent]

end Reconciliation

/-! ## Steps -/

namespace Command

open MariaDb Traced Registry

section Steps

variable {α : Type} {progress later : Progress σ}

theorem through_eq_ok_iff {request : Request σ α} {value : α} :
    through request progress = (.ok value, later) ↔
      ∃ connection, request progress.connection = (.ok value, connection) ∧
        later = ⟨connection, progress.printed⟩ := by
  unfold through
  rcases request progress.connection with ⟨cause | given, connection⟩
  · constructor
    · rintro ⟨⟩
    · rintro ⟨_, ⟨⟩, _⟩
  · constructor
    · rintro ⟨⟩
      exact ⟨connection, rfl, rfl⟩
    · rintro ⟨_, ⟨⟩, rfl⟩
      rfl

theorem through_preserves {condition : σ → Prop} {request : Request σ α}
    (preserves : Preserves condition request) :
    Preserves (fun progress => condition progress.connection) (through request) :=
  fun progress holds => preserves progress.connection holds

theorem within_eq_ok {call : Registry.Call σ α} {value : α}
    (succeeded : within call progress = (.ok value, later)) :
    ∃ registry, call (Registry.start fun _ => progress.connection) = (.ok value, registry) ∧
      later = ⟨registry.state onlyHandle, progress.printed⟩ := by
  unfold within at succeeded
  rcases run : call (Registry.start fun _ => progress.connection) with ⟨cause | given, registry⟩
  · rw [run] at succeeded
    cases succeeded
  · rw [run] at succeeded
    cases succeeded
    exact ⟨registry, rfl, rfl⟩

theorem reportOver_connection (step : Step σ Unit) (connection : σ) :
    (reportOver step (some connection)).2 = some (step ⟨connection, []⟩).2.connection :=
  rfl

/-- A step whose report has no failure has succeeded. -/
theorem exists_run_of_reportOver {step : Step σ Unit} {connection : σ}
    (succeeded : (reportOver step (some connection)).1.failure = none) :
    ∃ progress, step ⟨connection, []⟩ = (.ok (), progress) ∧
      reportOver step (some connection) =
        (⟨progress.printed, none⟩, some progress.connection) := by
  dsimp only [reportOver, report] at succeeded ⊢
  rcases run : step ⟨connection, []⟩ with ⟨cause | _, progress⟩
  · rw [run] at succeeded
    cases succeeded
  · exact ⟨progress, rfl, rfl⟩

variable [Connection σ]

/-- What a preview does about one table. -/
def previewTable (table : Table) : Step σ Unit := do
  match (← through table.livePlan).statement? with
  | some statement => print statement
  | none => pure ()

theorem preview_eq (tables : List Table) : (preview tables : Step σ Unit) = (do
    through (Request.access Connection.connect)
    tables.forM previewTable
    through (Request.access Connection.disconnect)) :=
  rfl

theorem previewTable_eq_ok {table : Table}
    (succeeded : previewTable table progress = (.ok (), later)) :
    ∃ plan connection, table.livePlan progress.connection = (.ok plan, connection) ∧
      later = ⟨connection, progress.printed ++ plan.statement?.toList.map line⟩ := by
  unfold previewTable at succeeded
  obtain ⟨plan, between, planned, printed⟩ := run_bind_eq_ok_iff.1 succeeded
  obtain ⟨connection, livePlanned, rfl⟩ := through_eq_ok_iff.1 planned
  refine ⟨plan, connection, livePlanned, ?_⟩
  cases written : plan.statement? with
  | none =>
      rw [written] at printed
      cases printed
      simp
  | some statement =>
      rw [written] at printed
      cases printed
      rfl

end Steps

/-! ## Previews -/

section Previews

/-- A preview passes no statement on. -/
theorem preview_sendsNone [Connection σ] (tables : List Table) (sent : List Statement) :
    Preserves (fun progress : Progress (Traced σ) => progress.connection.statements = sent)
      (preview tables) := by
  have passesOn : ∀ {α : Type} (call : Access σ α),
      Preserves (fun traced : Traced σ => traced.statements = sent)
        (Request.access (passOn call)) :=
    fun call => Request.access_preserves (passOn_keepsStatements sent)
  have planned : ∀ table : Table,
      Preserves (fun traced : Traced σ => traced.statements = sent) table.livePlan :=
    fun table => (passesOn (Connection.describe table.name)).bind fun live =>
      Request.checked_preserves (table.planFor live)
  have previewed : ∀ table : Table,
      Preserves (fun progress : Progress (Traced σ) => progress.connection.statements = sent)
        (previewTable table) := by
    intro table
    refine (through_preserves (planned table)).bind fun plan => ?_
    cases plan.statement? with
    | none => exact .pure ()
    | some statement => exact fun _ same => same
  rw [preview_eq]
  exact (through_preserves (passesOn Connection.connect)).bind fun _ =>
    (Preserves.forM previewed).bind fun _ =>
      through_preserves (passesOn Connection.disconnect)

variable [Server σ] {noted : String → Option (List LiveColumn)} {names : List String}
  {progress later : Progress (Traced (Session σ))}

theorem previewTables_noted (apart : KeepsApart σ) {tables : List Table}
    (ready : Sent (Session.Open (AgreesBeyond names noted)) [] progress.connection)
    (distinct : (names ++ tables.map (·.name)).Nodup)
    (succeeded : tables.forM previewTable progress = (.ok (), later)) :
    ∃ plans, Plans noted tables plans ∧
      later.printed = progress.printed ++ (statementsOf plans).map line := by
  induction tables generalizing names progress with
  | nil =>
      cases succeeded
      exact ⟨[], .nil, (List.append_nil _).symm⟩
  | cons table rest inductionHypothesis =>
      rw [List.map_cons] at distinct
      have pending : table.name ∉ names := fun known =>
        (List.nodup_cons.1 (List.nodup_middle.1 distinct)).1 (List.mem_append_left _ known)
      rw [List.append_cons] at distinct
      obtain ⟨_, _, first, others⟩ := run_bind_eq_ok_iff.1 succeeded
      obtain ⟨plan, connection, planned, rfl⟩ := previewTable_eq_ok first
      obtain ⟨found, stillReady⟩ := Table.livePlan_noted apart ready pending planned
      obtain ⟨plans, otherPlans, printed⟩ := inductionHypothesis stillReady distinct others
      refine ⟨plan :: plans, .cons found otherPlans, ?_⟩
      rw [printed, List.append_assoc, ← List.map_append]
      rfl

end Previews

/-! ## Synchronization -/

section Synchronization

variable [Server σ] {noted : String → Option (List LiveColumn)} {names : List String}
  {sent : List Statement} {registry later : Registry (Traced (Session σ))}

theorem registerModel_noted (apart : KeepsApart σ) {table : Table} {model : Model}
    (offers : Offers (Sent (Session.Open (AgreesBeyond names noted)) sent) names registry)
    (registered : registerModel connectionName table registry = (.ok model, later)) :
    table.name ∉ names ∧ ∃ plan,
      (∃ live, noted table.name = some live ∧ table.planFor live = .ok plan) ∧
      Offers (Sent (Session.Open (AgreesBeyond (names ++ [table.name]) noted))
        (sent ++ plan.statement?.toList)) (names ++ [table.name]) later := by
  obtain ⟨handle, plan, state, free, known, reconciled, rfl⟩ := registerModel_ok registered
  have pending : table.name ∉ names := by
    intro taken
    have found := (offers.models table.name).2 taken
    rw [free] at found
    contradiction
  obtain rfl : handle = onlyHandle := Option.some.inj (known.symm.trans offers.handle?_eq)
  obtain ⟨found, after⟩ := Table.reconcile_noted apart offers.condition pending reconciled
  exact ⟨pending, plan, found,
    (offers.withState after).withModel table ⟨onlyHandle, table⟩⟩

theorem registerEach_noted (apart : KeepsApart σ) {tables : List Table} (distinct : names.Nodup)
    (offers : Offers (Sent (Session.Open (AgreesBeyond names noted)) sent) names registry)
    (succeeded : registerEach tables registry = (.ok (), later)) :
    (names ++ tables.map (·.name)).Nodup ∧ ∃ plans, Plans noted tables plans ∧
      Offers (Sent (Session.Open (AgreesBeyond (names ++ tables.map (·.name)) noted))
        (sent ++ statementsOf plans)) (names ++ tables.map (·.name)) later := by
  unfold registerEach at succeeded
  induction tables generalizing names sent registry with
  | nil =>
      cases succeeded
      refine ⟨by simpa using distinct, [], .nil, ?_⟩
      simpa [statementsOf] using offers
  | cons table rest inductionHypothesis =>
      obtain ⟨_, between, first, others⟩ := run_bind_eq_ok_iff.1 succeeded
      obtain ⟨model, _, registered, finished⟩ := run_bind_eq_ok_iff.1 first
      cases finished
      obtain ⟨pending, plan, found, offersBetween⟩ := registerModel_noted apart offers registered
      have extended : (names ++ [table.name]).Nodup := by
        simpa [List.nodup_append] using ⟨distinct, fun name listed => by
          rintro rfl
          exact pending listed⟩
      obtain ⟨allDistinct, plans, otherPlans, offersLater⟩ :=
        inductionHypothesis extended offersBetween others
      rw [List.map_cons, List.append_cons]
      refine ⟨allDistinct, plan :: plans, .cons found otherPlans, ?_⟩
      rwa [List.append_assoc sent] at offersLater

end Synchronization

/-! ## Commands -/

section Runs

variable {path : String} {file : Except UnreadableFile String}

def connectionTo (server : σ) : Option (Traced (Session σ)) :=
  some (Traced.start (Session.closed server))

theorem plan_executesNone [Connection σ] (connection : σ) :
    (run .plan path file (some (Traced.start connection))).2.map executed = some [] := by
  unfold run
  cases load path file with
  | error cause => rfl
  | ok tables =>
      have sentNone := preview_sendsNone tables [] ⟨Traced.start connection, []⟩ rfl
      dsimp only
      rw [reportOver_connection, Option.map_some, executed, sentNone]
      rfl

variable [Server σ] {tables : List Table} {session : Session σ}
  {connected : Traced (Session σ)} {later : Progress (Traced (Session σ))}

theorem connect_noted
    (connects : Request.access Connection.connect (Traced.start session) = (.ok (), connected)) :
    Sent (Session.Open (AgreesBeyond [] (described connected.connection.server))) []
      connected := by
  obtain ⟨opened, connectsInside, rfl⟩ :=
    passOn_eq_iff.1 (Request.access_eq_ok_iff.1 connects)
  exact ⟨⟨Session.isOpen_of_connect connectsInside, fun _ _ => rfl⟩, rfl⟩

theorem preview_noted (apart : KeepsApart σ) (distinct : (tables.map (·.name)).Nodup)
    (connects : Request.access Connection.connect (Traced.start session) = (.ok (), connected))
    (succeeded : preview tables ⟨Traced.start session, []⟩ = (.ok (), later)) :
    ∃ plans, Plans (described connected.connection.server) tables plans ∧
      later.printed = (statementsOf plans).map line := by
  rw [preview_eq] at succeeded
  obtain ⟨_, _, opened, rest⟩ := run_bind_eq_ok_iff.1 succeeded
  obtain ⟨_, connectsAgain, rfl⟩ := through_eq_ok_iff.1 opened
  cases connects.symm.trans connectsAgain
  obtain ⟨_, between, previewed, closed⟩ := run_bind_eq_ok_iff.1 rest
  obtain ⟨plans, found, printed⟩ :=
    previewTables_noted apart (connect_noted connects) distinct previewed
  obtain ⟨_, _, rfl⟩ := through_eq_ok_iff.1 closed
  exact ⟨plans, found, printed⟩

theorem reconcileAll_noted (apart : KeepsApart σ)
    (succeeded : reconcileAll tables ⟨Traced.start session, []⟩ = (.ok (), later)) :
    (tables.map (·.name)).Nodup ∧ ∃ connected plans,
      Request.access Connection.connect (Traced.start session) = (.ok (), connected) ∧
      Plans (described connected.connection.server) tables plans ∧
      later.connection.statements = statementsOf plans := by
  unfold reconcileAll at succeeded
  obtain ⟨_, _, opened, rest⟩ := run_bind_eq_ok_iff.1 succeeded
  obtain ⟨connected, connects, rfl⟩ := through_eq_ok_iff.1 opened
  obtain ⟨registry, registered, rfl⟩ := within_eq_ok rest
  obtain ⟨_, offered, connectionRegistered, offers⟩ :=
    succeeds_registerConnection_open _ _ (Registry.start fun _ => connected)
      ⟨rfl, rfl, connect_noted connects⟩
  unfold registerAll at registered
  rw [run_bind_ok connectionRegistered] at registered
  obtain ⟨_, between, registersEach, disconnected⟩ := run_bind_eq_ok_iff.1 registered
  obtain ⟨distinct, plans, found, offersBetween⟩ :=
    registerEach_noted apart List.nodup_nil offers registersEach
  obtain ⟨_, last, disconnects, sent⟩ :=
    succeeds_disconnectAll (succeeds_passOn Session.succeeds_disconnect) between offersBetween
  cases disconnects.symm.trans disconnected
  exact ⟨distinct, connected, plans, connects, found, sent.2⟩

/-- On a server that keeps tables apart, `plan` executes nothing, and if `plan` and `sync`
both succeed from the same start, `sync` executes exactly what `plan` prints. -/
theorem sync_executes_planned (apart : KeepsApart σ) (path : String)
    (file : Except UnreadableFile String) (server : σ) :
    (run .plan path file (connectionTo server)).2.map executed = some [] ∧
      ((run .plan path file (connectionTo server)).1.failure = none →
        (run .sync path file (connectionTo server)).1.failure = none →
          (run .sync path file (connectionTo server)).2.map executed =
            some (run .plan path file (connectionTo server)).1.printed) := by
  refine ⟨plan_executesNone (Session.closed server), fun planSucceeds syncSucceeds => ?_⟩
  unfold connectionTo at planSucceeds syncSucceeds ⊢
  cases loaded : load path file with
  | error cause =>
      have failed : run .plan path file (some (Traced.start (Session.closed server))) =
          (⟨[], some cause⟩, some (Traced.start (Session.closed server))) := by
        rw [run, loaded]
      rw [failed] at planSucceeds
      cases planSucceeds
  | ok tables =>
      have planRuns : run .plan path file (some (Traced.start (Session.closed server))) =
          reportOver (preview tables) (some (Traced.start (Session.closed server))) := by
        rw [run, loaded]
      have syncRuns : run .sync path file (some (Traced.start (Session.closed server))) =
          reportOver (reconcileAll tables) (some (Traced.start (Session.closed server))) := by
        rw [run, loaded]
      rw [planRuns] at planSucceeds ⊢
      rw [syncRuns] at syncSucceeds ⊢
      obtain ⟨planned, planRun, planReport⟩ := exists_run_of_reportOver planSucceeds
      obtain ⟨synced, syncRun, syncReport⟩ := exists_run_of_reportOver syncSucceeds
      obtain ⟨distinct, connected, plans, connects, found, sent⟩ :=
        reconcileAll_noted apart syncRun
      obtain ⟨printedPlans, printedFound, printed⟩ :=
        preview_noted apart distinct connects planRun
      cases found.unique printedFound
      rw [planReport, syncReport]
      change some (synced.connection.statements.map line) = some planned.printed
      rw [sent, printed]

end Runs

end Command

/-! ## A catalogue of tables -/

namespace MariaDb.Catalogue

theorem described_withTable (catalogue : Catalogue) (table : PhysicalTable) {name other : String}
    (different : other ≠ name) :
    described (catalogue.withTable name table) other = described catalogue other := by
  have same : (catalogue.withTable name table).table other = catalogue.table other :=
    if_neg different
  change some (List.map _ (((catalogue.withTable name table).table other).describe.map _)) = _
  rw [same]
  rfl

theorem described_carryOut {plan : Plan} {catalogue later : Catalogue} {count : Nat}
    (carriedOut : carryOut plan catalogue = (some count, later)) {other : String}
    (different : other ≠ plan.table) : described later other = described catalogue other := by
  cases applied : (catalogue.table plan.table).apply plan with
  | error refusal =>
      rw [carryOut, applied] at carriedOut
      cases carriedOut
  | ok table =>
      cases (carryOut_run applied).symm.trans carriedOut
      exact described_withTable catalogue table different

theorem keepsApart : KeepsApart Catalogue where
  describes := by
    rintro catalogue later table live ⟨⟩ other _
    rfl
  executes := by
    intro catalogue later plan statement count written carriedOut other different
    cases plan with
    | create creation =>
        cases written
        exact described_carryOut carriedOut different
    | alter table operations =>
        cases operations with
        | nil => contradiction
        | cons operation rest =>
            cases written
            exact described_carryOut carriedOut different

end MariaDb.Catalogue

namespace Command

open MariaDb

/-- A catalogue with an earlier form of a table, which has one column more. -/
def earlierShop : Catalogue :=
  Catalogue.empty.withTable "users" {
    columns := [⟨"active", "tinyint(1)", true, none, false, none, ""⟩,
      ⟨"nick", "varchar(20)", true, none, false, none, ""⟩]
    primary := []
    unique := []
    foreign := [] }

/-- What it takes to bring the catalogue in line with the document. -/
def shopLines : List String := [
  "ALTER TABLE `users` DROP COLUMN `nick`, " ++
    "CHANGE COLUMN `active` `active` BOOLEAN NOT NULL, ADD UNIQUE INDEX `active` (`active`);",
  "CREATE TABLE `orders` (`active` BOOLEAN NOT NULL, " ++
    "CONSTRAINT `active` FOREIGN KEY (`active`) REFERENCES `users` (`active`));"]

/-- One table is altered and one is created, as announced. -/
theorem shop_executes_planned :
    (run .plan "schema.json" shop (connectionTo earlierShop)).1 = ⟨shopLines, none⟩ ∧
      (run .plan "schema.json" shop (connectionTo earlierShop)).2.map executed = some [] ∧
      (run .sync "schema.json" shop (connectionTo earlierShop)).2.map executed =
        some shopLines := by
  have planned : (run .plan "schema.json" shop (connectionTo earlierShop)).1 =
      ⟨shopLines, none⟩ := by decide +kernel
  have synchronized :
      (run .sync "schema.json" shop (connectionTo earlierShop)).1.failure = none := by
    decide +kernel
  obtain ⟨none, executes⟩ :=
    sync_executes_planned Catalogue.keepsApart "schema.json" shop earlierShop
  refine ⟨planned, none, ?_⟩
  rw [executes (by rw [planned]) synchronized, planned]

end Command

end SchemaKeeper
