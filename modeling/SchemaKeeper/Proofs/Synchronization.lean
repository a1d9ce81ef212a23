import SchemaKeeper.Command
import SchemaKeeper.MariaDb.Catalogue
import SchemaKeeper.Proofs.Declarations
import SchemaKeeper.Proofs.Effects
import SchemaKeeper.Proofs.Success

/-!
Contract: a database without tables receives the statements that `check` prints.

The two commands come to their statements on different ways: `check` from the
declarations alone, `sync` through a session, a description of each table, a plan and
the registry. On a server that has no table of a name until it is told to create it,
each plan is a creation. The registry takes each name once, so `sync` stops at the first
table whose name is repeated, where `check` goes on.

Owns: servers that keep tables, and what the two commands do for the same document.
-/

namespace SchemaKeeper

variable {σ : Type}

/-! ## Servers -/

namespace MariaDb

/-- The server answers every question and keeps the tables that it creates. Here
`holds names` says that it has exactly the tables of these names: it reports columns for
these and no others. -/
structure KeepsTables [Server σ] (holds : List String → σ → Prop) : Prop where
  login : ∀ names, Answers (holds names) Server.login fun _ => holds names
  version : ∀ names, Answers (holds names) Server.version fun report later =>
    (Version.ofReport? report).isSome = true ∧ holds names later
  columns : ∀ names table, Answers (holds names) (Server.columns table) fun reports later =>
    (reports = [] ↔ table ∉ names) ∧ holds names later
  foreignKeys : ∀ names table,
    Answers (holds names) (Server.foreignKeys table) fun _ => holds names
  create : ∀ names (table : Table) creation, table.creation = .ok creation →
    table.name ∉ names → Answers (holds names) (Server.execute (.create creation)) fun _ =>
      holds (names ++ [table.name])

namespace KeepsTables

variable [Server σ] {holds : List String → σ → Prop} {names : List String}

theorem succeeds_connect (keeps : KeepsTables holds) :
    Succeeds (fun session => session.version = none ∧ holds names session.server)
      Connection.connect fun _ => Session.Open (holds names) := by
  have opens : Succeeds (fun session : Session σ => session.version = none ∧
      holds names session.server) Session.openClosed fun _ => Session.Open (holds names) := by
    refine (Session.succeeds_ask (keeps.login names) none).bind fun _ => ?_
    refine (Session.succeeds_ask (keeps.version names) none).bind fun report => ?_
    rintro ⟨server, _⟩ ⟨rfl, known, held⟩
    obtain ⟨version, read⟩ := Option.isSome_iff_exists.1 known
    rw [read]
    exact ⟨(), ⟨server, some version⟩, rfl, rfl, held⟩
  rintro ⟨server, _⟩ ⟨rfl, held⟩
  exact opens ⟨server, none⟩ ⟨rfl, held⟩

theorem succeeds_describe (keeps : KeepsTables holds) {table : String} (missing : table ∉ names) :
    Succeeds (Session.Open (holds names)) (Connection.describe table) fun live =>
      Session.Open fun server => live = [] ∧ holds names server := by
  refine Session.succeeds_requireOpen.bind fun _ => ?_
  refine (Session.succeeds_ask_open (keeps.columns names table)).bind fun reports => ?_
  rintro session ⟨opened, reported, held⟩
  obtain rfl := reported.2 missing
  obtain ⟨_, later, run, stillOpen, stillHeld⟩ :=
    Session.succeeds_ask_open (keeps.foreignKeys names table) session ⟨opened, held⟩
  rw [run_bind_ok run]
  exact ⟨[], later, rfl, stillOpen, rfl, stillHeld⟩

end KeepsTables

end MariaDb

/-! ## Creations -/

namespace Table

theorem planFor_missing (table : Table) {creation : Creation}
    (created : table.creation = .ok creation) : table.planFor [] = .ok (.create creation) := by
  unfold planFor
  rw [created]
  rfl

variable [MariaDb.Server σ] {holds : List String → σ → Prop} {names : List String}

open MariaDb Traced

/-- A table that is missing is created by one statement. -/
theorem succeeds_reconcile (keeps : KeepsTables holds) {table : Table} {creation : Creation}
    (created : table.creation = .ok creation) (missing : table.name ∉ names)
    (sent : List Statement) :
    Succeeds (Sent (Session.Open (holds names)) sent) table.reconcile fun _ =>
      Sent (Session.Open (holds (names ++ [table.name]))) (sent ++ [.create creation]) := by
  have described : Succeeds (Sent (Session.Open (holds names)) sent)
      (Request.access (Connection.describe table.name)) fun live =>
        Sent (Session.Open fun server => live = [] ∧ holds names server) sent :=
    Request.succeeds_access (succeeds_passOn (keeps.succeeds_describe missing))
  have planned : Succeeds (Sent (Session.Open (holds names)) sent) table.livePlan fun plan =>
      Sent (Session.Open fun server => plan = .create creation ∧ holds names server) sent := by
    refine described.bind fun live => ?_
    rintro traced ⟨⟨opened, rfl, held⟩, same⟩
    have accepted := table.planFor_missing created
    exact Request.succeeds_checked accepted traced ⟨⟨opened, rfl, held⟩, same⟩
  refine planned.bind fun plan => ?_
  rintro traced ⟨⟨opened, rfl, held⟩, same⟩
  have executes := keeps.create names table creation created missing
  have executed : Succeeds (Sent (Session.Open (holds names)) sent)
      (Request.access (Connection.execute (.create creation))) fun _ =>
        Sent (Session.Open (holds (names ++ [table.name]))) (sent ++ [.create creation]) :=
    Request.succeeds_access (Traced.succeeds_execute (Session.succeeds_execute executes))
  obtain ⟨_, later, run, ready⟩ := executed traced ⟨⟨opened, held⟩, same⟩
  refine ⟨.create creation, later, ?_, ready⟩
  dsimp only [Plan.statement?]
  rw [run_bind_ok run]
  rfl

end Table

/-! ## Registration -/

namespace Registry

open Command

/-- The registry has one connection, which satisfies the condition, and exactly the
models of the tables of these names on it. -/
structure Offers (condition : σ → Prop) (names : List String) (registry : Registry σ) : Prop where
  connections : registry.connections = [(connectionName, onlyHandle)]
  models : ∀ name, (registry.model? ⟨connectionName, name⟩).isSome = true ↔ name ∈ names
  condition : condition (registry.state onlyHandle)

variable {before after : σ → Prop} {names : List String}

theorem Offers.handle?_eq {registry : Registry σ} (offers : Offers before names registry) :
    registry.handle? connectionName = some onlyHandle := by
  rw [handle?, offers.connections]
  rfl

/-- Requests over the only connection leave the registrations as they are. -/
theorem Offers.withState {registry : Registry σ} (offers : Offers before names registry)
    {state : σ} (holds : after state) :
    Offers after names (registry.withState onlyHandle state) where
  connections := offers.connections
  models := offers.models
  condition := by rwa [withState_same]

theorem Offers.withModel {registry : Registry σ} (offers : Offers before names registry)
    (table : Table) (model : Model) :
    Offers before (names ++ [table.name]) { registry with
      models := registry.models ++ [(⟨connectionName, table.name⟩, model)] } where
  connections := offers.connections
  models name := by
    have known := offers.models name
    rw [model?] at known ⊢
    rw [List.lookup_append, Option.isSome_or, Bool.or_eq_true, known, List.mem_append,
      List.mem_singleton]
    by_cases same : name = table.name
    · simp [same]
    · have different : ((⟨connectionName, name⟩ : ModelKey) ==
          ⟨connectionName, table.name⟩) = false := by
        simpa using same
      simp [List.lookup_cons, different, same]
  condition := offers.condition

variable [Connection σ]

theorem succeeds_registerConnection
    (opens : Succeeds before Connection.connect fun _ => after) :
    Succeeds (fun registry : Registry σ => registry.connections = [] ∧ registry.models = [] ∧
        before (registry.state onlyHandle))
      (registerConnection connectionName onlyHandle) fun _ => Offers after [] := by
  rintro registry ⟨noConnections, noModels, holds⟩
  obtain ⟨_, later, connects, afterHolds⟩ := opens _ holds
  have free : registry.handle? connectionName = none := by
    rw [handle?, noConnections]
    rfl
  exact ⟨(), _, registerConnection_opened free connects, {
    connections := by simp [noConnections]
    models := fun name => by simp [model?, withState, noModels]
    condition := by simpa [withState] using afterHolds }⟩

theorem succeeds_registerModel {table : Table} (missing : table.name ∉ names)
    (reconciles : Succeeds before table.reconcile fun _ => after) :
    Succeeds (Offers before names) (registerModel connectionName table) fun _ =>
      Offers after (names ++ [table.name]) := by
  intro registry offers
  obtain ⟨plan, later, reconciled, afterHolds⟩ := reconciles _ offers.condition
  have free : registry.model? ⟨connectionName, table.name⟩ = none := by
    rw [← Option.not_isSome_iff_eq_none, offers.models]
    exact missing
  exact ⟨⟨onlyHandle, table⟩, _, registerModel_reconciled free offers.handle?_eq reconciled,
    (offers.withState afterHolds).withModel table ⟨onlyHandle, table⟩⟩

theorem succeeds_disconnectAll {between : σ → Prop}
    (closes : Succeeds between Connection.disconnect fun _ => after) :
    Succeeds (Offers between names) disconnectAll fun _ registry =>
      after (registry.state onlyHandle) := by
  intro registry offers
  obtain ⟨_, later, disconnects, afterHolds⟩ := closes _ offers.condition
  refine ⟨(), registry.withState onlyHandle later, ?_, (offers.withState afterHolds).condition⟩
  unfold disconnectAll
  rw [run_get_bind, offers.connections, List.map_singleton, disconnectEach]
  dsimp only
  rw [through_run (Request.access_run disconnects)]
  rfl

end Registry

/-! ## Documents -/

namespace Command

open MariaDb Traced Registry

variable [Server σ] {holds : List String → σ → Prop} {names : List String}
  {sent : List Statement} {tables : List Table} {creations : List Creation}

/-- The creations of tables, one by one. -/
def Creates (tables : List Table) (creations : List Creation) : Prop :=
  List.Forall₂ (fun table creation => table.creation = .ok creation) tables creations

theorem exists_creates (tables : List Table) : ∃ creations, Creates tables creations := by
  induction tables with
  | nil => exact ⟨[], .nil⟩
  | cons table rest inductionHypothesis =>
      obtain ⟨creation, created⟩ := table.exists_creation
      obtain ⟨creations, others⟩ := inductionHypothesis
      exact ⟨creation :: creations, .cons created others⟩

/-- The line that `check` prints for a statement. -/
def line (statement : Statement) : String :=
  statement.text ++ ";"

theorem printCreations_run {τ : Type} (creates : Creates tables creations)
    (progress : Progress τ) :
    printCreations tables progress = (.ok (), { progress with
      printed := progress.printed ++ creations.map (line ∘ Statement.create) }) := by
  induction creates generalizing progress with
  | nil =>
      rw [List.map_nil, List.append_nil]
      rfl
  | @cons table creation tables creations created _ inductionHypothesis =>
      have first : (do print (.create (← checked table.creation)) : Step τ Unit) progress =
          (.ok (), { progress with printed := progress.printed ++ [line (.create creation)] }) := by
        rw [created]
        rfl
      unfold printCreations at inductionHypothesis ⊢
      rw [List.forM, run_bind_ok first, inductionHypothesis]
      simp

theorem registerEach_append {τ : Type} [Connection τ] (tables rest : List Table) :
    (registerEach (tables ++ rest) : Registry.Call τ Unit) =
      (registerEach tables >>= fun _ => registerEach rest) :=
  List.forM_append

theorem succeeds_registerEach (keeps : KeepsTables holds) (creates : Creates tables creations)
    (distinct : (names ++ tables.map (·.name)).Nodup) :
    Succeeds (Offers (Sent (Session.Open (holds names)) sent) names) (registerEach tables)
      fun _ => Offers (Sent (Session.Open (holds (names ++ tables.map (·.name))))
        (sent ++ creations.map .create)) (names ++ tables.map (·.name)) := by
  unfold registerEach
  -- The names and statements so far grow with each table, so the list is taken from its head.
  induction creates generalizing names sent with
  | nil => exact fun registry offers => ⟨(), registry, rfl, by simpa using offers⟩
  | @cons table creation tables creations created _ inductionHypothesis =>
      rw [List.map_cons] at distinct
      have missing : table.name ∉ names := fun known =>
        (List.nodup_cons.1 (List.nodup_middle.1 distinct)).1 (List.mem_append_left _ known)
      rw [List.append_cons] at distinct
      have registered := succeeds_registerModel missing
        (Table.succeeds_reconcile keeps created missing sent)
      rw [List.forM, List.map_cons, List.map_cons, List.append_cons, List.append_cons sent]
      exact registered.discard.bind fun _ => inductionHypothesis distinct

/-! ## Commands -/

/-- The session of a traced connection is open on a server without tables, and nothing
was passed on. -/
def Ready (holds : List String → σ → Prop) : Traced (Session σ) → Prop :=
  Sent (Session.Open (holds [])) []

/-- The session is open by the time that it is registered, and stays as it is. -/
theorem succeeds_registerConnection_open (condition : σ → Prop) (sent : List Statement) :
    Succeeds (fun registry : Registry (Traced (Session σ)) => registry.connections = [] ∧
        registry.models = [] ∧ Sent (Session.Open condition) sent (registry.state onlyHandle))
      (registerConnection connectionName onlyHandle) fun _ =>
        Offers (Sent (Session.Open condition) sent) [] :=
  succeeds_registerConnection (succeeds_passOn Session.succeeds_connect)

theorem registerAll_distinct (keeps : KeepsTables holds) (creates : Creates tables creations)
    (distinct : (tables.map (·.name)).Nodup) {traced : Traced (Session σ)}
    (ready : Ready holds traced) :
    ∃ registry, registerAll tables (Registry.start fun _ => traced) = (.ok (), registry) ∧
      (registry.state onlyHandle).statements = creations.map .create := by
  have registers := (succeeds_registerConnection_open (holds []) []).bind fun _ =>
    (succeeds_registerEach keeps creates distinct).bind fun _ =>
      succeeds_disconnectAll (succeeds_passOn Session.succeeds_disconnect)
  obtain ⟨_, registry, run, _, statements⟩ :=
    registers (Registry.start fun _ => traced) ⟨rfl, rfl, ready⟩
  exact ⟨registry, run, statements⟩

theorem registerAll_repeated (keeps : KeepsTables holds) (creates : Creates tables creations)
    (distinct : (tables.map (·.name)).Nodup) {table : Table}
    (repeated : table.name ∈ tables.map (·.name)) (rest : List Table)
    {traced : Traced (Session σ)} (ready : Ready holds traced) :
    ∃ registry, registerAll (tables ++ table :: rest) (Registry.start fun _ => traced) =
        (.error (.alreadyRegistered (.model connectionName table.name)), registry) ∧
      (registry.state onlyHandle).statements = creations.map .create := by
  obtain ⟨_, connected, connectedRun, offersNone⟩ :=
    succeeds_registerConnection_open (holds []) [] (Registry.start fun _ => traced)
      ⟨rfl, rfl, ready⟩
  obtain ⟨_, registered, registeredRun, offers⟩ :=
    succeeds_registerEach keeps creates distinct connected offersNone
  have refused : registerEach (table :: rest) registered =
      (.error (.alreadyRegistered (.model connectionName table.name)), registered) :=
    run_bind_error (run_bind_error (registerModel_taken
      ((offers.models table.name).2 repeated)))
  refine ⟨registered, ?_, offers.condition.2⟩
  unfold registerAll
  rw [run_bind_ok connectedRun, registerEach_append]
  apply run_bind_error
  rw [run_bind_ok registeredRun, refused]

theorem reconcileAll_run {τ : Type} [Connection τ] {connection opened : τ}
    (opens : Request.access Connection.connect connection = (.ok (), opened))
    {result : Except RegistryError Unit} {registry : Registry τ}
    (registers : registerAll tables (Registry.start fun _ => opened) = (result, registry)) :
    reconcileAll tables ⟨connection, []⟩ =
      (result.mapError .registry, ⟨registry.state onlyHandle, []⟩) := by
  have connected : through (Request.access Connection.connect) ⟨connection, []⟩ =
      (.ok (), Progress.mk opened []) := by
    rw [through, opens]
    rfl
  unfold reconcileAll
  rw [run_bind_ok connected, within, registers]

def executed (traced : Traced σ) : List String :=
  traced.statements.map line

section Documents

variable {server : σ} {path : String} {file : Except UnreadableFile String}

theorem run_check (loaded : load path file = .ok tables) (creates : Creates tables creations)
    (unused : Option (Traced (Session σ))) :
    run .check path file unused = (⟨creations.map (line ∘ Statement.create), none⟩, unused) := by
  unfold run
  rw [loaded]
  dsimp only
  rw [report, printCreations_run creates]
  rfl

/-- What `sync` does is what registering comes to once the session is open. -/
theorem run_sync (keeps : KeepsTables holds) (empty : holds [] server)
    (loaded : load path file = .ok tables) {result : Except RegistryError Unit}
    (registers : ∀ traced, Ready holds traced → ∃ registry,
      registerAll tables (Registry.start fun _ => traced) = (result, registry) ∧
        (registry.state onlyHandle).statements = creations.map .create) :
    ∃ after, run .sync path file (some (Traced.start (Session.closed server))) =
        (⟨[], match result with
          | .ok () => none
          | .error cause => some (.registry cause)⟩, some after) ∧
      executed after = creations.map (line ∘ Statement.create) := by
  have opens : Succeeds
      (Sent (fun session => session.version = none ∧ holds [] session.server) [])
      (Request.access Connection.connect) fun _ => Ready holds :=
    Request.succeeds_access (succeeds_passOn keeps.succeeds_connect)
  obtain ⟨_, opened, openRun, ready⟩ :=
    opens (Traced.start (Session.closed server)) ⟨⟨rfl, empty⟩, rfl⟩
  obtain ⟨registry, registerRun, statements⟩ := registers opened ready
  refine ⟨registry.state onlyHandle, ?_, by simp [executed, statements]⟩
  unfold run
  rw [loaded]
  dsimp only [reportOver]
  rw [report, reconcileAll_run openRun registerRun]
  cases result <;> rfl

/-- On a server without tables, `check` prints the creations of the tables, one line for
each, and `sync` executes these lines if no table is named twice. Otherwise it is refused at
the first table whose name is taken, and has executed the lines of the tables in front. -/
theorem sync_executes_printed (keeps : KeepsTables holds) (empty : holds [] server)
    (loaded : load path file = .ok tables) (unused : Option (Traced (Session σ))) :
    ∃ creations, Creates tables creations ∧
      run .check path file unused =
        (⟨creations.map (line ∘ Statement.create), none⟩, unused) ∧
      ((tables.map (·.name)).Nodup →
        ∃ after, run .sync path file (some (Traced.start (Session.closed server))) =
            (⟨[], none⟩, some after) ∧
          executed after = creations.map (line ∘ Statement.create)) ∧
      ∀ front table rest, tables = front ++ table :: rest → (front.map (·.name)).Nodup →
        table.name ∈ front.map (·.name) →
          ∃ after, run .sync path file (some (Traced.start (Session.closed server))) =
              (⟨[], some (.registry (.alreadyRegistered (.model connectionName table.name)))⟩,
                some after) ∧
            executed after =
              (creations.take front.length).map (line ∘ Statement.create) := by
  obtain ⟨creations, creates⟩ := exists_creates tables
  refine ⟨creations, creates, run_check loaded creates unused, ?distinct, ?repeated⟩
  case distinct =>
    intro distinct
    exact run_sync keeps empty loaded fun _ ready =>
      registerAll_distinct keeps creates distinct ready
  case repeated =>
    rintro front table rest rfl distinct repeated
    have frontCreates : Creates front (creations.take front.length) := by
      have taken := List.forall₂_take front.length creates
      rwa [List.take_left] at taken
    exact run_sync keeps empty loaded fun _ ready =>
      registerAll_repeated keeps frontCreates distinct repeated rest ready

end Documents

end Command

/-! ## A catalogue of tables -/

namespace MariaDb.Catalogue

/-- Exactly the tables of these names exist. -/
def Holds (names : List String) (catalogue : Catalogue) : Prop :=
  ∀ name, (catalogue.table name).columns = [] ↔ name ∉ names

theorem holds_empty : Holds [] empty := by
  intro name
  simp [empty, PhysicalTable.missing]

theorem carryOut_run {plan : Plan} {catalogue : Catalogue} {table : PhysicalTable}
    (applied : (catalogue.table plan.table).apply plan = .ok table) :
    carryOut plan catalogue = (some 0, catalogue.withTable plan.table table) := by
  rw [carryOut, applied]

theorem Holds.withTable {names : List String} {catalogue : Catalogue} (held : Holds names catalogue)
    (name : String) {table : PhysicalTable} (nonempty : table.columns ≠ []) :
    Holds (names ++ [name]) (catalogue.withTable name table) := by
  intro other
  by_cases same : other = name
  · simp [Catalogue.withTable, same, nonempty]
  · simp [Catalogue.withTable, same, held other]

theorem keepsTables : KeepsTables Holds where
  login _ state held := ⟨(), state, rfl, held⟩
  version _ state held := ⟨_, state, rfl, by decide, held⟩
  columns names table state held := by
    refine ⟨_, state, rfl, ?_, held⟩
    rw [List.map_eq_nil_iff, PhysicalTable.describe, List.map_eq_nil_iff]
    exact held table
  foreignKeys _ _ state held := ⟨_, state, rfl, held⟩
  create names table creation created missing state held := by
    have absent : (state.table creation.name).columns = [] := by
      rw [Table.creation_name created]
      exact (held table.name).2 missing
    obtain ⟨after, applied, columns⟩ : ∃ after,
        (state.table creation.name).apply (.create creation) = .ok after ∧
          after.columns = creation.columns.map fun entry =>
            PhysicalTable.liveColumn entry.1 entry.2 := by
      rw [PhysicalTable.apply, absent]
      exact ⟨_, rfl, rfl⟩
    have nonempty : after.columns ≠ [] := by
      simpa [columns] using Table.creation_columns_ne_nil created
    rw [← Table.creation_name created]
    exact ⟨0, _, carryOut_run applied, held.withTable creation.name nonempty⟩

end MariaDb.Catalogue

/-! ## Two documents -/

namespace Command

open MariaDb

/-- A document with two tables, the second of which refers to the first. -/
def shop : Except UnreadableFile String :=
  .ok ("\x7b\"tables\":[\x7b\"name\":\"users\",\"fields\":[" ++
    "\x7b\"name\":\"active\",\"type\":\"BOOLEAN\",\"unique\":true\x7d]\x7d," ++
    "\x7b\"name\":\"orders\",\"fields\":[" ++
    "\x7b\"name\":\"active\",\"type\":\"BOOLEAN\"," ++
    "\"foreignKey\":\x7b\"table\":\"users\",\"field\":\"active\"\x7d\x7d]\x7d]\x7d")

/-- A document that lists the same table twice. -/
def doubled : Except UnreadableFile String :=
  .ok ("\x7b\"tables\":[" ++
    "\x7b\"name\":\"t\",\"fields\":[\x7b\"name\":\"a\",\"type\":\"BOOLEAN\"\x7d]\x7d," ++
    "\x7b\"name\":\"t\",\"fields\":[\x7b\"name\":\"a\",\"type\":\"BOOLEAN\"\x7d]\x7d]\x7d")

def freshSession : Traced (Session Catalogue) :=
  Traced.start (Session.closed Catalogue.empty)

/-- The creations of the first document's tables. -/
def shopCreations : List String := [
  "CREATE TABLE `users` (`active` BOOLEAN NOT NULL, UNIQUE INDEX `active` (`active`));",
  "CREATE TABLE `orders` (`active` BOOLEAN NOT NULL, " ++
    "CONSTRAINT `active` FOREIGN KEY (`active`) REFERENCES `users` (`active`));"]

def doubledLine : String :=
  "CREATE TABLE `t` (`a` BOOLEAN NOT NULL);"

theorem check_doubled :
    (run .check "schema.json" doubled (some freshSession)).1 =
      ⟨[doubledLine, doubledLine], none⟩ := by
  decide +kernel

/-- A table that is listed twice is printed twice, but the second registration fails:
`sync` neither succeeds nor executes all that `check` prints. -/
theorem doubled_not_synchronized :
    KeepsTables Catalogue.Holds ∧ Catalogue.Holds [] freshSession.connection.server ∧
    (run .check "schema.json" doubled (some freshSession)).1 =
      ⟨[doubledLine, doubledLine], none⟩ ∧
    (run .sync "schema.json" doubled (some freshSession)).1 =
      ⟨[], some (.registry (.alreadyRegistered (.model connectionName "t")))⟩ ∧
    (run .sync "schema.json" doubled (some freshSession)).2.map executed =
      some [doubledLine] := by
  refine ⟨Catalogue.keepsTables, Catalogue.holds_empty, check_doubled, ?_, ?_⟩ <;>
    decide +kernel

/-- The first document is synchronized, the second one up to its second table. -/
theorem documents_synchronized :
    ((run .check "schema.json" shop (some freshSession)).1 = ⟨shopCreations, none⟩ ∧
      ∃ after, run .sync "schema.json" shop (some freshSession) = (⟨[], none⟩, some after) ∧
        executed after = shopCreations) ∧
    (run .check "schema.json" doubled (some freshSession)).1 =
        ⟨[doubledLine, doubledLine], none⟩ ∧
      ∃ after, run .sync "schema.json" doubled (some freshSession) =
          (⟨[], some (.registry (.alreadyRegistered (.model connectionName "t")))⟩, some after) ∧
        executed after = [doubledLine] := by
  constructor
  · have names : (load "schema.json" shop).toOption.map (·.map (·.name)) =
        some ["users", "orders"] := by decide +kernel
    obtain ⟨tables, loaded, named⟩ := Option.map_eq_some_iff.1 names
    have printed : (run .check "schema.json" shop (some freshSession)).1 =
        ⟨shopCreations, none⟩ := by decide +kernel
    obtain ⟨creations, _, checked, synchronized, _⟩ :=
      sync_executes_printed Catalogue.keepsTables Catalogue.holds_empty
        (toOption_eq_some_iff.1 loaded) (some freshSession)
    have lines : creations.map (line ∘ Statement.create) = shopCreations := by
      rw [checked] at printed
      exact congrArg Report.printed printed
    rw [lines] at synchronized
    exact ⟨printed, synchronized (by rw [named]; decide)⟩
  · have names : (load "schema.json" doubled).toOption.map (·.map (·.name)) =
        some ["t", "t"] := by decide +kernel
    obtain ⟨tables, loaded, named⟩ := Option.map_eq_some_iff.1 names
    obtain ⟨first, others, rfl, firstNamed, othersNamed⟩ := List.map_eq_cons_iff.1 named
    obtain ⟨second, rest, rfl, secondNamed, _⟩ := List.map_eq_cons_iff.1 othersNamed
    obtain ⟨creations, _, checked, _, refused⟩ :=
      sync_executes_printed Catalogue.keepsTables Catalogue.holds_empty
        (toOption_eq_some_iff.1 loaded) (some freshSession)
    have lines : creations.map (line ∘ Statement.create) = [doubledLine, doubledLine] := by
      have printed := check_doubled
      rw [checked] at printed
      exact congrArg Report.printed printed
    obtain ⟨after, ran, same⟩ := refused [first] second rest rfl (by simp)
      (by simp [firstNamed, secondNamed])
    rw [secondNamed] at ran
    rw [List.map_take, lines] at same
    exact ⟨check_doubled, after, ran, same⟩

end Command

end SchemaKeeper
