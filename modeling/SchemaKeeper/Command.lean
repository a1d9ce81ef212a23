import SchemaKeeper.Document.Json
import SchemaKeeper.Registry
import SchemaKeeper.Text.Parts

/-!
Contract: the commands on a schema document.

`check` prints the statements that create the document's tables. `plan` prints the
statements that would bring a database in line with them and sends none, and `sync`
sends those statements. A command reads the document first, then asks for a
database, then opens it. It stops at the first failure and keeps what it has
printed.

Owns: the order of the steps, what is printed and the wording of failures.

Does not own: files and arguments (`Main`).
-/

namespace SchemaKeeper

/-! ## Failures -/

/-- Why a file cannot be read. -/
inductive UnreadableFile where
  | notFound
  | other (reason : String)
deriving DecidableEq

/-- The reason as the operating system words it. -/
def UnreadableFile.reason : UnreadableFile → String
  | .notFound => "No such file or directory (os error 2)"
  | .other reason => reason

inductive CommandError where
  | unreadable (path : String) (cause : UnreadableFile)
  | refused (cause : Error)
  | noDatabase
  | registry (cause : RegistryError)
deriving DecidableEq

def CommandError.message : CommandError → String
  | .unreadable path cause =>
      "failed to read schema " ++ path ++ "\n\nCaused by:\n    " ++ cause.reason
  | .refused cause => cause.message
  | .noDatabase => "a database URL is required (--database or DATABASE_URL)"
  | .registry cause => cause.message

/-! ## Reports -/

/-- What a command printed, statement by statement, and why it failed if it did. -/
structure Report where
  printed : List String
  failure : Option CommandError
deriving DecidableEq

namespace Report

def exitCode (report : Report) : Nat :=
  if report.failure.isSome then 1 else 0

/-- The text on the standard output. Each printed statement ends a line; names in it
may hold line feeds of their own. -/
def outputText (report : Report) : String :=
  String.join (report.printed.map fun statement => statement ++ "\n")

def outputLines (report : Report) : List String :=
  Text.lines report.outputText

def errorText? (report : Report) : Option String :=
  report.failure.map fun cause => "Error: " ++ cause.message

end Report

/-! ## Steps -/

/-- A command at work: the connection, and what was printed so far. -/
structure Progress (σ : Type) where
  connection : σ
  printed : List String

namespace Command

variable {σ α : Type}

abbrev Step (σ : Type) := ExceptT CommandError (StateM (Progress σ))

def print (statement : Statement) : Step σ Unit :=
  modify fun progress => { progress with printed := progress.printed ++ [statement.text ++ ";"] }

/-- Goes on only if a check succeeds. -/
def checked (result : Except Error α) : Step σ α :=
  ExceptT.mk (pure (result.mapError .refused))

/-- Makes a request over the connection. -/
def through (request : Request σ α) : Step σ α := fun progress =>
  let (result, connection) := request progress.connection
  (result.mapError fun cause => .registry (.request cause),
    { progress with connection := connection })

def onlyHandle : Handle := ⟨0⟩

/-- Makes calls on a registry that has only this connection to offer. -/
def within (call : Registry.Call σ α) : Step σ α := fun progress =>
  let (result, registry) := call (Registry.start fun _ => progress.connection)
  (result.mapError .registry, { progress with connection := registry.state onlyHandle })

/-! ## Commands -/

def printCreations (tables : List Table) : Step σ Unit :=
  tables.forM fun table => do
    print (.create (← checked table.creation))

variable [Connection σ]

/-- Opens the connection, prints the statements that would bring each table in line,
and closes it. -/
def preview (tables : List Table) : Step σ Unit := do
  through (Request.access Connection.connect)
  tables.forM fun table => do
    match (← through table.livePlan).statement? with
    | some statement => print statement
    | none => pure ()
  through (Request.access Connection.disconnect)

def connectionName : String := "default"

def registerEach (tables : List Table) : Registry.Call σ Unit :=
  tables.forM fun table => do
    let _ ← Registry.registerModel connectionName table

def registerAll (tables : List Table) : Registry.Call σ Unit := do
  Registry.registerConnection connectionName onlyHandle
  registerEach tables
  Registry.disconnectAll

def reconcileAll (tables : List Table) : Step σ Unit := do
  through (Request.access Connection.connect)
  within (registerAll tables)

end Command

/-! ## Running -/

inductive Command where
  | check
  | plan
  | sync
deriving DecidableEq

namespace Command

variable {σ : Type}

def ofName? (name : String) : Option Command :=
  match name with
  | "check" => some .check
  | "plan" => some .plan
  | "sync" => some .sync
  | _ => none

def load (path : String) (file : Except UnreadableFile String) :
    Except CommandError (List Table) :=
  match file with
  | .error cause => .error (.unreadable path cause)
  | .ok text =>
      (Document.ofJsonText text >>= Document.build).mapError fun cause =>
        .refused (.configuration cause)

/-- Takes the step of a command from the beginning. -/
def report (step : Step σ Unit) (connection : σ) : Report × σ :=
  let (result, progress) := step ⟨connection, []⟩
  let failure := match result with
    | .ok () => none
    | .error cause => some cause
  (⟨progress.printed, failure⟩, progress.connection)

def reportOver (step : Step σ Unit) : Option σ → Report × Option σ
  | none => (⟨[], some .noDatabase⟩, none)
  | some connection =>
      let (report, connection) := report step connection
      (report, some connection)

/-- Runs a command on the document in a file and, if one is given, a connection. -/
def run [Connection σ] (command : Command) (path : String) (file : Except UnreadableFile String)
    (connection : Option σ) : Report × Option σ :=
  match load path file with
  | .error cause => (⟨[], some cause⟩, connection)
  | .ok tables =>
      match command with
      | .check => ((report (printCreations tables) ()).1, connection)
      | .plan => reportOver (preview tables) connection
      | .sync => reportOver (reconcileAll tables) connection

end Command

end SchemaKeeper
