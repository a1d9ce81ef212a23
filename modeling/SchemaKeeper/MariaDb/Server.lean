import SchemaKeeper.MariaDb.Cell

/-!
Contract: what a session asks of a MariaDB server, and a server that answers from
a script.

A server is a state with the questions of a session. It may fail at any of them;
the reason is its own.

Owns: the questions, and the scripted server.

Does not own: being connected (`MariaDb.Session`).
-/

namespace SchemaKeeper.MariaDb

/-! ## Servers -/

/-- A question to a server with states in `σ`; no answer means that it failed. -/
abbrev Question (σ : Type) := OptionT (StateM σ)

/-- A column as the server's own catalogue lists it. -/
structure ColumnReport where
  name : String
  type : String
  nullable : String
  key : String
  default : Option String
  extra : String
deriving DecidableEq

/-- The live column of a report, given the columns with a constraint. -/
def ColumnReport.liveColumn (report : ColumnReport) (foreignKeys : List String) : LiveColumn where
  name := report.name
  type := report.type
  nullable := Text.sameIgnoringCase report.nullable "YES"
  key := KeyKind.ofReport? report.key
  foreignKey := foreignKeys.contains report.name
  default := normalizeDefault report.default
  extra := report.extra

/-- A MariaDB server with states in `σ`. -/
class Server (σ : Type) where
  /-- Lets a client in. -/
  login : Question σ Unit
  /-- Lets a client go. -/
  logout : StateM σ Unit
  /-- The version report. -/
  version : Question σ String
  /-- The columns of a table in their order. -/
  columns (table : String) : Question σ (List ColumnReport)
  /-- The columns of a table that carry a constraint. -/
  foreignKeys (table : String) : Question σ (List String)
  /-- Runs a statement and counts the rows it affected. -/
  execute (statement : Statement) : Question σ Nat
  /-- Runs a statement and sends its result. -/
  fetch (statement : Statement) : Question σ ResultTable

/-! ## Scripted servers -/

inductive Reply where
  | affected (count : Nat)
  | failure
  | table (result : ResultTable)

/-- A table of a scripted server: its columns, and those that carry a constraint. -/
structure ScriptedTable where
  columns : List ColumnReport
  foreignKeys : List String

/-- A server that answers from a script: statements take the prepared replies one
after the other and are written down. A server that is out of reach, or that denies
its clients, lets nobody in. -/
structure ScriptedServer where
  reachable : Bool
  denies : Bool
  report : String
  tables : List (String × ScriptedTable)
  replies : List Reply
  log : List Statement

namespace ScriptedServer

def outOfReach : ScriptedServer := ⟨false, false, "", [], [], []⟩

/-- Writes a statement down and takes the next reply; a statement without one
affects nothing. -/
def reply (statement : Statement) : StateM ScriptedServer Reply := do
  let server ← get
  set { server with replies := server.replies.tail, log := server.log ++ [statement] }
  return server.replies.head?.getD (.affected 0)

def table? (server : ScriptedServer) (name : String) : Option ScriptedTable :=
  server.tables.lookup name

instance : Server ScriptedServer where
  login := do
    let server ← get
    if server.denies || !server.reachable then failure
  logout := pure ()
  version := return (← get).report
  columns name := return (((← get).table? name).map (·.columns)).getD []
  foreignKeys name := return (((← get).table? name).map (·.foreignKeys)).getD []
  execute statement := do
    match ← reply statement with
    | .affected count => return count
    | .failure => failure
    | .table _ => return 0
  fetch statement := do
    match ← reply statement with
    | .affected _ => return ⟨[], []⟩
    | .failure => failure
    | .table result => return result

end ScriptedServer

end SchemaKeeper.MariaDb
