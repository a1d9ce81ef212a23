import SchemaKeeper.MariaDb.Server
import SchemaKeeper.MariaDb.Version

/-!
Contract: connections to a MariaDB server.

A session is open while it holds the version that the server reported when it was
opened. Only an open session contacts the server, apart from the attempt to open
it; opening an open session and closing a closed one do nothing.

Owns: the life cycle of a session, and its calls as a connection.
-/

namespace SchemaKeeper.MariaDb

/-- A connection to a server, with the version it reported while it is open. -/
structure Session (σ : Type) where
  server : σ
  version : Option Version

namespace Session

variable {σ α : Type}

def closed (server : σ) : Session σ := ⟨server, none⟩

def isOpen (session : Session σ) : Bool :=
  session.version.isSome

def ask (question : Question σ α) : Access (Session σ) α := fun session =>
  let (answer, server) := question session.server
  (match answer with
    | some value => .ok value
    | none => .error .failed,
    { session with server := server })

/-- The version of an open session. -/
def requireOpen : Access (Session σ) Version := do
  match (← get).version with
  | some version => return version
  | none => throw .notConnected

/-- Reads the result of a question about what was sent. -/
def interpret (result : Except ConnectionError α) : Access (Session σ) α :=
  ExceptT.mk (pure result)

variable [Server σ]

/-- Opens a closed session: logs in and reads the version. -/
def openClosed : Access (Session σ) Unit := do
  ask Server.login
  let report ← ask Server.version
  match Version.ofReport? report with
  | some version => modify fun session => { session with version := some version }
  | none => throw (.unexpectedResponse (.version report))

def closeOpen : Access (Session σ) Unit :=
  modify fun session => ⟨(Server.logout session.server).2, none⟩

instance : Connection (Session σ) where
  connect := do
    unless (← get).isOpen do
      openClosed
  disconnect := do
    if (← get).isOpen then
      closeOpen
  describe table := do
    let _ ← requireOpen
    let reports ← ask (Server.columns table)
    let foreignKeys ← ask (Server.foreignKeys table)
    return reports.map fun report => report.liveColumn foreignKeys
  execute statement := do
    let _ ← requireOpen
    ask (Server.execute statement)
  query statement := do
    let _ ← requireOpen
    let result ← ask (Server.fetch statement)
    interpret result.decode
  supportsReturning := do
    return (← requireOpen).supportsReturning

end Session

end SchemaKeeper.MariaDb
