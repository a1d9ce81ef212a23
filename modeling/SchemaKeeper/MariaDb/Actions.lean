import SchemaKeeper.MariaDb.Session

/-!
Contract: everything that is done with a session, as data, and what its server sees of it.

An action is one call on a session with its arguments. An event is an action with what it
gave and with the questions that reached the server meanwhile, so that silence towards the
server can be observed. A run is a list of actions and leaves the list of its events.

Owns: monitored servers, actions, their answers, and runs.

Does not own: the calls (`MariaDb.Session`).
-/

namespace SchemaKeeper.MariaDb

variable {σ α : Type}

/-! ## Monitored servers -/

/-- A question that reached a server. Of the answers only those to a login and to the
question for the version are kept: a session depends on these. -/
inductive Exchange where
  | login (admitted : Bool)
  | logout
  | version (report : Option String)
  | columns (table : String)
  | foreignKeys (table : String)
  | execute (statement : Statement)
  | fetch (statement : Statement)

/-- A server with the questions that have reached it. -/
structure Monitored (σ : Type) where
  server : σ
  exchanges : List Exchange

namespace Monitored

def start (server : σ) : Monitored σ := ⟨server, []⟩

/-- Passes a question on to the server inside and writes it down. -/
def pass (exchange : Option α → Exchange) (question : Question σ α) :
    Question (Monitored σ) α := fun monitored =>
  let (answer, server) := question monitored.server
  (answer, ⟨server, monitored.exchanges ++ [exchange answer]⟩)

instance [Server σ] : Server (Monitored σ) where
  login := pass (fun answer => .login answer.isSome) Server.login
  logout := fun monitored =>
    ((), ⟨(Server.logout monitored.server).2, monitored.exchanges ++ [.logout]⟩)
  version := pass .version Server.version
  columns table := pass (fun _ => .columns table) (Server.columns table)
  foreignKeys table := pass (fun _ => .foreignKeys table) (Server.foreignKeys table)
  execute statement := pass (fun _ => .execute statement) (Server.execute statement)
  fetch statement := pass (fun _ => .fetch statement) (Server.fetch statement)

end Monitored

namespace Session

/-! ## Actions -/

/-- A call on a session with its arguments. -/
inductive Action where
  | connect
  | disconnect
  | serverVersion
  | describe (table : String)
  | execute (statement : Statement)
  | query (statement : Statement)
  | supportsReturning

def Action.needsOpen : Action → Bool
  | .describe _ | .execute _ | .query _ | .supportsReturning => true
  | .connect | .disconnect | .serverVersion => false

inductive Answer where
  | done
  | version (version : Option Version)
  | columns (live : List LiveColumn)
  | affected (count : Nat)
  | rows (rows : List Record)
  | available (returning : Bool)

/-- An action, what it gave, and the questions that reached the server meanwhile. -/
structure Event where
  action : Action
  result : Except ConnectionError Answer
  exchanges : List Exchange

/-! ## Runs -/

variable [Server σ]

def perform : Action → Access (Session σ) Answer
  | .connect => do
      Connection.connect
      return .done
  | .disconnect => do
      Connection.disconnect
      return .done
  | .serverVersion => return .version (← get).version
  | .describe table => return .columns (← Connection.describe table)
  | .execute statement => return .affected (← Connection.execute statement)
  | .query statement => return .rows (← Connection.query statement)
  | .supportsReturning => return .available (← Connection.supportsReturning)

/-- Performs an action on a session with a server and keeps the event. -/
def observe (action : Action) (session : Session σ) : Event × Session σ :=
  let (result, later) := perform action ⟨Monitored.start session.server, session.version⟩
  (⟨action, result, later.server.exchanges⟩, ⟨later.server.server, later.version⟩)

def observeAll : List Action → Session σ → List Event × Session σ
  | [], session => ([], session)
  | action :: rest, session =>
      let (event, session) := observe action session
      let (events, session) := observeAll rest session
      (event :: events, session)

end Session

end SchemaKeeper.MariaDb
