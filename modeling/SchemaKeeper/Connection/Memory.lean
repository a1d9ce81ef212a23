import SchemaKeeper.Connection.Basic

/-!
Contract: a connection without a database, for trying out requests.

The answers are prepared: descriptions by table, rows in the order in which
queries ask for them, one count for every executed statement, and failures that
strike the next call of their kind once. Statements are written down as they
arrive and have no effect on the descriptions.

Owns: the prepared answers and the order in which a call looks for a failure, for
the connection being open, and for its answer.
-/

namespace SchemaKeeper

inductive Connection.Call where
  | connect
  | disconnect
  | describe
  | execute
  | query
  | supportsReturning
deriving DecidableEq

def Connection.Call.name : Connection.Call → String
  | .connect => "connect"
  | .disconnect => "disconnect"
  | .describe => "describe"
  | .execute => "execute"
  | .query => "query"
  | .supportsReturning => "supports_returning"

def Connection.Call.ofName? (name : String) : Option Connection.Call :=
  [.connect, .disconnect, .describe, .execute, .query, .supportsReturning].find? fun call =>
    Connection.Call.name call == name

def Connection.Call.needsOpen : Connection.Call → Bool
  | .connect | .disconnect => false
  | .describe | .execute | .query | .supportsReturning => true

/-- A connection that answers from memory. -/
structure MemoryConnection where
  isOpen : Bool := false
  returning : Bool := true
  tables : List (String × List LiveColumn) := []
  results : List (List Record) := []
  affected : Nat := 1
  failures : List (Connection.Call × String) := []
  log : List Statement := []

namespace MemoryConnection

/-! ## Preparation -/

/-- Prepares the description of a table, replacing an earlier one. -/
def withTable (connection : MemoryConnection) (table : String) (columns : List LiveColumn) :
    MemoryConnection :=
  { connection with
    tables := (table, columns) :: connection.tables.filter fun entry => entry.1 != table }

/-- Prepares a failure of the next call of a kind, replacing an earlier one. -/
def withFailure (connection : MemoryConnection) (call : Connection.Call) (text : String) :
    MemoryConnection :=
  { connection with
    failures := (call, text) :: connection.failures.filter fun entry => entry.1 ≠ call }

def withResults (connection : MemoryConnection) (results : List (List Record)) :
    MemoryConnection :=
  { connection with results := connection.results ++ results }

/-! ## Calls -/

/-- Lets a call through unless a failure is prepared for it, which is then used up,
or the connection is closed and the call needs it open. -/
def pass (call : Connection.Call) : Access MemoryConnection Unit := do
  let connection ← get
  match connection.failures.lookup call with
  | some text => do
      set { connection with
        failures := connection.failures.filter fun entry => entry.1 ≠ call }
      throw (.unexpectedResponse (.other text))
  | none =>
      if call.needsOpen && !connection.isOpen then
        throw .notConnected

def record (statement : Statement) : Access MemoryConnection Unit :=
  modify fun connection => { connection with log := connection.log ++ [statement] }

instance : Connection MemoryConnection where
  connect := do
    pass .connect
    modify fun connection => { connection with isOpen := true }
  disconnect := do
    pass .disconnect
    modify fun connection => { connection with isOpen := false }
  describe table := do
    pass .describe
    return ((← get).tables.lookup table).getD []
  execute statement := do
    pass .execute
    record statement
    return (← get).affected
  query statement := do
    pass .query
    record statement
    match (← get).results with
    | [] => return []
    | rows :: later => do
        modify fun connection => { connection with results := later }
        return rows
  supportsReturning := do
    pass .supportsReturning
    return (← get).returning

end MemoryConnection

end SchemaKeeper
