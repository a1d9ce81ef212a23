import SchemaKeeper.Error
import SchemaKeeper.Live
import SchemaKeeper.Sql.Statement

/-!
Contract: what a database connection does for its callers.

A connection is a state with six calls. A call may change the state whether it
succeeds or fails, and it fails only for reasons of the database: refusals of
declarations, records and filters are raised before a connection is called, and
`RequestError` keeps the two apart.

Owns: the calls, their failures, and requests that check before they call.

Does not own: any database (`Connection.Memory`, `MariaDb.Session`).
-/

namespace SchemaKeeper

/-! ## Failures -/

/-- An answer of a database that could not be interpreted. -/
inductive UnexpectedResponse where
  | version (report : String)
  | decimal (text : String)
  | missingRow (table : String)
  | other (text : String)
deriving DecidableEq

def UnexpectedResponse.message : UnexpectedResponse → String
  | .version report => "unrecognised server version " ++ report
  | .decimal text => "invalid decimal " ++ text
  | .missingRow table => "inserted row of table " ++ table ++ " could not be read back"
  | .other text => text

/-- Why a call on a connection fails. A failure of the server or of the way to it
is passed on without its wording. -/
inductive ConnectionError where
  | failed
  | notConnected
  | unexpectedResponse (response : UnexpectedResponse)
deriving DecidableEq

def ConnectionError.message : ConnectionError → String
  | .failed => "database error"
  | .notConnected => "database is not connected"
  | .unexpectedResponse response => "unexpected response from database: " ++ response.message

/-- Why a request fails: it is refused before any call, or a call fails. -/
inductive RequestError where
  | refused (cause : Error)
  | connection (cause : ConnectionError)
deriving DecidableEq

def RequestError.message : RequestError → String
  | .refused cause => cause.message
  | .connection cause => cause.message

/-! ## Calls -/

abbrev Access (σ : Type) := ExceptT ConnectionError (StateM σ)

/-- A database connection with states in `σ`. -/
class Connection (σ : Type) where
  /-- Opens the connection; an open one stays as it is. -/
  connect : Access σ Unit
  /-- Closes the connection; a closed one stays as it is. -/
  disconnect : Access σ Unit
  /-- The columns of a table in their order; none if there is no such table. -/
  describe (table : String) : Access σ (List LiveColumn)
  /-- Runs a statement and counts the rows it affected. -/
  execute (statement : Statement) : Access σ Nat
  /-- Runs a statement and reads its rows. -/
  query (statement : Statement) : Access σ (List Record)
  /-- Whether an insertion can ask for the stored row. -/
  supportsReturning : Access σ Bool

/-! ## Requests -/

/-- A request over a connection with states in `σ`. -/
abbrev Request (σ : Type) := ExceptT RequestError (StateM σ)

namespace Request

variable {σ α : Type}

/-- Goes on only if a check succeeds; the connection is not called. -/
def checked (result : Except Error α) : Request σ α :=
  ExceptT.mk (pure (result.mapError .refused))

def access (call : Access σ α) : Request σ α :=
  call.adapt .connection

end Request

end SchemaKeeper
