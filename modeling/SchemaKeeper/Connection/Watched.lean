import SchemaKeeper.Connection.Memory

/-!
Contract: connections that keep a record of the calls made on them.

A watched connection behaves as the one inside it and writes every call down, in order,
whether the call succeeds or not.

Owns: the record, and how each call passes through.
-/

namespace SchemaKeeper

/-- A connection with the calls made on it so far. -/
@[ext] structure Watched (σ : Type) where
  connection : σ
  calls : List Connection.Call

namespace Watched

variable {σ α : Type}

def start (connection : σ) : Watched σ := ⟨connection, []⟩

/-- Passes a call through to the connection inside and writes it down. -/
def passOn (made : Connection.Call) (call : Access σ α) : Access (Watched σ) α := fun watched =>
  let (result, connection) := call watched.connection
  (result, ⟨connection, watched.calls ++ [made]⟩)

instance [Connection σ] : Connection (Watched σ) where
  connect := passOn .connect Connection.connect
  disconnect := passOn .disconnect Connection.disconnect
  describe table := passOn .describe (Connection.describe table)
  execute statement := passOn .execute (Connection.execute statement)
  query statement := passOn .query (Connection.query statement)
  supportsReturning := passOn .supportsReturning Connection.supportsReturning

end Watched

end SchemaKeeper
