import SchemaKeeper.Connection.Basic

/-!
Contract: connections that keep a trace of what they are asked to run.

A traced connection behaves as the one inside it and remembers every statement
passed to `execute` and `query`, in order, whether the call succeeds or not.

Owns: the trace, and how each call passes through.
-/

namespace SchemaKeeper

/-- A connection with the statements passed to it so far. -/
structure Traced (σ : Type) where
  connection : σ
  statements : List Statement

namespace Traced

variable {σ α : Type}

def start (connection : σ) : Traced σ := ⟨connection, []⟩

/-- Passes a call through to the connection inside. -/
def passOn (call : Access σ α) : Access (Traced σ) α := fun traced =>
  let (result, connection) := call traced.connection
  (result, { traced with connection := connection })

def remember (statement : Statement) : Access (Traced σ) Unit :=
  modify fun traced => { traced with statements := traced.statements ++ [statement] }

instance [Connection σ] : Connection (Traced σ) where
  connect := passOn Connection.connect
  disconnect := passOn Connection.disconnect
  describe table := passOn (Connection.describe table)
  execute statement := do
    remember statement
    passOn (Connection.execute statement)
  query statement := do
    remember statement
    passOn (Connection.query statement)
  supportsReturning := passOn Connection.supportsReturning

end Traced

end SchemaKeeper
