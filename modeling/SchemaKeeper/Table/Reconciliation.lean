import SchemaKeeper.Connection.Basic
import SchemaKeeper.Plan.Difference

/-!
Contract: bringing the table of a database in line with its declaration.

Owns: describing, planning and sending, in that order.
-/

namespace SchemaKeeper.Table

variable {σ : Type} [Connection σ]

/-- The plan that would bring the table in line. Nothing is sent. -/
def livePlan (table : Table) : Request σ Plan := do
  let live ← Request.access (Connection.describe table.name)
  Request.checked (table.planFor live)

/-- Brings the table in line and gives the plan that was carried out. A table that
is up to date receives no statement. -/
def reconcile (table : Table) : Request σ Plan := do
  let plan ← table.livePlan
  match plan.statement? with
  | none => return plan
  | some statement => do
      let _ ← Request.access (Connection.execute statement)
      return plan

end SchemaKeeper.Table
