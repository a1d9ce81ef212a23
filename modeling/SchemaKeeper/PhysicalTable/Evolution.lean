import SchemaKeeper.PhysicalTable
import SchemaKeeper.Plan.Difference

/-!
Contract: the life of a physical table under one declaration after another.

Each step describes the table, compares the description with a declaration and
carries the plan out. A description that cannot be compared leaves the table as it
is, so a run only fails where the table refuses a plan.

Owns: the tables that a life starts from, one step, and runs of steps.
-/

namespace SchemaKeeper.PhysicalTable

/-- A table before any step: it is missing, or taken from a description whose
columns all have different names. -/
inductive Initial : PhysicalTable → Prop where
  | missing : Initial .missing
  | described (live : List LiveColumn) (distinct : (live.map (·.name)).Nodup) :
      Initial (ofLive live)

def reconcile (table : PhysicalTable) (declared : Table) : Except Refusal PhysicalTable :=
  match declared.planFor table.describe with
  | .ok plan => table.apply plan
  | .error _ => .ok table

def reconcileAll (table : PhysicalTable) : List Table → Except Refusal PhysicalTable
  | [] => .ok table
  | declared :: rest => do
      let changed ← table.reconcile declared
      changed.reconcileAll rest

end SchemaKeeper.PhysicalTable
