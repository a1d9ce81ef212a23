import SchemaKeeper.Table.Basic

/-!
Contract: which records a table accepts.

A record for writing must not be empty and must give every required field a value
other than null. A record for looking rows up may leave fields out. In both, each
entry names a field and holds a value that the field accepts; entries are checked
in the record's order.
-/

namespace SchemaKeeper

inductive RecordUse where
  | create
  | update
  | lookup
deriving DecidableEq

namespace Table

/-- The required fields that a record leaves out or null, in declaration order. -/
def missingFields (table : Table) (record : Record) : List String :=
  table.requiredFields.filter fun name => ((record.get? name).getD .null).isNull

def checkEntries (table : Table) : List (String × Value) → Except ValidationError Unit
  | [] => .ok ()
  | (name, value) :: rest => do
      table.checkValue name value
      checkEntries table rest

def checkComplete (table : Table) (record : Record) : Except ValidationError Unit :=
  if record.isEmpty then
    .error (.noFields table.name)
  else if table.missingFields record ≠ [] then
    .error (.missingRequired table.name (table.missingFields record))
  else
    .ok ()

def checkRecord (table : Table) (use : RecordUse) (record : Record) :
    Except ValidationError Unit := do
  match use with
  | .create | .update => table.checkComplete record
  | .lookup => pure ()
  table.checkEntries record.entries

end Table

end SchemaKeeper
