import SchemaKeeper.Filter.Rendering
import SchemaKeeper.Sql.Statement
import SchemaKeeper.Table.Records

/-!
Contract: which statements a table's requests come to, decided without a database.

Each request on rows is checked in full here and turned into a statement, or into
the row and condition that one is made of. What is refused here is never sent.

Owns: the order of the checks, and the values that are written.

Does not own: sending (`Table.Rows`).
-/

namespace SchemaKeeper.Table

/-! ## Checks -/

def checkLimit (limit : Option Nat) : Except Error Unit :=
  if limit = some 0 then .error (.validation .zeroLimit) else .ok ()

def checkNames (table : Table) (names : List String) : Except Error Unit :=
  match names.find? fun name => !table.hasField name with
  | some unknown => .error (.validation (.unknownField unknown table.name))
  | none => .ok ()

def condition (table : Table) : Option Filter → Except Error (Option Sql)
  | none => .ok none
  | some filter => (filter.render table).map some

/-! ## Reading -/

/-- Finds the rows that hold every entry of a record; all rows if it is empty. -/
def lookup (table : Table) (query : Record) (limit : Option Nat) : Except Error Statement := do
  checkLimit limit
  let filter := if query.isEmpty then none else some (Filter.allEqual query)
  return .select table.name none (← table.condition filter) limit

def projection (table : Table) (fields : List String) (filter : Option Filter)
    (limit : Option Nat) : Except Error Statement := do
  checkLimit limit
  if fields.isEmpty then
    throw (.validation (.nothingSelected table.name))
  table.checkNames fields
  return .select table.name (some fields) (← table.condition filter) limit

/-! ## Writing -/

/-- The value that a new row holds in a field: the one given, else the default.
Null counts as not given. -/
def newValue (field : Field) : Option Value → Value
  | none | some .null => field.default.getD .null
  | some value => value

/-- The new row that a record gives. -/
def newRow (table : Table) (record : Record) : Row :=
  (table.fields.filter fun entry => !entry.2.autoIncrement).map fun entry =>
    (entry.1, newValue entry.2 (record.get? entry.1))

def insertion (table : Table) (record : Record) : Except Error Row := do
  (table.checkRecord .create record).mapError .validation
  return table.newRow record

/-- The new row of a record, and the fields that an existing row takes from it:
those named, else all. -/
def upsertion (table : Table) (record : Record) (updated : Option (List String)) :
    Except Error (Row × List String) := do
  let row ← table.insertion record
  match updated with
  | none => return (row, row.map (·.1))
  | some names => do
      table.checkNames names
      return (row, names)

/-- The values that replace those of existing rows; what a record leaves out
becomes null. -/
def replacementRow (table : Table) (record : Record) : Row :=
  table.writableFields.map fun name => (name, (record.get? name).getD .null)

/-- The condition and the values of a replacement. A replacement of all rows is
refused. -/
def replacement (table : Table) (query record : Record) : Except Error (Sql × Row) := do
  let condition ← (Filter.allEqual query).render table
  (table.checkRecord .update record).mapError .validation
  return (condition, table.replacementRow record)

def isWritable (table : Table) (name : String) : Bool :=
  (table.field? name).any fun field => !field.autoIncrement

/-- The condition and the values of a change of single fields. Auto-increment
fields are left out, and something has to remain. -/
def changes (table : Table) (filter : Filter) (record : Record) : Except Error (Sql × Row) := do
  let condition ← filter.render table
  (table.checkEntries record.entries).mapError .validation
  let row := record.entries.filter fun entry => table.isWritable entry.1
  if row.isEmpty then
    throw (.validation (.nothingWritable table.name))
  return (condition, row)

def removal (table : Table) (filter : Filter) : Except Error Statement :=
  (filter.render table).map (.delete table.name)

end SchemaKeeper.Table
