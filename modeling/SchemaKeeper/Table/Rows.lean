import SchemaKeeper.Connection.Basic
import SchemaKeeper.Table.Requests

/-!
Contract: reading and writing the rows of a table over a connection.

Every request is checked before the first call. Rows that were written are read
back: from the statement itself where the database returns them, otherwise with a
lookup of the values just written.

Owns: which calls a request makes, and in which order.
-/

namespace SchemaKeeper.Table

variable {σ : Type} [Connection σ]

/-! ## Reading -/

/-- The rows that hold every entry of a record. -/
def find (table : Table) (query : Record) (limit : Option Nat) : Request σ (List Record) := do
  let statement ← Request.checked (table.lookup query limit)
  Request.access (Connection.query statement)

def findOne (table : Table) (query : Record) : Request σ (Option Record) := do
  return (← table.find query (some 1)).head?

/-- The name of the field that identifies rows, unless another one is given. -/
def identifierField : String := "id"

def findById (table : Table) (identifier : Value) (field : Option String) :
    Request σ (Option Record) :=
  table.findOne (Record.empty.insert (field.getD identifierField) identifier)

def select (table : Table) (fields : List String) (filter : Option Filter)
    (limit : Option Nat) : Request σ (List Record) := do
  let statement ← Request.checked (table.projection fields filter limit)
  Request.access (Connection.query statement)

def selectOne (table : Table) (fields : List String) (filter : Option Filter) :
    Request σ (Option Record) := do
  return (← table.select fields filter (some 1)).head?

/-! ## Writing -/

/-- The first row that holds the values just written. -/
def readBack (table : Table) (row : Row) : Request σ (Option Record) :=
  table.findOne (Record.ofList row)

/-- Sends a statement that writes a new row and reads the stored row. The statement
asks for it where the database can return it. -/
def store (table : Table) (row : Row) (statement : Bool → Statement) :
    Request σ (Option Record) := do
  let returning ← Request.access Connection.supportsReturning
  if returning then
    return (← Request.access (Connection.query (statement returning))).head?
  else
    let _ ← Request.access (Connection.execute (statement returning))
    table.readBack row

/-- Inserts a row and gives it as stored. -/
def insert (table : Table) (record : Record) : Request σ Record := do
  let row ← Request.checked (table.insertion record)
  match ← table.store row (.insert table.name row) with
  | some stored => return stored
  | none => throw (.connection (.unexpectedResponse (.missingRow table.name)))

/-- Inserts a row, or changes the existing row that it collides with. Nothing is
stored when the collision is ignored. -/
def upsert (table : Table) (record : Record) (updated : Option (List String)) :
    Request σ (Option Record) := do
  let (row, names) ← Request.checked (table.upsertion record updated)
  table.store row (.upsert table.name row names)

/-- Assigns values to existing rows and gives the first row that holds them. -/
def assign (table : Table) (condition : Sql) (row : Row) : Request σ (Option Record) := do
  let _ ← Request.access (Connection.execute (.update table.name row condition))
  table.readBack row

/-- Replaces every written field of the rows that hold the entries of a query. -/
def update (table : Table) (query record : Record) : Request σ (Option Record) := do
  let (condition, row) ← Request.checked (table.replacement query record)
  table.assign condition row

/-- Changes only the given fields of the rows that a filter lets through. -/
def updateWhere (table : Table) (filter : Filter) (record : Record) :
    Request σ (Option Record) := do
  let (condition, row) ← Request.checked (table.changes filter record)
  table.assign condition row

def deleteWhere (table : Table) (filter : Filter) : Request σ Nat := do
  let statement ← Request.checked (table.removal filter)
  Request.access (Connection.execute statement)

/-- Removes the rows that hold the entries of a query and counts them. A removal of
all rows is refused. -/
def delete (table : Table) (query : Record) : Request σ Nat :=
  table.deleteWhere (Filter.allEqual query)

end SchemaKeeper.Table
