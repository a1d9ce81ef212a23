import SchemaKeeper.Table.Basic

/-!
Contract: what has to be done to a table.

A plan creates a table or changes it by operations in their order.

Owns: operations, creations and plans, and the creation of a table.

Does not own: how a plan is found (`Plan.Difference`), written
(`Sql.Statement`) or carried out (`PhysicalTable`).
-/

namespace SchemaKeeper

/-- A single change of a table. Indexes and constraints are named after their
column. -/
inductive Operation where
  | dropPrimaryKey
  | addPrimaryKey (fields : List String)
  | dropColumn (name : String)
  | addColumn (name : String) (column : Column)
  | changeColumn (name : String) (column : Column)
  | dropUniqueIndex (name : String)
  | addUniqueIndex (name : String)
  | dropForeignKey (name : String)
  | addForeignKey (name : String) (target : ReferenceTarget)
deriving DecidableEq

/-- Everything that creates a table. The primary key lists fields of every type,
unlike the flag on columns. -/
structure Creation where
  name : String
  columns : List (String × Column)
  primaryKey : List String
  unique : List String
  foreignKeys : List (String × ReferenceTarget)
deriving DecidableEq

/-- How a table is brought in line with its declaration. -/
inductive Plan where
  | create (creation : Creation)
  | alter (table : String) (operations : List Operation)
deriving DecidableEq

namespace Plan

def isEmpty : Plan → Bool
  | .create _ => false
  | .alter _ operations => operations.isEmpty

def table : Plan → String
  | .create creation => creation.name
  | .alter table _ => table

end Plan

def Column.references (columns : List (String × Column)) : List (String × ReferenceTarget) :=
  columns.filterMap fun entry => entry.2.reference.map fun target => (entry.1, target)

namespace Table

def columnsOf : List (String × Field) → Except Error (List (String × Column))
  | [] => .ok []
  | (name, field) :: rest => do
      let column ← (Column.ofField field).mapError fun cause =>
        Error.configuration (.unmappable cause)
      let columns ← columnsOf rest
      return (name, column) :: columns

def columns (table : Table) : Except Error (List (String × Column)) :=
  columnsOf table.fields

def creation (table : Table) : Except Error Creation := do
  let columns ← table.columns
  return {
    name := table.name
    columns := columns
    primaryKey := table.primaryKey
    unique := table.uniqueFields
    foreignKeys := Column.references columns }

end Table

end SchemaKeeper
