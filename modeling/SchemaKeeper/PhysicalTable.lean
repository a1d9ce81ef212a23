import SchemaKeeper.Live
import SchemaKeeper.Plan.Basic

/-!
Contract: what plans do to a table.

A physical table has columns, a primary key, unique indexes and constraints, the
latter three by column name. It refuses an operation that does not fit its state,
and a plan that leaves a constraint without its column.

Owns: the state, the refusals, the effect of each operation and the description.
-/

namespace SchemaKeeper

/-- A table as a server holds it. Keys and constraints are kept in the lists; the
corresponding entries of the columns are unset. -/
structure PhysicalTable where
  columns : List LiveColumn
  primary : List String
  unique : List String
  foreign : List String
deriving DecidableEq

namespace PhysicalTable

inductive Refusal where
  | tableExists
  | noPrimaryKey
  | primaryKeyExists
  | noColumn (name : String)
  | duplicateColumn (name : String)
  | noIndex (name : String)
  | duplicateIndex (name : String)
  | noConstraint (name : String)
  | duplicateConstraint (name : String)
  | strandedConstraint (name : String)
deriving DecidableEq

def missing : PhysicalTable := ⟨[], [], [], []⟩

/-! ## Descriptions -/

/-- The table that a description is taken from. -/
def ofLive (live : List LiveColumn) : PhysicalTable where
  columns := live.map fun column => { column with key := none, foreignKey := false }
  primary := (live.filter fun column => column.key = some .primary).map (·.name)
  unique := (live.filter fun column => column.key = some .unique).map (·.name)
  foreign := (live.filter (·.foreignKey)).map (·.name)

/-- The key that a description shows for a column: the primary key hides a unique
index, and either hides the index of a constraint. -/
def keyOf (table : PhysicalTable) (name : String) : Option KeyKind :=
  if table.primary.contains name then some .primary
  else if table.unique.contains name then some .unique
  else if table.foreign.contains name then some .multiple
  else none

def describe (table : PhysicalTable) : List LiveColumn :=
  table.columns.map fun column =>
    { column with
      key := table.keyOf column.name
      foreignKey := table.foreign.contains column.name }

/-- A defined column as it is described, without keys. -/
def liveColumn (name : String) (column : Column) : LiveColumn where
  name := name
  type := column.describedType
  nullable := column.nullable
  key := none
  foreignKey := false
  default := column.default.bind Value.plainText?
  extra := if column.autoIncrement then "auto_increment" else ""

/-! ## Operations -/

def hasColumn (table : PhysicalTable) (name : String) : Bool :=
  table.columns.any fun column => column.name == name

def replaceColumn (name : String) (replacement : LiveColumn) : List LiveColumn → List LiveColumn
  | [] => []
  | column :: rest =>
      if column.name = name then replacement :: rest
      else column :: replaceColumn name replacement rest

def applyOperation (table : PhysicalTable) : Operation → Except Refusal PhysicalTable
  | .dropPrimaryKey =>
      if table.primary.isEmpty then .error .noPrimaryKey
      else .ok { table with primary := [] }
  | .addPrimaryKey fields =>
      if table.primary.isEmpty then .ok { table with primary := fields }
      else .error .primaryKeyExists
  | .dropColumn name =>
      if table.hasColumn name then
        .ok { table with
          columns := table.columns.filter fun column => column.name != name
          primary := table.primary.filter (· != name)
          unique := table.unique.filter (· != name) }
      else .error (.noColumn name)
  | .addColumn name column =>
      if table.hasColumn name then .error (.duplicateColumn name)
      else .ok { table with columns := table.columns ++ [liveColumn name column] }
  | .changeColumn name column =>
      if table.hasColumn name then
        .ok { table with columns := replaceColumn name (liveColumn name column) table.columns }
      else .error (.noColumn name)
  | .dropUniqueIndex name =>
      if table.unique.contains name then
        .ok { table with unique := table.unique.filter (· != name) }
      else .error (.noIndex name)
  | .addUniqueIndex name =>
      if table.unique.contains name then .error (.duplicateIndex name)
      else .ok { table with unique := table.unique ++ [name] }
  | .dropForeignKey name =>
      if table.foreign.contains name then
        .ok { table with foreign := table.foreign.filter (· != name) }
      else .error (.noConstraint name)
  | .addForeignKey name _ =>
      if table.foreign.contains name then .error (.duplicateConstraint name)
      else .ok { table with foreign := table.foreign ++ [name] }

def applyOperations (table : PhysicalTable) : List Operation → Except Refusal PhysicalTable
  | [] => .ok table
  | operation :: rest => do
      let changed ← table.applyOperation operation
      changed.applyOperations rest

/-- The table after a plan. Only the finished plan has to leave every constraint
with its column. -/
def apply (table : PhysicalTable) : Plan → Except Refusal PhysicalTable
  | .create creation =>
      if table.columns.isEmpty then
        .ok {
          columns := creation.columns.map fun entry => liveColumn entry.1 entry.2
          primary := creation.primaryKey
          unique := creation.unique
          foreign := creation.foreignKeys.map (·.1) }
      else .error .tableExists
  | .alter _ operations => do
      let changed ← table.applyOperations operations
      match changed.foreign.find? fun name => !changed.hasColumn name with
      | some name => throw (.strandedConstraint name)
      | none => return changed

end PhysicalTable

end SchemaKeeper
