import SchemaKeeper.Binary64.Text
import SchemaKeeper.Live
import SchemaKeeper.Plan.Basic

/-!
Contract: the plan that brings an existing table in line with its declaration.

Operations come in phases: primary key, dropped columns, added columns, changed
columns, dropped and added unique indexes, dropped and added references. Columns
are matched by name only. A constraint that stays is made anew, since its target
may have changed.

Owns: the comparison of a declaration with a description, phase by phase.
-/

namespace SchemaKeeper

namespace Plan

/-! ## Comparisons -/

def sameMembers (left right : List String) : Bool :=
  left.all right.contains && right.all left.contains

/-- Whether a declared default agrees with a described one: both absent, equal as
numbers if both read as numbers, or equal up to case. -/
def defaultsAgree (declared : Option Value) (described : Option String) : Bool :=
  match declared.bind Value.plainText?, described with
  | none, none => true
  | some here, some there =>
      match Binary64.ofText? here, Binary64.ofText? there with
      | some left, some right => left.sameNumber right
      | _, _ => Text.sameIgnoringCase here there
  | _, _ => false

def columnAgrees (declared : Column) (described : LiveColumn) : Bool :=
  Text.sameIgnoringCase declared.describedType (Text.trim described.type) &&
    declared.nullable == described.nullable &&
    declared.autoIncrement == described.isAutoIncrement &&
    defaultsAgree declared.default described.default

def keyedNames (kind : KeyKind) (live : List LiveColumn) : List String :=
  (live.filter fun column => column.key = some kind).map (·.name)

/-- The description of a column; the last one if its name is repeated. -/
def describedColumn? (live : List LiveColumn) (name : String) : Option LiveColumn :=
  live.reverse.find? fun column => column.name == name

/-! ## Phases -/

/-- Replaces the primary key if its members differ. -/
def primaryKeyPhase (declared described : List String) : List Operation :=
  if sameMembers declared described then
    []
  else
    (if described.isEmpty then [] else [.dropPrimaryKey]) ++
      (if declared.isEmpty then [] else [.addPrimaryKey declared])

def droppedColumns (columns : List (String × Column)) (live : List LiveColumn) : List String :=
  (live.map (·.name)).filter fun name => !(columns.map (·.1)).contains name

def addPhase (columns : List (String × Column)) (live : List LiveColumn) : List Operation :=
  (columns.filter fun entry => (describedColumn? live entry.1).isNone).map fun entry =>
    .addColumn entry.1 entry.2

def changePhase (columns : List (String × Column)) (live : List LiveColumn) : List Operation :=
  (columns.filter fun entry =>
    (describedColumn? live entry.1).any fun described => !columnAgrees entry.2 described).map
      fun entry => .changeColumn entry.1 entry.2

/-- Drops the unique indexes that are not declared, except those that go with their
column, and adds the missing ones. -/
def uniquePhase (declared described dropped : List String) : List Operation :=
  (described.filter fun name => !declared.contains name && !dropped.contains name).map
      .dropUniqueIndex ++
    (declared.filter fun name => !described.contains name).map .addUniqueIndex

/-- Drops every described constraint, those that go first, and adds every declared
reference, new ones first. -/
def foreignKeyPhase (declared : List (String × ReferenceTarget)) (described : List String) :
    List Operation :=
  let isDeclared := fun name => (declared.map (·.1)).contains name
  let isDescribed := fun (entry : String × ReferenceTarget) => described.contains entry.1
  let removed := described.filter fun name => !isDeclared name
  let kept := described.filter isDeclared
  let added := declared.filter fun entry => !isDescribed entry
  let readded := declared.filter isDescribed
  (removed ++ kept).map .dropForeignKey ++
    (added ++ readded).map fun entry => .addForeignKey entry.1 entry.2

end Plan

/-! ## Plans -/

namespace Table

/-- The operations between a description and a declaration with the given columns. -/
def operationsFor (table : Table) (columns : List (String × Column)) (live : List LiveColumn) :
    List Operation :=
  let dropped := Plan.droppedColumns columns live
  Plan.primaryKeyPhase table.primaryKey (Plan.keyedNames .primary live) ++
    dropped.map .dropColumn ++
    Plan.addPhase columns live ++
    Plan.changePhase columns live ++
    Plan.uniquePhase table.uniqueFields (Plan.keyedNames .unique live) dropped ++
    Plan.foreignKeyPhase (Column.references columns)
      ((live.filter (·.foreignKey)).map (·.name))

/-- The plan for a described table; without columns the table does not exist. A
described column without a type cannot be compared. -/
def planFor (table : Table) (live : List LiveColumn) : Except Error Plan := do
  if live.isEmpty then
    return .create (← table.creation)
  match live.find? fun column => Text.trim column.type == "" with
  | some column => throw (.untypedColumn table.name column.name)
  | none => pure ()
  let columns ← table.columns
  return .alter table.name (table.operationsFor columns live)

end Table

end SchemaKeeper
