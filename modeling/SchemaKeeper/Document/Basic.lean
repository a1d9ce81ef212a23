import SchemaKeeper.Table.Basic

/-!
Contract: schema documents, as lists of table definitions.

A document lists tables so that a reference only points to a table further up. If
several tables have the referenced name, the first one counts. Building resolves
all references of a table before the table itself is checked.

Owns: definitions and how a document becomes tables.

Does not own: the JSON notation (`Document.Json`).
-/

namespace SchemaKeeper

/-- A reference as a document states it. -/
structure ReferenceDefinition where
  table : String
  field : String
  onDelete : Option ReferentialAction
  onUpdate : Option ReferentialAction
deriving DecidableEq

structure FieldDefinition where
  name : String
  kind : FieldKind
  maxSize : Option Binary64
  minSize : Option Binary64
  nullable : Bool
  unique : Bool
  primaryKey : Bool
  autoIncrement : Bool
  default : Option Value
  reference : Option ReferenceDefinition
deriving DecidableEq

structure TableDefinition where
  name : String
  fields : List FieldDefinition
deriving DecidableEq

structure Document where
  tables : List TableDefinition
deriving DecidableEq

/-- A reference resolved among the tables built so far. A reference to the table
itself is left without a target for the table's own check to report. -/
def ReferenceDefinition.resolve (built : List Table) (table field : String)
    (definition : ReferenceDefinition) : Except ConfigurationError Reference :=
  if definition.table = table then
    .ok ⟨⟨definition.table, definition.field, definition.onDelete, definition.onUpdate⟩, none⟩
  else
    match built.find? fun candidate => candidate.name == definition.table with
    | none => .error (.forwardReference field table definition.table)
    | some target =>
        .ok (target.referenceTo definition.field definition.onDelete definition.onUpdate)

def FieldDefinition.toField (built : List Table) (table : String)
    (definition : FieldDefinition) : Except ConfigurationError Field := do
  let field : Field := {
    kind := definition.kind
    maxSize := definition.maxSize
    minSize := definition.minSize
    nullable := definition.nullable
    unique := definition.unique
    primaryKey := definition.primaryKey
    autoIncrement := definition.autoIncrement }
  let field := match definition.default with
    | none => field
    | some value => field.withDefault value
  match definition.reference with
  | none => return field
  | some stated =>
      let reference ← stated.resolve built table definition.name
      return { field with reference := some reference }

def TableDefinition.toFields (built : List Table) (table : String) :
    List FieldDefinition → Except ConfigurationError (List (String × Field))
  | [] => .ok []
  | definition :: rest => do
      let field ← definition.toField built table
      let fields ← toFields built table rest
      return (definition.name, field) :: fields

def TableDefinition.build (built : List Table) (definition : TableDefinition) :
    Except ConfigurationError Table := do
  let fields ← toFields built definition.name definition.fields
  Table.build definition.name fields

/-- Builds definitions in their order behind the tables built so far. -/
def Document.buildTables :
    List Table → List TableDefinition → Except ConfigurationError (List Table)
  | built, [] => .ok built
  | built, definition :: rest => do
      let table ← definition.build built
      buildTables (built ++ [table]) rest

def Document.build (document : Document) : Except ConfigurationError (List Table) :=
  buildTables [] document.tables

end SchemaKeeper
