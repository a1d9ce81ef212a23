import SchemaKeeper.Column.Mapping
import SchemaKeeper.Field.Acceptance

/-!
Contract: table declarations that have been accepted.

A `Table` carries the proof that its declaration passed `check`, so everything
that works on tables may rely on it: names are unique, every field has a column,
every default is accepted and every reference matches its target.

Owns: the checks in their order, and the views of a table.
-/

namespace SchemaKeeper

namespace Table

/-! ## Checks -/

/-- Checks that a reference points to a field of the same shape in another table. -/
def checkReference (table name : String) (field : Field) (reference : Reference) :
    Except ConfigurationError Unit :=
  if reference.target.table = table then
    .error (.selfReference name table)
  else
    match reference.shape with
    | none => .error (.missingTarget name reference.target)
    | some shape =>
        if shape.kind ≠ field.kind then
          .error (.kindMismatch name field.kind reference.target shape.kind)
        else if !Binary64.sameOptional shape.maxSize field.maxSize then
          .error (.maxSizeMismatch name reference.target)
        else if !Binary64.sameOptional shape.minSize field.minSize then
          .error (.minSizeMismatch name reference.target)
        else
          .ok ()

/-- Checks one field, given the names declared before it. -/
def checkField (table : String) (seen : List String) (name : String) (field : Field) :
    Except ConfigurationError Unit := do
  if seen.contains name then
    throw (.duplicateField name table)
  if field.maxSize.isNone && field.kind ≠ .boolean then
    throw (.missingMaxSize name table)
  match Column.ofField field with
  | .error cause => throw (.unmappableField name table cause)
  | .ok _ => pure ()
  match field.default with
  | none => pure ()
  | some value =>
      match Field.checkValue table name field false value with
      | .error cause => throw (.invalidDefault name cause)
      | .ok _ => pure ()
  match field.reference with
  | none => pure ()
  | some reference => checkReference table name field reference

def checkFields (table : String) :
    List String → List (String × Field) → Except ConfigurationError Unit
  | _, [] => .ok ()
  | seen, (name, field) :: rest => do
      checkField table seen name field
      checkFields table (name :: seen) rest

def check (name : String) (fields : List (String × Field)) : Except ConfigurationError Unit :=
  if name = "" then
    .error .emptyTableName
  else if fields = [] then
    .error (.noFields name)
  else
    checkFields name [] fields

end Table

/-! ## Tables -/

/-- An accepted table declaration, with its fields in declaration order. -/
structure Table where
  name : String
  fields : List (String × Field)
  accepted : Table.check name fields = .ok ()

namespace Table

def build (name : String) (fields : List (String × Field)) : Except ConfigurationError Table :=
  match accepted : check name fields with
  | .ok () => .ok ⟨name, fields, accepted⟩
  | .error cause => .error cause

def field? (table : Table) (name : String) : Option Field :=
  table.fields.lookup name

def hasField (table : Table) (name : String) : Bool :=
  (table.field? name).isSome

/-- The names of the fields that a complete row has to give. -/
def requiredFields (table : Table) : List String :=
  (table.fields.filter fun entry => entry.2.isRequired).map (·.1)

def primaryKey (table : Table) : List String :=
  (table.fields.filter fun entry => entry.2.primaryKey).map (·.1)

/-- The names of the fields that carry a unique index. A primary key field needs
none. -/
def uniqueFields (table : Table) : List String :=
  (table.fields.filter fun entry => entry.2.unique && !entry.2.primaryKey).map (·.1)

/-- The names of the fields that rows are written to: auto-increment fields are
left to the server. -/
def writableFields (table : Table) : List String :=
  (table.fields.filter fun entry => !entry.2.autoIncrement).map (·.1)

def referenceTo (table : Table) (field : String)
    (onDelete onUpdate : Option ReferentialAction) : Reference :=
  ⟨⟨table.name, field, onDelete, onUpdate⟩, (table.field? field).map Field.shape⟩

def checkValue (table : Table) (name : String) (value : Value) : Except ValidationError Unit :=
  match table.field? name with
  | none => .error (.unknownField name table.name)
  | some field => field.checkValue table.name name (table.requiredFields.contains name) value

end Table

end SchemaKeeper
