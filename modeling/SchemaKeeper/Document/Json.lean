import SchemaKeeper.Document.Basic
import SchemaKeeper.Record.Json

/-!
Contract: the JSON notation of schema documents.

Structures are read as objects or as lists of their fields, names of choices as
strings or as one-member objects. Optional entries may be absent or null, flags
absent. Writing always uses objects, leaves out absent optional entries and writes
every flag.
-/

namespace SchemaKeeper

/-! ## Parts -/

/-- A size is any number. -/
def Binary64.ofJson? : Json → Option Binary64
  | .number literal => literal.toBinary64?
  | _ => none

/-- A size that is not finite cannot be written and becomes null. -/
def Binary64.toJson (size : Binary64) : Json :=
  (Value.float size).toJson

def FieldKind.ofJson? (document : Json) : Option FieldKind :=
  document.choice?.bind ofName?

def ReferentialAction.ofJson? (document : Json) : Option ReferentialAction :=
  document.choice?.bind ofName?

/-- A member that is left out when absent. -/
def Json.optionalMember {α : Type} (name : String) (write : α → Json) :
    Option α → List (String × Json)
  | none => []
  | some value => [(name, write value)]

def Json.required? {α : Type} (read : Json → Option α) (present : Option Json) : Option α :=
  present.bind read

def Json.listOf? {α : Type} (read : Json → Option α) (document : Json) : Option (List α) :=
  document.list?.bind fun items => items.mapM read

/-! ## References -/

namespace ReferenceDefinition

def entryNames : List String := ["table", "field", "onDelete", "onUpdate"]

def ofJson? (document : Json) : Option ReferenceDefinition :=
  match document.fields? entryNames with
  | some [table, field, onDelete, onUpdate] => do
      return {
        table := ← Json.required? Json.string? table
        field := ← Json.required? Json.string? field
        onDelete := ← Json.optional? ReferentialAction.ofJson? onDelete
        onUpdate := ← Json.optional? ReferentialAction.ofJson? onUpdate }
  | _ => none

def toJson (definition : ReferenceDefinition) : Json :=
  .ofMembers
    ([("table", .string definition.table), ("field", .string definition.field)] ++
      Json.optionalMember "onDelete" (fun action => .string action.name) definition.onDelete ++
      Json.optionalMember "onUpdate" (fun action => .string action.name) definition.onUpdate)

end ReferenceDefinition

/-! ## Fields -/

namespace FieldDefinition

def entryNames : List String :=
  ["name", "type", "maxSize", "minSize", "nullable", "unique", "primaryKey", "autoIncrement",
    "default", "foreignKey"]

/-- How many lists and objects stand around a default: the document, its tables, the
table, its fields and the field. -/
def defaultDepth : Nat := 5

def ofJson? (document : Json) : Option FieldDefinition :=
  match document.fields? entryNames with
  | some [name, kind, maxSize, minSize, nullable, unique, primaryKey, autoIncrement, default,
      reference] => do
      return {
        name := ← Json.required? Json.string? name
        kind := ← Json.required? FieldKind.ofJson? kind
        maxSize := ← Json.optional? Binary64.ofJson? maxSize
        minSize := ← Json.optional? Binary64.ofJson? minSize
        nullable := ← Json.withDefault? false Json.bool? nullable
        unique := ← Json.withDefault? false Json.bool? unique
        primaryKey := ← Json.withDefault? false Json.bool? primaryKey
        autoIncrement := ← Json.withDefault? false Json.bool? autoIncrement
        default := ← Json.optional? (Value.ofJson? (Json.maxDepth - defaultDepth)) default
        reference := ← Json.optional? ReferenceDefinition.ofJson? reference }
  | _ => none

def toJson (definition : FieldDefinition) : Json :=
  .ofMembers
    ([("name", .string definition.name), ("type", .string definition.kind.name)] ++
      Json.optionalMember "maxSize" Binary64.toJson definition.maxSize ++
      Json.optionalMember "minSize" Binary64.toJson definition.minSize ++
      [("nullable", .bool definition.nullable), ("unique", .bool definition.unique),
        ("primaryKey", .bool definition.primaryKey),
        ("autoIncrement", .bool definition.autoIncrement)] ++
      Json.optionalMember "default" Value.toJson definition.default ++
      Json.optionalMember "foreignKey" ReferenceDefinition.toJson definition.reference)

end FieldDefinition

/-! ## Tables and documents -/

namespace TableDefinition

def ofJson? (document : Json) : Option TableDefinition :=
  match document.fields? ["name", "fields"] with
  | some [name, fields] => do
      return {
        name := ← Json.required? Json.string? name
        fields := ← Json.required? (Json.listOf? FieldDefinition.ofJson?) fields }
  | _ => none

def toJson (definition : TableDefinition) : Json :=
  .ofMembers
    [("name", .string definition.name),
      ("fields", .list (definition.fields.map FieldDefinition.toJson))]

end TableDefinition

namespace Document

def ofJson? (document : Json) : Option Document :=
  match document.fields? ["tables"] with
  | some [tables] => do
      return ⟨← Json.required? (Json.listOf? TableDefinition.ofJson?) tables⟩
  | _ => none

def toJson (document : Document) : Json :=
  .ofMembers [("tables", .list (document.tables.map TableDefinition.toJson))]

/-- The document that a JSON text holds. -/
def ofJsonText (text : String) : Except ConfigurationError Document :=
  match (Json.read? text).bind ofJson? with
  | some document => .ok document
  | none => .error .invalidDocument

def toJsonText (document : Document) : String :=
  document.toJson.toText

end Document

end SchemaKeeper
