import SchemaKeeper.Value

/-!
Contract: the declaration of one field of a table.

A field has a logical kind, bounds whose meaning depends on the kind, flags, an
optional default and an optional reference to a field of another table. A
declaration may be malformed; `Table` decides which ones it accepts.

Owns: kinds, referential actions, references and the field record.
-/

namespace SchemaKeeper

/-! ## Kinds -/

inductive FieldKind where
  | signedInt
  | unsignedInt
  | string
  | boolean
  | decimal
  | timestamp
deriving DecidableEq

namespace FieldKind

def all : List FieldKind :=
  [.signedInt, .unsignedInt, .string, .boolean, .decimal, .timestamp]

def name : FieldKind → String
  | .signedInt => "SINT"
  | .unsignedInt => "UINT"
  | .string => "STRING"
  | .boolean => "BOOLEAN"
  | .decimal => "DECIMAL"
  | .timestamp => "TIMESTAMP"

def ofName? (text : String) : Option FieldKind :=
  all.find? fun kind => kind.name == text

def isInteger : FieldKind → Bool
  | .signedInt | .unsignedInt => true
  | _ => false

end FieldKind

/-! ## References -/

/-- What happens to referencing rows when a referenced row goes or changes. -/
inductive ReferentialAction where
  | cascade
  | restrict
  | noAction
  | setNull
deriving DecidableEq

namespace ReferentialAction

def all : List ReferentialAction :=
  [.cascade, .restrict, .noAction, .setNull]

def keywords : ReferentialAction → List String
  | .cascade => ["CASCADE"]
  | .restrict => ["RESTRICT"]
  | .noAction => ["NO", "ACTION"]
  | .setNull => ["SET", "NULL"]

def name (action : ReferentialAction) : String :=
  " ".intercalate action.keywords

def ofName? (text : String) : Option ReferentialAction :=
  all.find? fun action => action.name == text

end ReferentialAction

/-- The field that a reference points to, and its actions. -/
structure ReferenceTarget where
  table : String
  field : String
  onDelete : Option ReferentialAction
  onUpdate : Option ReferentialAction
deriving DecidableEq

/-- What a referencing field must share with its target. -/
structure FieldShape where
  kind : FieldKind
  maxSize : Option Binary64
  minSize : Option Binary64
deriving DecidableEq

/-- A reference with the shape that its target had when it was declared; `none`
when the target did not exist. -/
structure Reference where
  target : ReferenceTarget
  shape : Option FieldShape
deriving DecidableEq

/-! ## Fields -/

/-- The declaration of a field. `maxSize` is the largest value of a number, the
length of a string and the precision of a timestamp's seconds; `minSize` is the
least value of a number. -/
structure Field where
  kind : FieldKind
  maxSize : Option Binary64 := none
  minSize : Option Binary64 := none
  nullable : Bool := false
  unique : Bool := false
  primaryKey : Bool := false
  autoIncrement : Bool := false
  default : Option Value := none
  reference : Option Reference := none
deriving DecidableEq

namespace Field

/-- The field with a default. A null default is the same as none. -/
def withDefault (field : Field) (value : Value) : Field :=
  { field with default := if value.isNull then none else some value }

/-- Whether a complete row has to give the field a value. -/
def isRequired (field : Field) : Bool :=
  !field.nullable && !field.autoIncrement && field.default.isNone

/-- The shape that references to the field have to share. -/
def shape (field : Field) : FieldShape :=
  ⟨field.kind, field.maxSize, field.minSize⟩

end Field

end SchemaKeeper
