import SchemaKeeper.Column.Width
import SchemaKeeper.Field
import SchemaKeeper.Filter.Basic

/-!
Contract: why a declaration, a record, a filter or a live table is refused.

Every refusal is a cause with the names and values it is about; its wording is a
function of the cause. None of them involves a database.

Owns: the causes and their messages.
-/

namespace SchemaKeeper

/-! ## Declarations -/

inductive MappingError where
  | missingMaxSize (kind : FieldKind)
  | integerTooWide (maxSize : Binary64) (bytes : Column.ByteCount)
  | decimalNotPositive (maxSize : Binary64)
  | decimalTooWide (precision scale : Nat)
  | invalidLength (maxSize : Binary64)
  | invalidPrecision (maxSize : Binary64)
deriving DecidableEq

def MappingError.message : MappingError → String
  | .missingMaxSize kind => kind.name ++ " field requires a maxSize"
  | .integerTooWide maxSize bytes =>
      "invalid size for integer field: maxSize " ++ maxSize.toText ++ " needs " ++ bytes.text ++
        " bytes"
  | .decimalNotPositive maxSize => "invalid size for decimal field: " ++ maxSize.toText
  | .decimalTooWide precision scale =>
      "invalid size for decimal field: DECIMAL(" ++ toString precision ++ "," ++ toString scale ++
        ") exceeds the supported range"
  | .invalidLength maxSize => "invalid length for string field: " ++ maxSize.toText
  | .invalidPrecision maxSize =>
      "invalid fractional seconds precision for timestamp field: " ++ maxSize.toText

/-! ## Values and records -/

/-- Why a field does not accept a value. -/
inductive ValueRefusal where
  | null
  | list
  | notInteger
  | notNumber
  | notBoolean
  | notString
  | negative
  | below (minSize : Binary64)
  | above (maxSize : Binary64)
deriving DecidableEq

def ValueRefusal.message : ValueRefusal → String
  | .null => "cannot be null"
  | .list => "does not accept a list"
  | .notInteger => "has to be an integer"
  | .notNumber => "has to be a number"
  | .notBoolean => "has to be a boolean"
  | .notString => "has to be a string"
  | .negative => "has to be unsigned"
  | .below minSize => "has to be at least " ++ minSize.toText
  | .above maxSize => "has to be at most " ++ maxSize.toText

/-- Why a record or a request on rows is refused. -/
inductive ValidationError where
  | noFields (table : String)
  | missingRequired (table : String) (fields : List String)
  | unknownField (field table : String)
  | refusedValue (field table : String) (refusal : ValueRefusal) (value : Value)
  | zeroLimit
  | nothingSelected (table : String)
  | nothingWritable (table : String)
deriving DecidableEq

def ValidationError.message : ValidationError → String
  | .noFields table => "no fields given for table " ++ table
  | .missingRequired table fields =>
      "missing required fields of table " ++ table ++ ": " ++ ", ".intercalate fields
  | .unknownField field table => "field " ++ field ++ " doesn't exist in table " ++ table
  | .refusedValue field table refusal value =>
      "field " ++ field ++ " of table " ++ table ++ " " ++ refusal.message ++ ", got " ++
        value.describe
  | .zeroLimit => "limit has to be at least 1"
  | .nothingSelected table => "no fields selected from table " ++ table
  | .nothingWritable table => "no writable fields given for table " ++ table

/-! ## Tables and documents -/

/-- Why a table or a document is refused. -/
inductive ConfigurationError where
  | emptyTableName
  | noFields (table : String)
  | duplicateField (field table : String)
  | missingMaxSize (field table : String)
  | unmappableField (field table : String) (cause : MappingError)
  | unmappable (cause : MappingError)
  | invalidDefault (field : String) (cause : ValidationError)
  | selfReference (field table : String)
  | missingTarget (field : String) (target : ReferenceTarget)
  | kindMismatch (field : String) (kind : FieldKind) (target : ReferenceTarget)
      (targetKind : FieldKind)
  | maxSizeMismatch (field : String) (target : ReferenceTarget)
  | minSizeMismatch (field : String) (target : ReferenceTarget)
  | forwardReference (field table target : String)
  | invalidDocument
deriving DecidableEq

def ReferenceTarget.qualifiedName (target : ReferenceTarget) : String :=
  target.table ++ "." ++ target.field

def ConfigurationError.message : ConfigurationError → String
  | .emptyTableName => "table name must not be empty"
  | .noFields table => "table " ++ table ++ " must declare at least one field"
  | .duplicateField field table =>
      "field " ++ field ++ " is declared twice in table " ++ table
  | .missingMaxSize field table =>
      "field " ++ field ++ " of table " ++ table ++
        " must declare a maxSize (only boolean fields may omit it)"
  | .unmappableField field table cause =>
      "field " ++ field ++ " of table " ++ table ++ ": " ++ cause.message
  | .unmappable cause => cause.message
  | .invalidDefault field cause =>
      "invalid default for field " ++ field ++ ": validation error: " ++ cause.message
  | .selfReference field table =>
      "foreign key of field " ++ field ++ " references its own table " ++ table ++
        " (circular model dependency)"
  | .missingTarget field target =>
      "field " ++ field ++ " has a foreign key to " ++ target.qualifiedName ++
        ", which doesn't exist"
  | .kindMismatch field kind target targetKind =>
      "foreign key field " ++ field ++ " is " ++ kind.name ++ " but " ++ target.qualifiedName ++
        " is " ++ targetKind.name
  | .maxSizeMismatch field target =>
      "foreign key field " ++ field ++ " has a different maxSize than " ++ target.qualifiedName
  | .minSizeMismatch field target =>
      "foreign key field " ++ field ++ " has a different minSize than " ++ target.qualifiedName
  | .forwardReference field table target =>
      "field " ++ field ++ " of table " ++ table ++ " references table " ++ target ++
        ", which is not defined before it"
  | .invalidDocument => "invalid schema document"

/-! ## Filters -/

inductive FilterError where
  | unsupportedOperator (text : String)
  | invalidCombinator (text : String)
  | emptyGroup (combinator : Combinator)
  | unknownField (field table : String)
  | noListToChooseFrom (field : String)
  | notTwoBounds (field : String)
  | listOperand (operator : Operator) (field : String)
deriving DecidableEq

def FilterError.message : FilterError → String
  | .unsupportedOperator text => "unsupported operator: " ++ text
  | .invalidCombinator text =>
      "invalid combinator " ++ Text.quoted text ++ ", expected AND or OR"
  | .emptyGroup combinator => combinator.sql ++ " group must contain at least one filter"
  | .unknownField field table => "field " ++ field ++ " doesn't exist in table " ++ table
  | .noListToChooseFrom field => "IN on field " ++ field ++ " requires a non-empty list"
  | .notTwoBounds field => "BETWEEN on field " ++ field ++ " requires exactly two values"
  | .listOperand operator field =>
      "operator " ++ operator.sql ++ " on field " ++ field ++ " does not accept a list"

/-! ## All refusals -/

/-- A refusal before any statement is sent. -/
inductive Error where
  | configuration (cause : ConfigurationError)
  | validation (cause : ValidationError)
  | filter (cause : FilterError)
  | untypedColumn (table column : String)
deriving DecidableEq

/-- The wording of a refusal, with the area it belongs to in front. -/
def Error.message : Error → String
  | .configuration cause => "configuration error: " ++ cause.message
  | .validation cause => "validation error: " ++ cause.message
  | .filter cause => "filter error: " ++ cause.message
  | .untypedColumn table column =>
      "schema error: live column " ++ table ++ "." ++ column ++ " has no type"

end SchemaKeeper
