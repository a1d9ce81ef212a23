import SchemaKeeper.Field
import SchemaKeeper.Sql.Literal
import SchemaKeeper.Text.Case

/-!
Contract: the columns of a MariaDB table as statements define them.

Owns: column types and sizes, the column record, its definition in statements and
its type in table descriptions.

Does not own: which column a field needs (`Column.Mapping`).
-/

namespace SchemaKeeper

/-! ## Types -/

inductive ColumnType where
  | tinyInt
  | smallInt
  | mediumInt
  | int
  | bigInt
  | decimal
  | boolean
  | varchar
  | timestamp
deriving DecidableEq

namespace ColumnType

def all : List ColumnType :=
  [.tinyInt, .smallInt, .mediumInt, .int, .bigInt, .decimal, .boolean, .varchar, .timestamp]

def keyword : ColumnType → String
  | .tinyInt => "TINYINT"
  | .smallInt => "SMALLINT"
  | .mediumInt => "MEDIUMINT"
  | .int => "INT"
  | .bigInt => "BIGINT"
  | .decimal => "DECIMAL"
  | .boolean => "BOOLEAN"
  | .varchar => "VARCHAR"
  | .timestamp => "TIMESTAMP"

def ofKeyword? (text : String) : Option ColumnType :=
  all.find? fun columnType => columnType.keyword == text

def isInteger : ColumnType → Bool
  | .tinyInt | .smallInt | .mediumInt | .int | .bigInt => true
  | _ => false

end ColumnType

/-- The size argument of a column type: none, one number, or a precision and a
scale. -/
inductive TypeSize where
  | none
  | length (size : Nat)
  | decimal (precision scale : Nat)
deriving DecidableEq

def TypeSize.sql : TypeSize → Sql
  | .none => []
  | .length size => Sql.enclosed (Sql.natural size)
  | .decimal precision scale =>
      Sql.enclosed (Sql.natural precision ++ Sql.symbol "," ++ Sql.natural scale)

/-! ## Columns -/

structure Column where
  type : ColumnType
  size : TypeSize
  unsigned : Bool
  nullable : Bool
  primaryKey : Bool
  autoIncrement : Bool
  unique : Bool
  default : Option Value
  reference : Option ReferenceTarget
deriving DecidableEq

namespace Column

/-- The type as definitions write it, such as `INT(10) UNSIGNED`. -/
def typeSql (column : Column) : Sql :=
  let type := Sql.word column.type.keyword ++ column.size.sql
  if column.unsigned then Sql.spaced [type, Sql.word "UNSIGNED"] else type

/-- The type as table descriptions report it, such as `int(10) unsigned`. A boolean
is stored as `tinyint(1)`. -/
def describedType (column : Column) : String :=
  match column.type with
  | .boolean => "tinyint(1)"
  | _ => Text.lower column.typeSql.text

def definition (name : String) (column : Column) : Sql :=
  let notNull := if column.nullable then [] else [Sql.words ["NOT", "NULL"]]
  let default := match column.default with
    | none => []
    | some value => [Sql.word "DEFAULT", value.literal]
  let autoIncrement := if column.autoIncrement then [Sql.word "AUTO_INCREMENT"] else []
  Sql.spaced
    ([Sql.identifier name, column.typeSql] ++ notNull ++ default ++ autoIncrement)

end Column

end SchemaKeeper
