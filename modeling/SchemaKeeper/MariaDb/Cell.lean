import SchemaKeeper.Calendar
import SchemaKeeper.Connection.Basic
import SchemaKeeper.Text.Utf8

/-!
Contract: cells of a MariaDB result as values.

The type of a column decides how its cells are read. Whole numbers beyond signed
64 bits become doubles, exact decimals become doubles, moments become texts in one
layout, and bytes become text. A cell that does not suit its column, a moment that
does not exist, and any cell of a TIMESTAMP column cannot be read.

Owns: column types, cells and their values.
-/

namespace SchemaKeeper.MariaDb

/-! ## Columns -/

inductive CellType where
  | boolean
  | signed
  | unsigned
  | single
  | double
  | decimal
  | timestamp
  | dateTime
  | date
  | time
  | binary
  | text
deriving DecidableEq

/-- The way in which cells of a column type are read. A type that is not listed is
read as text. -/
def CellType.ofName (name : String) : CellType :=
  if name = "BOOLEAN" then .boolean
  else if ["TINYINT", "SMALLINT", "MEDIUMINT", "INT", "BIGINT"].contains name then .signed
  else if " UNSIGNED".toList.isSuffixOf name.toList then .unsigned
  else if name = "FLOAT" then .single
  else if name = "DOUBLE" then .double
  else if name = "DECIMAL" then .decimal
  else if name = "TIMESTAMP" then .timestamp
  else if name = "DATETIME" then .dateTime
  else if name = "DATE" then .date
  else if name = "TIME" then .time
  else if ["BINARY", "VARBINARY", "TINYBLOB", "BLOB", "MEDIUMBLOB", "LONGBLOB"].contains name then
    .binary
  else .text

/-! ## Cells -/

/-- A cell as a server sends it. -/
inductive Cell where
  | null
  | integer (value : Int)
  | number (value : Binary64)
  | text (value : String)
  | bytes (value : List UInt8)
deriving DecidableEq

namespace Cell

def textOr (read : Option (List Char)) : Except ConnectionError Value :=
  match read with
  | some characters => .ok (.text (String.ofList characters))
  | none => .error .failed

/-- A time without the sign that durations may carry. -/
def unsignedTime : List Char → List Char
  | '-' :: rest => rest
  | written => written

def decodePresent : CellType → Cell → Except ConnectionError Value
  | .boolean, .integer value => .ok (.bool (value ≠ 0))
  | .signed, .integer value =>
      if -Int.pow 2 63 ≤ value ∧ value < Int.pow 2 63 then .ok (.int (.ofInt value)) else .error .failed
  | .unsigned, .integer value =>
      if value < 0 ∨ Int.pow 2 64 ≤ value then .error .failed
      else if value < Int.pow 2 63 then .ok (.int (.ofInt value))
      else .ok (.float (.ofInt value))
  | .single, .number value => .ok (.float value.toSingle)
  | .double, .number value => .ok (.float value)
  | .decimal, .text value =>
      match Binary64.ofText? value with
      | some decimal => .ok (.float decimal)
      | none => .error (.unexpectedResponse (.decimal value))
  | .dateTime, .text value => textOr ((DateTime.ofChars? value.toList).map DateTime.chars)
  | .date, .text value => textOr ((Date.ofChars? value.toList).map Date.chars)
  | .time, .text value =>
      textOr ((TimeOfDay.ofChars? (unsignedTime value.toList)).map TimeOfDay.chars)
  | .binary, .bytes value => .ok (.text (Text.ofBytes value))
  | .text, .text value => .ok (.text value)
  | _, _ => .error .failed

def decode (type : CellType) : Cell → Except ConnectionError Value
  | .null => .ok .null
  | cell => decodePresent type cell

end Cell

/-! ## Results -/

/-- The result of a query: named columns with their types, and rows of cells. -/
structure ResultTable where
  columns : List (String × CellType)
  rows : List (List Cell)

namespace ResultTable

/-- The record of a row. Of several columns with one name the last counts. -/
def decodeRow (columns : List (String × CellType)) (cells : List Cell) :
    Except ConnectionError Record := do
  let entries ← (columns.zip cells).mapM fun entry => do
    return (entry.1.1, ← Cell.decode entry.1.2 entry.2)
  return Record.ofList entries

/-- The records of all rows; none if one cell cannot be read. -/
def decode (result : ResultTable) : Except ConnectionError (List Record) :=
  result.rows.mapM (decodeRow result.columns)

end ResultTable

end SchemaKeeper.MariaDb
