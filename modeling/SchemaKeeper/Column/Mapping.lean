import SchemaKeeper.Column.Basic
import SchemaKeeper.Error

/-!
Contract: the column that a field needs.

The type and size follow from the kind and the largest value: an integer type is
the narrowest one that the byte count allows, a decimal has the digits of its
maximum, a string its length and a timestamp its precision.

Owns: the choice and the errors when no column fits.
-/

namespace SchemaKeeper.Column

/-- The integer type with a number of bytes; five bytes and more need the widest. -/
def integerTypeOfBytes? : ByteCount → Option ColumnType
  | .count 0 | .count 1 => some .tinyInt
  | .count 2 => some .smallInt
  | .count 3 => some .mediumInt
  | .count 4 => some .int
  | .count 5 | .count 6 | .count 7 | .count 8 => some .bigInt
  | _ => none

/-- The integer type for a maximum, with the display width of the maximum. A signed
type needs twice the range. -/
def integerType (signed : Bool) (maxSize : Binary64) :
    Except MappingError (ColumnType × TypeSize) :=
  let bytes := byteCount (if signed then maxSize.timesNat 2 else maxSize)
  match integerTypeOfBytes? bytes with
  | some columnType => .ok (columnType, .length (digitCount maxSize))
  | none => .error (.integerTooWide maxSize bytes)

/-- The decimal type with as many places as the shortest text of the maximum has,
and as many digits in front of them as its whole part. -/
def decimalType (maxSize : Binary64) : Except MappingError (ColumnType × TypeSize) :=
  if !maxSize.isFinite || maxSize.atMost (.zero false) then
    .error (.decimalNotPositive maxSize)
  else
    let scale := maxSize.plainDecimal.fractionDigits
    let precision := digitCount (.ofInt maxSize.wholePart) + scale
    if precision > 65 ∨ scale > 38 then
      .error (.decimalTooWide precision scale)
    else
      .ok (.decimal, .decimal precision scale)

def isWholeBetween (number : Binary64) (least greatest : Nat) : Bool :=
  number.isWhole && (Binary64.ofInt least).atMost number && number.atMost (.ofInt greatest)

def stringType (maxSize : Binary64) : Except MappingError (ColumnType × TypeSize) :=
  if isWholeBetween maxSize 1 65535 then
    .ok (.varchar, .length maxSize.wholePart)
  else
    .error (.invalidLength maxSize)

/-- The timestamp type of a precision; whole seconds need no size. -/
def timestampType (maxSize : Binary64) : Except MappingError (ColumnType × TypeSize) :=
  if isWholeBetween maxSize 0 6 then
    .ok (.timestamp, if maxSize.wholePart = 0 then .none else .length maxSize.wholePart)
  else
    .error (.invalidPrecision maxSize)

def typeFor (kind : FieldKind) (maxSize : Option Binary64) :
    Except MappingError (ColumnType × TypeSize) :=
  match kind, maxSize with
  | .boolean, _ => .ok (.boolean, .none)
  | kind, none => .error (.missingMaxSize kind)
  | .signedInt, some size => integerType true size
  | .unsignedInt, some size => integerType false size
  | .decimal, some size => decimalType size
  | .string, some size => stringType size
  | .timestamp, some size => timestampType size

/-- The column of a field. Only integer columns carry the primary key flag
themselves. -/
def ofField (field : Field) : Except MappingError Column := do
  let (type, size) ← typeFor field.kind field.maxSize
  return {
    type := type
    size := size
    unsigned := field.kind = .unsignedInt
    nullable := field.nullable
    primaryKey := field.primaryKey && type.isInteger
    autoIncrement := field.autoIncrement
    unique := field.unique
    default := field.default
    reference := field.reference.map (·.target) }

end SchemaKeeper.Column
