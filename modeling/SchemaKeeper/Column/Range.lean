import Mathlib.Algebra.Group.Int.Defs
import SchemaKeeper.Column.Basic

/-!
Contract: the integers that a MariaDB column stores.

An integer type has a fixed number of bytes. Unsigned columns use all of its bits for the
number, signed ones keep one bit for the sign.

Owns: the range of an integer column.

Does not own: which column a field gets (`Column.Mapping`).
-/

namespace SchemaKeeper

def ColumnType.integerBytes? : ColumnType → Option Nat
  | .tinyInt => some 1
  | .smallInt => some 2
  | .mediumInt => some 3
  | .int => some 4
  | .bigInt => some 8
  | _ => none

namespace Column

def integerRange (unsigned : Bool) (bytes : Nat) : Int × Int :=
  if unsigned then (0, 2 ^ (8 * bytes) - 1)
  else (-2 ^ (8 * bytes - 1), 2 ^ (8 * bytes - 1) - 1)

/-- The column is an integer column with the value in its range. -/
def Stores (column : Column) (value : Int) : Prop :=
  ∃ bytes ∈ column.type.integerBytes?,
    (integerRange column.unsigned bytes).1 ≤ value ∧
      value ≤ (integerRange column.unsigned bytes).2

instance (column : Column) (value : Int) : Decidable (column.Stores value) := by
  unfold Stores
  infer_instance

theorem stores_iff {column : Column} {bytes : Nat}
    (width : column.type.integerBytes? = some bytes) (value : Int) :
    column.Stores value ↔
      (integerRange column.unsigned bytes).1 ≤ value ∧
        value ≤ (integerRange column.unsigned bytes).2 := by
  simp [Stores, width]

end Column

end SchemaKeeper
