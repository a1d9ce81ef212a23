import SchemaKeeper.Proofs.Compatibility
import SchemaKeeper.Proofs.IntegerBounds
import SchemaKeeper.Proofs.Widths

/-!
Contract: which minima a signed column stores.

The type of a signed column follows from the maximum alone. It is sized for the range above
zero, and the range below zero is as large. So a minimum is stored as long as it is no further
from zero than the maximum, and beyond that only where the type has room to spare. A value
within the bounds of its field may be below everything that its column stores.

Owns: the lower ends of signed columns, and accepted integers that are below them.

Does not own: the choice of the type (`ByteCounts`), or its upper end (`Capacity`).
-/

namespace SchemaKeeper

/-- The integer that a numeric value stands for. -/
def Value.StandsFor (value : Value) (integer : Int) : Prop :=
  match value with
  | .int word => word.toInt = integer
  | .float number => number.position = some (integer * Binary64.one)
  | _ => False

/-! ## Lower ends -/

namespace Column

/-- The column stores the integer or a lower one. -/
def ReachesDownTo (column : Column) (value : Int) : Prop :=
  ∃ stored ≤ value, column.Stores stored

/-- The bits of a type that is sized for a maximum reach the maximum on either side of zero. -/
theorem Narrowest.le_half {type : ColumnType} {bytes maximum : Nat}
    (narrowest : Narrowest type bytes (2 * maximum)) : (maximum : Int) ≤ 2 ^ (8 * bytes - 1) := by
  have widths := integerBytes_cases narrowest.width
  have bits : 2 ^ (8 * bytes) = 2 * 2 ^ (8 * bytes - 1) := by
    simp only [List.mem_cons, List.not_mem_nil, or_false] at widths
    rw [← Nat.pow_succ']
    congr 1
    omega
  have reaches := narrowest.reaches
  have half : maximum ≤ 2 ^ (8 * bytes - 1) := by omega
  exact_mod_cast half

section Signed

variable {column : Column} {bytes : Nat} (sign : column.unsigned = false)

include sign

theorem reachesDownTo_iff (width : column.type.integerBytes? = some bytes) (value : Int) :
    column.ReachesDownTo value ↔ -2 ^ (8 * bytes - 1) ≤ value := by
  have positive : (0 : Int) < 2 ^ (8 * bytes - 1) := Int.pow_pos (by decide)
  unfold ReachesDownTo
  simp only [stores_iff width, sign, integerRange, Bool.false_eq_true, if_false]
  constructor
  · intro reaches
    obtain ⟨stored, below, low, _⟩ := reaches
    omega
  · intro reached
    exact ⟨-2 ^ (8 * bytes - 1), reached, Int.le_refl _, by omega⟩

/-- Below the maximum that a type is sized for, only its lower end matters. -/
theorem stores_iff_reachesDownTo {maximum : Nat}
    (narrowest : Narrowest column.type bytes (2 * maximum)) {value : Int}
    (below : value < maximum) : column.Stores value ↔ column.ReachesDownTo value := by
  have half := narrowest.le_half
  rw [reachesDownTo_iff sign narrowest.width, stores_iff narrowest.width, sign]
  simp only [integerRange, Bool.false_eq_true, if_false]
  omega

end Signed

end Column

/-! ## Accepted integers -/

namespace Table

variable {table : Table} {name : String} {field : Field} {minimum : Int}

section Accepted

variable (listed : (name, field) ∈ table.fields) (signed : field.kind = .signedInt)
  (declared : field.minSize = some (.ofInt minimum))

include listed signed declared

/-- The number of an accepted value is not below the minimum. -/
private theorem not_below_minimum {value : Value} {number : Binary64}
    (accepted : table.checkValue name value = .ok ()) (read : value.number? = some number) :
    number.less (.ofInt minimum) = false := by
  have notNull : value ≠ .null := by
    intro null
    rw [null] at read
    contradiction
  have scalar : value.isList = false := by
    cases value with
    | list items => contradiction
    | _ => rfl
  rw [checkValue_of_listed listed, Field.checkValue_eq_ok_iff,
    Field.refusal?_scalar_eq_none_iff notNull scalar] at accepted
  have inBounds := accepted.2 (by rw [signed]; decide) number read
  exact ((field.boundRefusal?_eq_none_iff number).1 inBounds).2.1 _ declared

/-- The least integer is compared after rounding, which does not pass the integer below the end
of a type with fewer bits than a double. -/
private theorem le_of_accepted_int {word : Int64} {lowest : Int}
    (accepted : table.checkValue name (.int word) = .ok ())
    (small : minimum.natAbs ≤ 2 ^ 53) (exact : (lowest - 1).natAbs ≤ 2 ^ 53)
    (reached : lowest ≤ minimum) : lowest ≤ word.toInt := by
  have notBelow := not_below_minimum listed signed declared accepted rfl
  obtain ⟨place, placed, between⟩ :=
    Binary64.exists_position_ofInt (Field.natAbs_toInt_le word)
  rw [Binary64.less_of_positions placed (Binary64.position_ofInt_exact small),
    decide_eq_false_iff_not] at notBelow
  apply Int.not_lt.1
  intro below
  have onePos : (0 : Int) < Binary64.one := Int.natCast_pos.2 Binary64.positive_one
  have exactUnits : Binary64.IsExact ((lowest - 1) * Binary64.one).natAbs := by
    rw [Int.natAbs_mul, Int.natAbs_natCast]
    exact Binary64.isExact_whole exact
  have kept : place ≤ (lowest - 1) * Binary64.one :=
    (between _ exactUnits).1 (Int.mul_le_mul_of_nonneg_right (by omega) (Int.le_of_lt onePos))
  have apart : (lowest - 1) * Binary64.one < minimum * Binary64.one :=
    Int.mul_lt_mul_of_pos_right (by omega) onePos
  omega

private theorem le_of_accepted_float {number : Binary64} {integer : Int}
    (accepted : table.checkValue name (.float number) = .ok ())
    (small : minimum.natAbs ≤ 2 ^ 53)
    (placed : number.position = some (integer * Binary64.one)) : minimum ≤ integer := by
  have notBelow := not_below_minimum listed signed declared accepted rfl
  rw [Binary64.less_of_positions placed (Binary64.position_ofInt_exact small),
    decide_eq_false_iff_not, Int.not_lt] at notBelow
  exact Int.le_of_mul_le_mul_right notBelow (Int.natCast_pos.2 Binary64.positive_one)

/-- If the lower end of a type does not pass the minimum, no accepted integer is below it. -/
theorem low_le_of_accepted {value : Value} {integer : Int} {type : ColumnType} {bytes : Nat}
    (accepted : table.checkValue name value = .ok ()) (standsFor : value.StandsFor integer)
    (small : minimum.natAbs ≤ 2 ^ 53) (width : type.integerBytes? = some bytes)
    (reached : -2 ^ (8 * bytes - 1) ≤ minimum) : -2 ^ (8 * bytes - 1) ≤ integer := by
  cases value with
  | int word =>
      obtain rfl : word.toInt = integer := standsFor
      have widths := Column.integerBytes_cases width
      simp only [List.mem_cons, List.not_mem_nil, or_false] at widths
      rcases widths with rfl | rfl | rfl | rfl | rfl
      · exact le_of_accepted_int listed signed declared accepted small (by decide) reached
      · exact le_of_accepted_int listed signed declared accepted small (by decide) reached
      · exact le_of_accepted_int listed signed declared accepted small (by decide) reached
      · exact le_of_accepted_int listed signed declared accepted small (by decide) reached
      · -- The widest type stores every word.
        exact word.le_toInt
  | float number =>
      have notBelow := le_of_accepted_float listed signed declared accepted small standsFor
      omega
  | _ => contradiction

/-- The minimum itself is accepted. -/
private theorem minimum_accepted {maximum : Nat} (small : minimum.natAbs ≤ 2 ^ 53)
    (exact : maximum ≤ 2 ^ 53) (ordered : minimum ≤ maximum)
    (declaredMaximum : field.maxSize = some (.ofInt maximum)) :
    table.checkValue name (.int (.ofInt minimum)) = .ok () := by
  have word : (Int64.ofInt minimum).toInt = minimum :=
    Int64.toInt_ofInt_of_le (by omega) (by omega)
  have read : (Value.int (.ofInt minimum)).number? = some (.ofInt minimum) := by
    rw [Value.number?, word]
  have inBounds : field.boundRefusal? (.ofInt minimum) = none := by
    rw [Field.boundRefusal?_eq_none_iff]
    refine ⟨fun unsigned => ?_, fun least isLeast => ?_, fun greatest isGreatest => ?_⟩
    · rw [signed] at unsigned
      contradiction
    · obtain rfl := Option.some.inj (declared.symm.trans isLeast)
      exact Column.less_self _
    · obtain rfl := Option.some.inj (declaredMaximum.symm.trans isGreatest)
      rw [Binary64.less_of_positions
        (@Binary64.position_ofInt_exact (maximum : Int) (by omega))
        (Binary64.position_ofInt_exact small), decide_eq_false_iff_not, Int.not_lt]
      exact Int.mul_le_mul_of_nonneg_right ordered (Int.natCast_nonneg _)
  rw [checkValue_of_listed listed]
  exact Column.checkValue_int (by rw [signed]; rfl) read inBounds _ _ _

end Accepted

/-- No accepted integer is below what a signed column stores just when the minimum is not. -/
private theorem reachesDownTo_accepted_iff {column : Column} {bytes maximum : Nat}
    (listed : (name, field) ∈ table.fields) (signed : field.kind = .signedInt)
    (declared : field.minSize = some (.ofInt minimum))
    (declaredMaximum : field.maxSize = some (.ofInt maximum)) (small : minimum.natAbs ≤ 2 ^ 53)
    (exact : maximum ≤ 2 ^ 53) (ordered : minimum ≤ maximum) (sign : column.unsigned = false)
    (width : column.type.integerBytes? = some bytes) :
    (∀ value integer, table.checkValue name value = .ok () → value.StandsFor integer →
        column.ReachesDownTo integer) ↔ column.ReachesDownTo minimum := by
  constructor
  · intro all
    apply all (.int (.ofInt minimum)) minimum
    · exact minimum_accepted listed signed declared small exact ordered declaredMaximum
    · exact Int64.toInt_ofInt_of_le (by omega) (by omega)
  · intro reached value integer accepted standsFor
    rw [Column.reachesDownTo_iff sign width] at reached ⊢
    exact low_le_of_accepted listed signed declared accepted standsFor small width reached

/-- A signed field has a column of the narrowest type that is sized for its maximum. The minimum
is not below what the column stores, and then no accepted integer is, just when it is no further
from zero than half of the type's bits reach. A minimum that is no further from zero than the
maximum is always stored that way, and one that is less than the maximum is in the range of the
type just when it is not below it. -/
theorem minimum_stored_iff (table : Table) {name : String} {field : Field} {minimum : Int}
    {maximum : Nat} (listed : (name, field) ∈ table.fields) (signed : field.kind = .signedInt)
    (positive : 1 ≤ maximum) (exact : maximum ≤ 2 ^ 53) (small : minimum.natAbs ≤ 2 ^ 53)
    (ordered : minimum ≤ maximum) (declared : field.minSize = some (.ofInt minimum))
    (declaredMaximum : field.maxSize = some (.ofInt maximum)) :
    ∃ column bytes, Column.ofField field = .ok column ∧ column.unsigned = false ∧
      Column.Narrowest column.type bytes (2 * maximum) ∧
      (column.ReachesDownTo minimum ↔ -minimum ≤ 2 ^ (8 * bytes - 1)) ∧
      ((∀ value integer, table.checkValue name value = .ok () → value.StandsFor integer →
          column.ReachesDownTo integer) ↔ -minimum ≤ 2 ^ (8 * bytes - 1)) ∧
      (minimum < maximum → (column.Stores minimum ↔ -minimum ≤ 2 ^ (8 * bytes - 1))) ∧
      (-minimum ≤ maximum → -minimum ≤ 2 ^ (8 * bytes - 1)) := by
  have integer : field.kind.isInteger = true := by
    rw [signed]
    rfl
  obtain ⟨column, bytes, mapped, _, narrowest⟩ :=
    Column.exists_integerColumn integer positive exact declaredMaximum
  have sign : column.unsigned = false := by
    rw [(Column.typeFor_of_ofField mapped).2, signed]
    rfl
  have range : Column.spannedRange (decide (field.kind ≠ .unsignedInt)) maximum = 2 * maximum := by
    rw [signed]
    rfl
  rw [range] at narrowest
  have reaches : column.ReachesDownTo minimum ↔ -minimum ≤ 2 ^ (8 * bytes - 1) := by
    rw [Column.reachesDownTo_iff sign narrowest.width]
    omega
  refine ⟨column, bytes, mapped, sign, narrowest, reaches, ?_, ?_, ?_⟩
  · apply Iff.trans _ reaches
    exact reachesDownTo_accepted_iff listed signed declared declaredMaximum small exact ordered
      sign narrowest.width
  · intro below
    exact (Column.stores_iff_reachesDownTo sign narrowest below).trans reaches
  · intro near
    exact Int.le_trans near narrowest.le_half

def temperature : Field :=
  { kind := .signedInt, maxSize := some (.ofInt 200), minSize := some (.ofInt (-1000)) }

def weather : Table where
  name := "weather"
  fields := [("temperature", temperature)]
  accepted := by decide +kernel

/-- The type for two hundred tenths has room to spare for the lowest temperature. -/
theorem lowest_temperature_stored :
    ("temperature", temperature) ∈ weather.fields ∧ temperature.kind = .signedInt ∧
      ∃ column, Column.ofField temperature = .ok column ∧ column.Stores (-1000) ∧
        ∀ value integer, weather.checkValue "temperature" value = .ok () →
          value.StandsFor integer → column.ReachesDownTo integer := by
  have listed : ("temperature", temperature) ∈ weather.fields := List.mem_singleton.2 rfl
  have declared : temperature.minSize = some (.ofInt (-1000)) := rfl
  have declaredMaximum : temperature.maxSize = some (.ofInt (200 : Nat)) := rfl
  obtain ⟨column, bytes, mapped, _, narrowest, _, accepted, stores, _⟩ :=
    minimum_stored_iff weather listed rfl (by decide) (by decide) (by decide) (by decide)
      declared declaredMaximum
  have spare : -(-1000) ≤ (2 : Int) ^ (8 * bytes - 1) := by
    have reaches := narrowest.reaches
    have widths := Column.integerBytes_cases narrowest.width
    simp only [List.mem_cons, List.not_mem_nil, or_false] at widths
    rcases widths with rfl | rfl | rfl | rfl | rfl
    · exact absurd reaches (by decide)
    all_goals decide
  exact ⟨listed, rfl, column, mapped, (stores (by decide)).2 spare, accepted.2 spare⟩

/-- Heights of sites, with mines far below sea level in a land without hills. -/
def elevation : Field :=
  { kind := .signedInt, maxSize := some (.ofInt 100), minSize := some (.ofInt (-1000)) }

def sites : Table where
  name := "sites"
  fields := [("elevation", elevation)]
  accepted := by decide +kernel

/-- The lowest site is accepted, and below everything that its column stores. -/
theorem lowest_site_not_stored :
    ("elevation", elevation) ∈ sites.fields ∧ elevation.kind = .signedInt ∧
      elevation.minSize = some (.ofInt (-1000)) ∧ elevation.maxSize = some (.ofInt 100) ∧
      sites.checkValue "elevation" (.int (-1000)) = .ok () ∧
      ∃ column, Column.ofField elevation = .ok column ∧ column.type = .tinyInt ∧
        column.unsigned = false ∧ ¬column.Stores (-1000) ∧ ¬column.ReachesDownTo (-1000) := by
  have mapped : Column.ofField elevation =
      .ok ⟨.tinyInt, .length 3, false, false, false, false, false, none, none⟩ := by
    decide +kernel
  refine ⟨List.mem_singleton.2 rfl, rfl, rfl, rfl, by decide +kernel, _, mapped, rfl, rfl,
    by decide, ?_⟩
  rw [Column.reachesDownTo_iff rfl rfl]
  decide

end Table

end SchemaKeeper
