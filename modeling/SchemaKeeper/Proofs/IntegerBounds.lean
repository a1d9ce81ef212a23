import SchemaKeeper.Proofs.Refusals
import SchemaKeeper.Proofs.Rounding

/-!
Contract: which integers a numeric field takes.

Bounds are doubles, and an integer is compared with them after it was rounded to one. Rounding
does not pass a bound, so every integer within the bounds is taken. One beyond a bound is taken
too if that bound is the very double it is rounded to, and no other one is.

Owns: the bounds of a field as exact numbers, and the integers that are taken beyond them.

Does not own: which integers a column stores (`Capacity`).
-/

namespace SchemaKeeper

/-! ## Bounds and integers -/

namespace Binary64

/-- The bound is no larger than the integer, as exact numbers. `nan` bounds nothing. -/
def BoundsBelow (bound : Binary64) (value : Int) : Prop :=
  ∀ units ∈ bound.position, units ≤ value * one

/-- The bound is no smaller than the integer, as exact numbers. `nan` bounds nothing. -/
def BoundsAbove (bound : Binary64) (value : Int) : Prop :=
  ∀ units ∈ bound.position, value * one ≤ units

/-- The integer is rounded to the number of the bound. -/
def IsNearest (bound : Binary64) (value : Int) : Prop :=
  (ofInt value).sameNumber bound = true

/-- A number that no exact number separates from `exact` is below a bound just when `exact` is,
unless it is the number of the bound itself. Above a bound it is the same. -/
private theorem less_eq_false_iff_of_between {number bound : Binary64} {place exact : Int}
    (placed : number.position = some place)
    (between : ∀ units : Int, IsExact units.natAbs →
      (exact ≤ units → place ≤ units) ∧ (units ≤ exact → units ≤ place)) :
    (number.less bound = false ↔
        (∀ units ∈ bound.position, units ≤ exact) ∨ number.sameNumber bound = true) ∧
      (bound.less number = false ↔
        (∀ units ∈ bound.position, exact ≤ units) ∨ number.sameNumber bound = true) := by
  unfold less sameNumber
  rw [placed]
  cases position : bound.position with
  | none => simp
  | some units =>
      obtain ⟨notAbove, notBelow⟩ := between units (isExact_position position)
      simp only [Option.mem_def, Option.some.injEq, forall_eq', decide_eq_false_iff_not,
        beq_iff_eq]
      omega

section Integers

variable {bound : Binary64} {value : Int}

theorem ofInt_less_eq_false_iff (bounded : value.natAbs ≤ wholeLimit) :
    (ofInt value).less bound = false ↔ bound.BoundsBelow value ∨ bound.IsNearest value := by
  obtain ⟨place, placed, between⟩ := exists_position_ofInt bounded
  exact (less_eq_false_iff_of_between placed between).1

theorem less_ofInt_eq_false_iff (bounded : value.natAbs ≤ wholeLimit) :
    bound.less (ofInt value) = false ↔ bound.BoundsAbove value ∨ bound.IsNearest value := by
  obtain ⟨place, placed, between⟩ := exists_position_ofInt bounded
  exact (less_eq_false_iff_of_between placed between).2

/-- Rounding keeps the sign. -/
theorem ofInt_less_zero_eq_false_iff (bounded : value.natAbs ≤ wholeLimit) :
    (ofInt value).less (.zero false) = false ↔ 0 ≤ value := by
  obtain ⟨place, placed, between⟩ := exists_position_ofInt bounded
  have onePos : (0 : Int) < one := Int.natCast_pos.2 positive_one
  have minusOneExact : IsExact (-(one : Int)).natAbs := by
    rw [Int.natAbs_neg, Int.natAbs_natCast, ← Nat.one_mul one]
    exact isExact_whole (by decide)
  rw [less_of_positions placed (by decide : (zero false).position = some 0),
    decide_eq_false_iff_not, Int.not_lt]
  constructor
  · intro placeNatural
    by_contra negative
    have below : value * one ≤ -one := by
      rw [← Int.neg_one_mul]
      exact Int.mul_le_mul_of_nonneg_right (by omega) (Int.le_of_lt onePos)
    have kept := (between _ minusOneExact).1 below
    omega
  · intro natural
    exact (between 0 ⟨0, 0, by decide, rfl⟩).2 (Int.mul_nonneg natural (Int.le_of_lt onePos))

theorem isFinite_ofInt (bounded : value.natAbs ≤ wholeLimit) : (ofInt value).isFinite = true := by
  obtain ⟨_, _, _, rounded, _⟩ :=
    ofUnits_eq_finite (decide (value < 0)) Nat.one_pos (roundedUnits_whole_lt bounded)
  rw [ofInt, ofRatio, rounded]
  rfl

/-- A small integer as a bound is that integer. -/
theorem boundsBelow_ofInt_iff {least : Int} (small : least.natAbs ≤ 2 ^ 53) :
    (ofInt least).BoundsBelow value ↔ least ≤ value := by
  have onePos : (0 : Int) < one := Int.natCast_pos.2 positive_one
  unfold BoundsBelow
  rw [position_ofInt_exact small]
  simp only [Option.mem_def, Option.some.injEq, forall_eq']
  exact Int.mul_le_mul_right onePos

theorem boundsAbove_ofInt_iff {greatest : Int} (small : greatest.natAbs ≤ 2 ^ 53) :
    (ofInt greatest).BoundsAbove value ↔ value ≤ greatest := by
  have onePos : (0 : Int) < one := Int.natCast_pos.2 positive_one
  unfold BoundsAbove
  rw [position_ofInt_exact small]
  simp only [Option.mem_def, Option.some.injEq, forall_eq']
  exact Int.mul_le_mul_right onePos

end Integers

end Binary64

/-! ## Fields -/

namespace Field

/-- The integer lies within the bounds of the field, as exact numbers. -/
structure Contains (field : Field) (value : Int) : Prop where
  natural : field.kind = .unsignedInt → 0 ≤ value
  low : ∀ least ∈ field.minSize, least.BoundsBelow value
  high : ∀ greatest ∈ field.maxSize, greatest.BoundsAbove value

/-- The integer lies within the bounds of the field or is rounded to the one that it passes. -/
structure ContainsRounded (field : Field) (value : Int) : Prop where
  natural : field.kind = .unsignedInt → 0 ≤ value
  low : ∀ least ∈ field.minSize, least.BoundsBelow value ∨ least.IsNearest value
  high : ∀ greatest ∈ field.maxSize, greatest.BoundsAbove value ∨ greatest.IsNearest value

section Numbers

variable {field : Field}

theorem natAbs_toInt_le (value : Int64) : value.toInt.natAbs ≤ Binary64.wholeLimit := by
  have least := value.le_toInt
  have greatest := value.toInt_lt
  have small : value.toInt.natAbs ≤ 2 ^ 63 := by omega
  exact Binary64.le_wholeLimit small (by decide)

/-- For an integer only the bounds of a numeric field count. -/
theorem refusal?_int
    (numeric : field.kind = .signedInt ∨ field.kind = .unsignedInt ∨ field.kind = .decimal)
    (required : Bool) (value : Int64) :
    field.refusal? required (.int value) = field.boundRefusal? (.ofInt value.toInt) := by
  have suits : kindRefusal? field.kind (.int value) = none := by
    rcases numeric with signed | unsigned | decimal
    · rw [signed]
      rfl
    · rw [unsigned]
      rfl
    · rw [decimal]
      simp only [kindRefusal?, Value.number?, Binary64.isFinite_ofInt (natAbs_toInt_le value),
        if_true]
  have notTimestamp : field.kind ≠ .timestamp := by
    rcases numeric with signed | unsigned | decimal <;> simp [*]
  simp only [refusal?, suits, if_neg notTimestamp, Value.number?, Option.bind_some]

/-- An integer is refused just when it lies beyond a bound that it is not rounded to. -/
theorem refusal?_int_eq_none_iff
    (numeric : field.kind = .signedInt ∨ field.kind = .unsignedInt ∨ field.kind = .decimal)
    (required : Bool) (value : Int64) :
    field.refusal? required (.int value) = none ↔ field.ContainsRounded value.toInt := by
  have bounded := natAbs_toInt_le value
  rw [refusal?_int numeric, boundRefusal?_eq_none_iff]
  simp only [Binary64.ofInt_less_zero_eq_false_iff bounded,
    Binary64.ofInt_less_eq_false_iff bounded, Binary64.less_ofInt_eq_false_iff bounded]
  exact ⟨fun parts => ⟨parts.1, parts.2.1, parts.2.2⟩,
    fun contains => ⟨contains.natural, contains.low, contains.high⟩⟩

end Numbers

section Rounding

variable {field : Field} {value : Int}

theorem Contains.containsRounded (contains : field.Contains value) :
    field.ContainsRounded value where
  natural := contains.natural
  low least declared := .inl (contains.low least declared)
  high greatest declared := .inl (contains.high greatest declared)

/-- Rounding only counts for an integer that is rounded to a bound it differs from. -/
theorem containsRounded_iff
    (faithful : ∀ bound, bound ∈ field.minSize ∨ bound ∈ field.maxSize →
      bound.IsNearest value → bound.position = some (value * Binary64.one)) :
    field.ContainsRounded value ↔ field.Contains value := by
  refine ⟨fun contains => ⟨contains.natural, ?_, ?_⟩, Contains.containsRounded⟩
  · intro least declared
    refine (contains.low least declared).elim id fun nearest units placed => ?_
    rw [faithful least (.inl declared) nearest] at placed
    exact Int.le_of_eq (Option.some.inj placed).symm
  · intro greatest declared
    refine (contains.high greatest declared).elim id fun nearest units placed => ?_
    rw [faithful greatest (.inr declared) nearest] at placed
    exact Int.le_of_eq (Option.some.inj placed)

end Rounding

/-- Up to `2 ^ 53` on either side of zero rounding never counts. -/
theorem containsRounded_iff_of_small {field : Field} {value : Int}
    (small : value.natAbs ≤ 2 ^ 53) : field.ContainsRounded value ↔ field.Contains value := by
  refine containsRounded_iff fun bound _ nearest => ?_
  obtain ⟨units, placed, boundPlaced⟩ := Binary64.exists_position_of_sameNumber nearest
  rw [boundPlaced, ← placed, Binary64.position_ofInt_exact small]

end Field

/-! ## Tables -/

/-- A numeric field takes the integers within its bounds and those beyond a bound that are
rounded to it. So the check compares exact numbers unless the nearest double of the integer is
a bound that differs from the integer, which takes an integer beyond `2 ^ 53`. -/
theorem Table.checkValue_int_iff (table : Table) {name : String} {field : Field}
    (listed : (name, field) ∈ table.fields)
    (numeric : field.kind = .signedInt ∨ field.kind = .unsignedInt ∨ field.kind = .decimal)
    (value : Int64) :
    (table.checkValue name (.int value) = .ok () ↔ field.ContainsRounded value.toInt) ∧
      (field.Contains value.toInt → table.checkValue name (.int value) = .ok ()) ∧
      ((∀ bound, bound ∈ field.minSize ∨ bound ∈ field.maxSize →
          bound.IsNearest value.toInt → bound.position = some (value.toInt * Binary64.one)) →
        (table.checkValue name (.int value) = .ok () ↔ field.Contains value.toInt)) ∧
      (value.toInt.natAbs ≤ 2 ^ 53 →
        (table.checkValue name (.int value) = .ok () ↔ field.Contains value.toInt)) := by
  have taken : table.checkValue name (.int value) = .ok () ↔
      field.ContainsRounded value.toInt := by
    rw [Table.checkValue_of_listed listed, Field.checkValue_eq_ok_iff,
      Field.refusal?_int_eq_none_iff numeric]
  exact ⟨taken, fun contains => taken.2 contains.containsRounded,
    fun faithful => taken.trans (Field.containsRounded_iff faithful),
    fun small => taken.trans (Field.containsRounded_iff_of_small small)⟩

/-- Readings on either side of zero, up to where doubles lose the odd numbers. -/
def reading : Field :=
  { kind := .signedInt
    maxSize := some (.ofInt 9007199254740992)
    minSize := some (.ofInt (-9007199254740992)) }

def readings : Table where
  name := "readings"
  fields := [("reading", reading)]
  accepted := by decide +kernel

/-- The greatest reading is taken. The third one behind it is not: it is rounded upward. -/
theorem greatest_reading_taken :
    ("reading", reading) ∈ readings.fields ∧ reading.kind = .signedInt ∧
      readings.checkValue "reading" (.int 9007199254740992) = .ok () ∧
      readings.checkValue "reading" (.int 9007199254740995) ≠ .ok () := by
  have listed : ("reading", reading) ∈ readings.fields := List.mem_singleton.2 rfl
  have taken (value : Int64) := readings.checkValue_int_iff listed (.inl rfl) value
  refine ⟨listed, rfl, (taken _).2.1 ⟨nofun, ?_, ?_⟩, fun accepted => ?_⟩
  · intro least declared
    obtain rfl : .ofInt (-9007199254740992) = least := Option.some.inj declared
    exact (Binary64.boundsBelow_ofInt_iff (by decide)).2 (by decide)
  · intro greatest declared
    obtain rfl : .ofInt 9007199254740992 = greatest := Option.some.inj declared
    exact (Binary64.boundsAbove_ofInt_iff (by decide)).2 (by decide)
  · rcases ((taken _).1.1 accepted).high _ rfl with above | nearest
    · exact absurd ((Binary64.boundsAbove_ofInt_iff (by decide)).1 above) (by decide)
    · exact absurd nearest (by unfold Binary64.IsNearest; decide +kernel)

/-- Ticket numbers up to the last one before doubles lose the odd numbers. -/
def ticket : Field := { kind := .unsignedInt, maxSize := some (.ofInt 9007199254740992) }

def tickets : Table where
  name := "tickets"
  fields := [("number", ticket)]
  accepted := by decide +kernel

/-- The number behind the last one is rounded to it and taken, though it is greater. -/
theorem next_ticket_taken :
    tickets.checkValue "number" (.int 9007199254740993) = .ok () ∧
      ¬ ticket.Contains 9007199254740993 := by
  refine ⟨by decide +kernel, fun contains => ?_⟩
  have kept := (Binary64.boundsAbove_ofInt_iff (by decide)).1 (contains.high _ rfl)
  exact absurd kept (by decide)

end SchemaKeeper
