import Mathlib.Order.Bounds.Defs
import SchemaKeeper.Proofs.Declarations
import SchemaKeeper.Proofs.DigitCounts
import SchemaKeeper.Proofs.ShortestDecimals

/-!
Contract: when a decimal column has room for the maximum that it was sized for.

The places of a decimal column are those of the text of its maximum. The digits in front of
them are counted by the digit loop, which compares the maximum with bounds of its own, while
the text has one digit more from the double nearest to a power of ten on. The two differ for
the maxima between that double and the bound. Below `10 ^ 16` there are none.

Owns: the maxima whose digits are counted exactly, and those that lose a digit.

Does not own: the loop (`DigitCounts`), the text (`ShortestDecimals`).
-/

namespace SchemaKeeper.Column

open Binary64

/-! ## Maxima that are miscounted -/

/-- The number is written with as many digits as a power of ten, or more, and the loop does not
pass its bound for that power. -/
def LosesDigit (maximum : Binary64) : Prop :=
  ∃ power ≤ 65, 16 ≤ power ∧ (Binary64.ofInt (10 ^ power : Nat)).atMost maximum = true ∧
    maximum.atMost (powerBound power) = true

instance (maximum : Binary64) : Decidable (LosesDigit maximum) := by
  unfold LosesDigit
  infer_instance

/-- The loop passes its bound for a power of ten though the whole part does not reach the power,
or the other way around. -/
def PassesWrongly (maximum : Binary64) : Prop :=
  ∃ power ≤ 65, 16 ≤ power ∧
    ¬((powerBound power).less maximum = true ↔ 10 ^ power ≤ maximum.wholePart)

instance (maximum : Binary64) : Decidable (PassesWrongly maximum) := by
  unfold PassesWrongly
  infer_instance

/-! ## Decimal types -/

private theorem natural_of_not_atMost_zero {negative : Bool} {significand shift : Nat}
    {canonical : Canonical significand shift}
    (positive : (finite negative significand shift canonical).atMost (.zero false) = false) :
    negative = false ∧ 0 < significand * 2 ^ shift := by
  have origin : (zero false).position = some 0 := by decide
  cases negative with
  | true =>
      rw [atMost_of_positions rfl origin, decide_eq_false_iff_not] at positive
      exact absurd (Int.neg_nonpos_of_nonneg (Int.natCast_nonneg _)) positive
  | false =>
      rw [atMost_of_positions rfl origin, decide_eq_false_iff_not] at positive
      exact ⟨rfl, Int.natCast_pos.1 (Int.not_le.1 positive)⟩

/-- A decimal type belongs to a positive double. Its places are those of the text of the double,
and the digits in front of them are counted by the loop. -/
theorem exists_of_decimalType {maximum : Binary64} {type : ColumnType} {size : TypeSize}
    (chosen : decimalType maximum = .ok (type, size)) :
    ∃ significand shift canonical, maximum = .finite false significand shift canonical ∧
      0 < significand * 2 ^ shift ∧ type = .decimal ∧
      size = .decimal (digitCount (.ofInt maximum.wholePart) + maximum.plainDecimal.fractionDigits)
        maximum.plainDecimal.fractionDigits ∧
      maximum.plainDecimal.fractionDigits ≤ 38 ∧
      digitCount (.ofInt maximum.wholePart) + maximum.plainDecimal.fractionDigits ≤ 65 := by
  unfold decimalType at chosen
  dsimp only at chosen
  split at chosen
  next => contradiction
  next accepted =>
    split at chosen
    next => contradiction
    next few =>
      cases chosen
      cases maximum with
      | nan => exact absurd rfl accepted
      | infinity negative => exact absurd rfl accepted
      | finite negative significand shift canonical =>
          obtain ⟨rfl, positive⟩ := natural_of_not_atMost_zero (by simpa [isFinite] using accepted)
          exact ⟨_, _, _, rfl, positive, rfl, rfl, by omega, by omega⟩

/-! ## Digits -/

section Maximum

variable {maximum : Binary64}

/-- The text has a number of digits in front of the point just when the maximum is below the
double nearest to that power of ten. -/
private theorem wholeDigits_le_iff (nonzero : maximum.magnitude ≠ 0)
    (few : maximum.plainDecimal.fractionDigits ≤ 38) {power : Nat} (bounded : power ≤ 65) :
    (Decimal.wholeDigits maximum.plainDecimal.positional).length ≤ power ↔
      maximum.magnitude < (Binary64.ofInt (10 ^ power : Nat)).magnitude := by
  have reads := readsAs_plainDecimal nonzero (by omega)
  have written := (Decimal.positional_digits (magnitude_of_readsAs nonzero reads).1).2
  rw [written, ← Nat.not_le, ← Nat.not_le, plainDecimal_reaches_iff nonzero reads bounded]

/-- The first powers of ten are doubles. -/
private theorem magnitude_power {power : Nat} (few : power ≤ 16) :
    (Binary64.ofInt (10 ^ power : Nat)).magnitude = 10 ^ power * one := by
  rw [magnitude_ofInt (power_bounded (by omega)), roundedUnits_mul_one,
    roundedUnits_of_isExact (isExact_pow_ten (by omega))]

private theorem magnitude_power_mono {lower upper : Nat} (ordered : lower ≤ upper)
    (few : upper ≤ 65) :
    (Binary64.ofInt (10 ^ lower : Nat)).magnitude ≤
      (Binary64.ofInt (10 ^ upper : Nat)).magnitude := by
  rw [magnitude_ofInt (power_bounded (by omega)), magnitude_ofInt (power_bounded few)]
  refine roundedUnits_mono Nat.one_pos Nat.one_pos (Nat.mul_le_mul_right 1 ?_)
  exact Nat.mul_le_mul_right one (Nat.pow_le_pow_right (by decide) ordered)

/-- Fewer than sixteen digits are counted as the text shows them. -/
private theorem digitCount_le_iff_of_small {power : Nat} (few : power < 16) :
    digitCount (.ofInt maximum.wholePart) ≤ power ↔
      maximum.magnitude < (Binary64.ofInt (10 ^ power : Nat)).magnitude := by
  rw [digitCount_wholePart_le_iff maximum few, magnitude_power (by omega), wholePart,
    Nat.div_lt_iff_lt_mul positive_one]

private theorem power_atMost_iff (placed : maximum.position = some (maximum.magnitude : Int))
    {power : Nat} (few : power ≤ 65) :
    (Binary64.ofInt (10 ^ power : Nat)).atMost maximum = true ↔
      (Binary64.ofInt (10 ^ power : Nat)).magnitude ≤ maximum.magnitude := by
  rw [atMost_of_positions (position_ofInt_natural (power_bounded few)) placed, decide_eq_true_eq,
    Int.ofNat_le]

private theorem atMost_bound_iff (placed : maximum.position = some (maximum.magnitude : Int))
    {power : Nat} (few : power ≤ 65) :
    maximum.atMost (powerBound power) = true ↔
      maximum.magnitude ≤ (powerBound power).magnitude := by
  rw [atMost_of_positions placed (position_powerBound few), decide_eq_true_eq, Int.ofNat_le]

private theorem bound_less_iff (placed : maximum.position = some (maximum.magnitude : Int))
    {power : Nat} (few : power ≤ 65) :
    (powerBound power).less maximum = true ↔
      (powerBound power).magnitude < maximum.magnitude := by
  rw [less_of_positions (position_powerBound few) placed, decide_eq_true_eq, Int.ofNat_lt]

/-- The column has room for the digits of its maximum unless the loop loses one. -/
private theorem wholeDigits_le_digitCount_iff
    (placed : maximum.position = some (maximum.magnitude : Int)) (nonzero : maximum.magnitude ≠ 0)
    (few : maximum.plainDecimal.fractionDigits ≤ 38)
    (counted : digitCount (.ofInt maximum.wholePart) ≤ 65) :
    (Decimal.wholeDigits maximum.plainDecimal.positional).length ≤
        digitCount (.ofInt maximum.wholePart) ↔ ¬LosesDigit maximum := by
  constructor
  · rintro held ⟨power, bounded, many, reached, kept⟩
    rw [power_atMost_iff placed bounded] at reached
    rw [atMost_bound_iff placed bounded,
      ← digitCount_wholePart_le_iff_of_large maximum many bounded] at kept
    have below := (wholeDigits_le_iff nonzero few bounded).1 (Nat.le_trans held kept)
    omega
  · intro none
    rw [wholeDigits_le_iff nonzero few counted]
    rcases Nat.lt_or_ge (digitCount (.ofInt maximum.wholePart)) 16 with small | many
    · exact (digitCount_le_iff_of_small small).1 (Nat.le_refl _)
    · have kept := (digitCount_wholePart_le_iff_of_large maximum many counted).1 (Nat.le_refl _)
      refine Nat.lt_of_not_le fun reached => none ⟨_, counted, many, ?_, ?_⟩
      · exact (power_atMost_iff placed counted).2 reached
      · exact (atMost_bound_iff placed counted).2 kept

/-- The count is the least number of digits for the whole part unless the loop passes a bound
wrongly. -/
private theorem isLeast_digitCount_iff
    (placed : maximum.position = some (maximum.magnitude : Int))
    (counted : digitCount (.ofInt maximum.wholePart) ≤ 65) :
    IsLeast {digits | maximum.wholePart + 1 ≤ 10 ^ digits}
        (digitCount (.ofInt maximum.wholePart)) ↔ ¬PassesWrongly maximum := by
  constructor
  · rintro ⟨enough, least⟩ ⟨power, bounded, many, wrong⟩
    refine wrong ?_
    have suffices_iff : digitCount (.ofInt maximum.wholePart) ≤ power ↔
        maximum.wholePart + 1 ≤ 10 ^ power :=
      ⟨fun more => Nat.le_trans enough (Nat.pow_le_pow_right (by decide) more),
        fun held => least held⟩
    rw [digitCount_wholePart_le_iff_of_large maximum many bounded] at suffices_iff
    rw [bound_less_iff placed bounded]
    omega
  · intro none
    have exact {power : Nat} (bounded : power ≤ 65) :
        digitCount (.ofInt maximum.wholePart) ≤ power ↔ maximum.wholePart < 10 ^ power := by
      rcases Nat.lt_or_ge power 16 with small | many
      · exact digitCount_wholePart_le_iff maximum small
      · rw [digitCount_wholePart_le_iff_of_large maximum many bounded, ← Nat.not_lt,
          ← bound_less_iff placed bounded, ← Nat.not_le]
        refine not_congr ?_
        by_contra wrong
        exact none ⟨power, bounded, many, wrong⟩
    refine ⟨(exact counted).1 (Nat.le_refl _), fun digits held => ?_⟩
    rcases Nat.lt_or_ge 65 digits with beyond | bounded
    · omega
    · exact (exact bounded).2 held

/-- Below `10 ^ 16` nothing is miscounted. -/
private theorem not_miscounted_of_small
    (placed : maximum.position = some (maximum.magnitude : Int))
    (small : maximum.less (.ofInt (10 ^ 16 : Nat)) = true) :
    ¬LosesDigit maximum ∧ ¬PassesWrongly maximum := by
  have edge := @magnitude_power 16 (by decide)
  rw [less_of_positions placed (position_ofInt_natural (power_bounded (by decide))),
    decide_eq_true_eq, Int.ofNat_lt] at small
  constructor
  · rintro ⟨power, bounded, many, reached, _⟩
    rw [power_atMost_iff placed bounded] at reached
    have far := magnitude_power_mono many bounded
    omega
  · rintro ⟨power, bounded, many, wrong⟩
    rw [edge] at small
    refine wrong (iff_of_false ?_ ?_)
    · rw [bound_less_iff placed bounded]
      have far := le_magnitude_powerBound bounded many
      omega
    · have whole : maximum.wholePart < 10 ^ 16 := (Nat.div_lt_iff_lt_mul positive_one).2 small
      have power : 10 ^ 16 ≤ 10 ^ power := Nat.pow_le_pow_right (by decide) many
      omega

end Maximum

/-! ## Columns -/

/-- A decimal column has as many places as the text of its maximum. In front of them it has room
for the digits of the text unless the digit loop stops at a bound that the maximum does not pass
while its digits pass the power. The loop counts exactly unless a bound and its power lie on
different sides of the whole part. Neither happens below `10 ^ 16`. -/
theorem decimal_room_iff {field : Field} {column : Column} {maximum : Binary64}
    (decimal : field.kind = .decimal) (declared : field.maxSize = some maximum)
    (mapped : ofField field = .ok column) :
    ∃ precision scale, column.type = .decimal ∧ column.size = .decimal precision scale ∧
      scale ≤ precision ∧ (Decimal.placeDigits maximum.toText.toList).length = scale ∧
      ((Decimal.wholeDigits maximum.toText.toList).length ≤ precision - scale ↔
        ¬LosesDigit maximum) ∧
      (IsLeast {digits | maximum.wholePart + 1 ≤ 10 ^ digits} (precision - scale) ↔
        ¬PassesWrongly maximum) ∧
      (maximum.less (.ofInt (10 ^ 16 : Nat)) = true →
        ¬LosesDigit maximum ∧ ¬PassesWrongly maximum) := by
  have typed := (typeFor_of_ofField mapped).1
  rw [decimal, declared] at typed
  obtain ⟨significand, shift, canonical, finite, positive, type, size, few, bounded⟩ :=
    exists_of_decimalType typed
  have counted : digitCount (.ofInt maximum.wholePart) ≤ 65 := by omega
  have placed : maximum.position = some (maximum.magnitude : Int) := by
    rw [finite]
    rfl
  have nonzero : maximum.magnitude ≠ 0 := by
    rw [finite]
    exact Nat.ne_of_gt positive
  have text : maximum.toText.toList = maximum.plainDecimal.positional := by
    rw [toText, String.toList_ofList, finite]
    rfl
  have reads := readsAs_plainDecimal nonzero (by omega)
  have places := (Decimal.positional_digits (magnitude_of_readsAs nonzero reads).1).1
  refine ⟨_, _, type, size, Nat.le_add_left _ _, ?_, ?_, ?_, not_miscounted_of_small placed⟩
  · rw [text, places]
  · rw [text, Nat.add_sub_cancel]
    exact wholeDigits_le_digitCount_iff placed nonzero few counted
  · rw [Nat.add_sub_cancel]
    exact isLeast_digitCount_iff placed counted

def price : Field :=
  { kind := .decimal, maxSize := some ((⟨9999999999, -2⟩ : Decimal).toBinary64 false) }

/-- The column of prices has room for the highest one. -/
theorem highest_price_has_room :
    price.kind = .decimal ∧ ∃ maximum column, price.maxSize = some maximum ∧
      ofField price = .ok column ∧ column.size = .decimal 10 2 ∧
      (Decimal.placeDigits maximum.toText.toList).length = 2 ∧
      (Decimal.wholeDigits maximum.toText.toList).length ≤ 8 ∧
      IsLeast {digits | maximum.wholePart + 1 ≤ 10 ^ digits} 8 := by
  have mapped : ofField price =
      .ok ⟨.decimal, .decimal 10 2, false, false, false, false, false, none, none⟩ := by
    decide +kernel
  obtain ⟨precision, scale, _, size, _, places, room, least, small⟩ :=
    @decimal_room_iff price _ _ rfl rfl mapped
  obtain ⟨rfl, rfl⟩ := TypeSize.decimal.inj size
  obtain ⟨keepsDigits, passes⟩ := small (by decide +kernel)
  exact ⟨rfl, _, _, rfl, mapped, rfl, places, room.2 keepsDigits, least.2 passes⟩

/-- Budgets of up to ten quadrillion. -/
def budget : Field :=
  { kind := .decimal, maxSize := some (.ofInt (10 ^ 16 : Nat)) }

/-- The field takes its maximum, which has one digit more than the column has room for. -/
theorem greatest_budget_loses_digit :
    budget.checkValue "accounts" "budget" true (.int 10000000000000000) = .ok () ∧
      ∃ maximum column, budget.maxSize = some maximum ∧ ofField budget = .ok column ∧
        column.size = .decimal 16 0 ∧
        (Decimal.wholeDigits maximum.toText.toList).length = 17 ∧
        ¬maximum.wholePart + 1 ≤ 10 ^ 16 := by
  have mapped : ofField budget =
      .ok ⟨.decimal, .decimal 16 0, false, false, false, false, false, none, none⟩ := by
    decide +kernel
  refine ⟨by decide +kernel, _, _, rfl, mapped, rfl, ?_, by decide +kernel⟩
  rw [toText, String.toList_ofList]
  decide +kernel

end SchemaKeeper.Column
