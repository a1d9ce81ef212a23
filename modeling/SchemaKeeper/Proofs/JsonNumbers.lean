import SchemaKeeper.Json.Number
import SchemaKeeper.Proofs.JsonText
import SchemaKeeper.Proofs.Rounding

/-!
Contract: the literals that numbers are written as, and the doubles that literals give.

Owns: that written literals are well-formed, that the literal of an integer is an integer
and the literal of a double is none, and that a literal never gives an infinity.

Does not own: whether the literal of a double gives that double back.
-/

namespace SchemaKeeper.Json.Number

/-! ## Digits -/

theorem isDigits_digitChars (number : Nat) : IsDigits (Decimal.digitChars number) :=
  ⟨Nat.toDigits_ne_nil, fun _ member => Nat.isDigit_of_mem_toDigits (by decide) (by decide) member⟩

private theorem isDigit_of_mem_zeros {count : Nat} {digit : Char}
    (member : digit ∈ List.replicate count '0') : digit.isDigit = true := by
  rw [List.eq_of_mem_replicate member]
  rfl

private theorem isDigits_zero : IsDigits ['0'] :=
  ⟨List.cons_ne_nil _ _, fun _ member => List.mem_singleton.1 member ▸ rfl⟩

theorem head?_append {digits : List Char} (nonempty : digits ≠ []) (behind : List Char) :
    (digits ++ behind).head? = digits.head? := by
  obtain ⟨first, rest, rfl⟩ := List.exists_cons_of_ne_nil nonempty
  rfl

private theorem take_isDigits {digits : List Char} (isDigits : IsDigits digits) {count : Nat}
    (positive : 0 < count) :
    IsDigits (digits.take count) ∧ (digits.take count).head? = digits.head? := by
  obtain ⟨count, rfl⟩ := Nat.exists_eq_add_one_of_ne_zero (Nat.ne_of_gt positive)
  obtain ⟨first, rest, rfl⟩ := List.exists_cons_of_ne_nil isDigits.1
  exact ⟨⟨nofun, fun digit member => isDigits.2 digit (List.mem_of_mem_take member)⟩, rfl⟩

private theorem drop_isDigits {digits : List Char} (isDigits : IsDigits digits) {count : Nat}
    (less : count < digits.length) : IsDigits (digits.drop count) :=
  ⟨fun empty => Nat.not_le_of_lt less (List.drop_eq_nil_iff.1 empty),
    fun digit member => isDigits.2 digit (List.mem_of_mem_drop member)⟩

/-- The digits of a number other than zero do not begin with a zero. -/
theorem head?_digitChars {number : Nat} (positive : number ≠ 0) :
    (Decimal.digitChars number).head? ≠ some '0' := by
  unfold Decimal.digitChars
  induction number using Nat.strongRecOn with
  | ind number inductionHypothesis =>
      rw [Nat.toDigits_eq_if (by decide)]
      split
      next small =>
        have digits : ∀ digit < 10, digit ≠ 0 → [digit.digitChar].head? ≠ some '0' := by decide
        exact digits number small positive
      next large =>
        rw [head?_append Nat.toDigits_ne_nil]
        exact inductionHypothesis (number / 10) (by omega) (by omega)

/-! ## Integers -/

theorem wellFormed_ofInt (value : Int) : (ofInt value).WellFormed where
  whole := isDigits_digitChars _
  noLeadingZero := by
    intro zero
    rcases Decidable.em (value.natAbs = 0) with isZero | positive
    · rw [ofInt, isZero]
      rfl
    · exact absurd zero (head?_digitChars positive)
  fraction := nofun
  exponent := nofun

/-- The literal of an integer stands for that integer. -/
theorem integer?_ofInt (value : Int) : (ofInt value).integer? = some value := by
  have magnitude : Nat.ofDigitChars 10 (Decimal.digitChars value.natAbs) 0 = value.natAbs :=
    Nat.ofDigitChars_ten_toDigits
  unfold integer? ofInt
  dsimp only
  rw [magnitude]
  split
  next negative =>
    rw [decide_eq_true_eq] at negative
    rw [if_neg (by omega)]
    congr 1
    omega
  next unsigned =>
    rw [decide_eq_true_eq] at unsigned
    congr 1
    omega

/-! ## Doubles -/

private theorem wellFormed_pointed (negative : Bool) {whole fraction : List Char}
    (wholeDigits : IsDigits whole) (noZero : whole.head? = some '0' → whole.length = 1)
    (fractionDigits : IsDigits fraction) : WellFormed ⟨negative, whole, some fraction, none⟩ where
  whole := wholeDigits
  noLeadingZero := noZero
  fraction := by
    rintro _ ⟨⟩
    exact fractionDigits
  exponent := nofun

/-- The literal of a decimal is well-formed. -/
theorem wellFormed_ofDecimal (negative : Bool) (number : Decimal) :
    (ofDecimal negative number).WellFormed := by
  have digits := isDigits_digitChars number.digits
  unfold ofDecimal
  dsimp only
  generalize written : Decimal.digitChars number.digits = text at *
  split
  next => exact wellFormed_pointed negative isDigits_zero (fun _ => rfl) isDigits_zero
  next positive =>
    have noZero : text.head? ≠ some '0' := written ▸ head?_digitChars positive
    -- The whole digits begin with the digits of the number, or they are a single zero.
    split
    next =>
      refine wellFormed_pointed negative ⟨by simp [digits.1], ?_⟩ ?_ isDigits_zero
      · intro digit member
        rcases List.mem_append.1 member with inText | zero
        · exact digits.2 digit inText
        · exact isDigit_of_mem_zeros zero
      · intro zero
        rw [head?_append digits.1] at zero
        exact absurd zero noZero
    split
    next pointed =>
      obtain ⟨wholeDigits, sameHead⟩ :=
        take_isDigits digits (by omega : 0 < (text.length + number.exponent).toNat)
      refine wellFormed_pointed negative wholeDigits (fun zero => ?_)
        (drop_isDigits digits (by omega))
      rw [sameHead] at zero
      exact absurd zero noZero
    split
    next =>
      refine wellFormed_pointed negative isDigits_zero (fun _ => rfl) ⟨by simp [digits.1], ?_⟩
      intro digit member
      rcases List.mem_append.1 member with zero | inText
      · exact isDigit_of_mem_zeros zero
      · exact digits.2 digit inText
    next =>
      have lengthPos := List.length_pos_iff.2 digits.1
      obtain ⟨wholeDigits, sameHead⟩ := take_isDigits digits Nat.one_pos
      refine ⟨wholeDigits, fun zero => absurd (sameHead ▸ zero) noZero, ?_, ?_⟩
      · dsimp only
        split
        next => exact nofun
        next several =>
          rintro _ ⟨⟩
          exact drop_isDigits digits (by omega)
      · rintro _ ⟨⟩
        exact isDigits_digitChars _

/-- The literal of a decimal is no integer: it has a point or an exponent. -/
theorem integer?_ofDecimal (negative : Bool) (number : Decimal) :
    (ofDecimal negative number).integer? = none := by
  have pointed : ∀ literal : Number, literal.fraction.isSome ∨ literal.exponent.isSome →
      literal.integer? = none := by
    rintro ⟨negative, whole, fraction | fraction, exponent | exponent⟩ written
    · simp at written
    all_goals rfl
  apply pointed
  unfold ofDecimal
  dsimp only
  repeat' split
  all_goals simp

/-! ## Finite doubles -/

/-- A quotient by at least one is no larger than the dividend and so finite. -/
private theorem isFinite_quotient (negative : Bool) (left : Binary64) {right : Binary64}
    (large : Binary64.one ≤ right.magnitude) :
    (Binary64.quotient negative left right).isFinite = true := by
  have positive : 0 < right.magnitude := Nat.lt_of_lt_of_le Binary64.positive_one large
  have kept : Binary64.roundedUnits (left.magnitude * Binary64.one) right.magnitude ≤
      left.magnitude :=
    Binary64.roundedUnits_le positive (Binary64.isExact_magnitude left)
      (Nat.mul_le_mul_left _ large)
  obtain ⟨significand, shift, canonical, rounded, _⟩ :=
    Binary64.ofUnits_eq_finite negative positive
      (Nat.lt_of_le_of_lt kept (Binary64.magnitude_lt_limit left))
  rw [Binary64.quotient, rounded]
  rfl

private def largestShift : Nat := 2045

/-- The units of the largest finite double. -/
private def largest : Nat := (2 ^ 53 - 1) * 2 ^ largestShift

/-- The powers of ten that are divided by are at least one. -/
private theorem one_le_powerOfTen {power : Nat} (bounded : power ≤ 308) :
    Binary64.one ≤ (powerOfTen power).magnitude := by
  have atMost : 10 ^ power * Binary64.one ≤ largest * 1 := by
    calc 10 ^ power * Binary64.one ≤ 10 ^ 308 * Binary64.one :=
          Nat.mul_le_mul_right _ (Nat.pow_le_pow_right (by decide) bounded)
      _ ≤ largest * 1 := by decide +kernel
  have kept : Binary64.roundedUnits (10 ^ power * Binary64.one) 1 ≤ largest :=
    Binary64.roundedUnits_le Nat.one_pos ⟨2 ^ 53 - 1, largestShift, by decide, rfl⟩ atMost
  have reached : 1 * Binary64.one ≤ Binary64.roundedUnits (10 ^ power * Binary64.one) 1 := by
    refine Binary64.le_roundedUnits Nat.one_pos (Binary64.isExact_whole (by decide)) ?_
    rw [Nat.mul_one]
    exact Nat.mul_le_mul_right _ (Nat.pow_pos (by decide))
  have finite : largest < Binary64.limit := by decide +kernel
  obtain ⟨significand, shift, canonical, rounded, magnitude⟩ :=
    Binary64.ofUnits_eq_finite false Nat.one_pos (Nat.lt_of_le_of_lt kept finite)
  rw [Nat.one_mul, ← magnitude] at reached
  change _ ≤ (Binary64.ofUnits false (10 ^ power * Binary64.one) 1).magnitude
  rw [rounded]
  exact reached

/-- Rounding gives a finite double or an infinity. -/
private theorem isFinite_of_ofUnits {negative : Bool} {numerator denominator : Nat}
    (bounded : ∀ sign, Binary64.ofUnits negative numerator denominator ≠ .infinity sign) :
    (Binary64.ofUnits negative numerator denominator).isFinite = true := by
  unfold Binary64.ofUnits at bounded ⊢
  dsimp only at bounded ⊢
  split
  next => rfl
  next coarse =>
    rw [dif_neg coarse] at bounded
    split
    next => rfl
    next beyond =>
      rw [dif_neg beyond] at bounded
      exact absurd rfl (bounded negative)

private theorem isFinite_product {negative : Bool} {left right : Binary64}
    (bounded : ∀ sign, Binary64.product negative left right ≠ .infinity sign) :
    (Binary64.product negative left right).isFinite = true := by
  unfold Binary64.product at bounded ⊢
  exact isFinite_of_ofUnits bounded

/-- Scaling gives a finite double or none. -/
theorem isFinite_of_scale {negative : Bool} {significand result : Binary64} {power : Int}
    (found : scale negative significand power = some result) : result.isFinite = true := by
  fun_induction scale negative significand power with
  | case1 | case5 => cases found
  | case2 significand power _ _ bounded =>
      rw [← Option.some.inj found]
      exact isFinite_product bounded
  | case3 significand power near =>
      rw [← Option.some.inj found]
      exact isFinite_quotient negative significand (one_le_powerOfTen near)
  | case4 =>
      rw [← Option.some.inj found]
      rfl
  | case6 significand power _ _ _ inductionHypothesis => exact inductionHypothesis found

/-- A literal gives a finite double or none. -/
theorem isFinite_of_toBinary64? {literal : Number} {value : Binary64}
    (read : literal.toBinary64? = some value) : value.isFinite = true :=
  isFinite_of_scale read

/-- The literal of a double is no integer. -/
theorem integer?_ofBinary64 (value : Binary64) : (ofBinary64 value).integer? = none :=
  integer?_ofDecimal _ _

theorem wellFormed_ofBinary64 (value : Binary64) : (ofBinary64 value).WellFormed :=
  wellFormed_ofDecimal _ _

end SchemaKeeper.Json.Number
