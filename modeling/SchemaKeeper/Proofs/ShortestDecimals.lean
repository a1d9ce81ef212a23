import SchemaKeeper.Binary64.Text
import SchemaKeeper.Proofs.JsonNumbers
import SchemaKeeper.Proofs.Rounding

/-!
Contract: what the plain text of a double says about the double.

The text shows the shortest decimal that is read back as the double. Reading rounds, and
rounding keeps the order, so the decimal reaches a power of ten just when the double reaches
the double nearest to that power. The power itself does not separate the two: the nearest
double may lie below it and still be written as the power.

Owns: the digits in front of the point and behind it, decimals without a point, reading a
shortest decimal back, the grids that it is found on, and its place among the powers of ten up
to `10 ^ 65`.

Does not own: how many digits a column has room for.
-/

namespace SchemaKeeper

/-! ## Positional notation -/

namespace Decimal

/-- The digits in front of the point. A zero without another digit counts as none. -/
def wholeDigits (text : List Char) : List Char :=
  (text.takeWhile (· ≠ '.')).dropWhile (· = '0')

/-- The digits behind the point. -/
def placeDigits (text : List Char) : List Char :=
  (text.dropWhile (· ≠ '.')).drop 1

private theorem ne_point_of_mem_digitChars {number : Nat} {digit : Char}
    (member : digit ∈ digitChars number) : digit ≠ '.' := by
  rintro rfl
  exact absurd (Nat.isDigit_of_mem_toDigits (by decide) (by decide) member) (by decide)

/-- A text is divided at its only point. -/
private theorem digits_of_parts {whole behind : List Char} (noPoint : ∀ digit ∈ whole, digit ≠ '.')
    (point : ∀ mark ∈ behind.head?, mark = '.') :
    wholeDigits (whole ++ behind) = whole.dropWhile (· = '0') ∧
      placeDigits (whole ++ behind) = behind.drop 1 := by
  have accepted : ∀ digit ∈ whole, (decide (digit ≠ '.')) = true := fun digit member =>
    decide_eq_true (noPoint digit member)
  have refused : ∀ mark ∈ behind.head?, (decide (mark ≠ '.')) = false := fun mark first =>
    decide_eq_false (not_not_intro (point mark first))
  obtain ⟨taken, left⟩ := span_run accepted refused
  unfold wholeDigits placeDigits
  rw [taken, left]
  exact ⟨rfl, rfl⟩

private theorem dropWhile_zero {digits : List Char} (noZero : digits.head? ≠ some '0') :
    digits.dropWhile (· = '0') = digits := by
  cases digits with
  | nil => rfl
  | cons digit rest =>
      refine List.dropWhile_cons_of_neg ?_
      rw [decide_eq_true_eq]
      rintro rfl
      exact noZero rfl

/-- The number of digits of a positive number. -/
theorem length_digitChars_le_iff {number : Nat} (positive : 0 < number) (count : Nat) :
    (digitChars number).length ≤ count ↔ number < 10 ^ count := by
  rcases Nat.eq_zero_or_pos count with rfl | some
  · have written := List.length_pos_iff.2 (Nat.toDigits_ne_nil (n := number) (b := 10))
    unfold digitChars
    omega
  · exact Nat.length_toDigits_le_iff (by decide) some

/-- The same with zeros behind the number. -/
private theorem length_raised_le_iff {number : Nat} (positive : 0 < number) (zeros count : Nat) :
    (digitChars number).length + zeros ≤ count ↔ number * 10 ^ zeros < 10 ^ count := by
  rcases Nat.lt_or_ge count zeros with fewer | enough
  · have reached : 10 ^ count ≤ number * 10 ^ zeros :=
      Nat.le_trans (Nat.pow_le_pow_right (by decide) (Nat.le_of_lt fewer))
        (Nat.le_mul_of_pos_left _ positive)
    exact iff_of_false (by omega) (Nat.not_lt.2 reached)
  · obtain ⟨rest, rfl⟩ := Nat.exists_eq_add_of_le' enough
    rw [Nat.add_le_add_iff_right, length_digitChars_le_iff positive, Nat.pow_add,
      Nat.mul_lt_mul_right (Nat.pow_pos (by decide))]

/-- Positional notation of a positive decimal shows all its places, and as many digits in front
of them as powers of ten are needed to pass the decimal. -/
theorem positional_digits {number : Decimal} (positive : 0 < number.digits) :
    (placeDigits number.positional).length = number.fractionDigits ∧
      ∀ count, (wholeDigits number.positional).length ≤ count ↔
        number.digits * 10 ^ number.exponent.toNat < 10 ^ (count + number.fractionDigits) := by
  have noZero := Json.Number.head?_digitChars (Nat.ne_of_gt positive)
  have nonempty : digitChars number.digits ≠ [] := Nat.toDigits_ne_nil
  unfold positional fractionDigits
  dsimp only
  split
  next natural =>
    have noPoint : ∀ digit ∈ digitChars number.digits ++
        List.replicate number.exponent.toNat '0', digit ≠ '.' := by
      intro digit member
      rcases List.mem_append.1 member with inDigits | zero
      · exact ne_point_of_mem_digitChars inDigits
      · rw [List.eq_of_mem_replicate zero]
        decide
    obtain ⟨whole, places⟩ := @digits_of_parts _ [] noPoint (by simp)
    have noPlaces : (-number.exponent).toNat = 0 := by omega
    rw [List.append_nil] at whole places
    rw [whole, places, noPlaces, dropWhile_zero (by rwa [Json.Number.head?_append nonempty]),
      List.length_append, List.length_replicate]
    exact ⟨rfl, length_raised_le_iff positive _⟩
  next negative =>
    have noZeros : number.exponent.toNat = 0 := by omega
    rw [noZeros, Nat.pow_zero, Nat.mul_one]
    generalize (-number.exponent).toNat = places
    split
    next pointed =>
      have noPoint : ∀ digit ∈ (digitChars number.digits).take
          ((digitChars number.digits).length - places), digit ≠ '.' := fun digit member =>
        ne_point_of_mem_digitChars (List.mem_of_mem_take member)
      have sameHead : ((digitChars number.digits).take
          ((digitChars number.digits).length - places)).head? =
            (digitChars number.digits).head? := by
        rw [List.head?_take, if_neg (by omega)]
      obtain ⟨whole, behind⟩ := @digits_of_parts _ ('.' :: _) noPoint (by simp)
      rw [whole, behind, dropWhile_zero (by rwa [sameHead]), List.drop_one, List.tail_cons,
        List.length_drop, List.length_take]
      refine ⟨by omega, fun count => ?_⟩
      rw [← length_digitChars_le_iff positive]
      omega
    next small =>
      obtain ⟨whole, behind⟩ := @digits_of_parts ['0']
        ('.' :: (List.replicate (places - (digitChars number.digits).length) '0' ++
          digitChars number.digits)) (by simp) (by simp)
      rw [List.singleton_append] at whole behind
      rw [whole, behind, List.drop_one, List.tail_cons, List.length_append, List.length_replicate]
      refine ⟨by omega, fun count => iff_of_true (Nat.zero_le count) ?_⟩
      rw [← length_digitChars_le_iff positive]
      omega

/-- A power of ten puts zeros behind a number. -/
private theorem digitChars_raised {number : Nat} (positive : 0 < number) (zeros : Nat) :
    digitChars (number * 10 ^ zeros) = digitChars number ++ List.replicate zeros '0' := by
  induction zeros with
  | zero => simp
  | succ zeros inductionHypothesis =>
      have raised : number * 10 ^ (zeros + 1) = 10 * (number * 10 ^ zeros) + 0 := by
        rw [Nat.pow_succ, ← Nat.mul_assoc, Nat.mul_comm, Nat.add_zero]
      have someDigit : 0 < number * 10 ^ zeros := Nat.mul_pos positive (Nat.pow_pos (by decide))
      rw [raised, digitChars, ← Nat.toDigits_append_toDigits (by decide) someDigit (by decide),
        List.replicate_succ', ← List.append_assoc, ← inductionHypothesis]
      rfl

/-- The number that a decimal without places stands for. -/
def whole (number : Decimal) : Nat :=
  number.digits * 10 ^ number.exponent.toNat

/-- Positional notation without a point is the one of a natural number. -/
theorem positional_whole {number : Decimal} (positive : 0 < number.digits)
    (unpointed : 0 ≤ number.exponent) : number.positional = digitChars number.whole := by
  rw [whole, digitChars_raised positive]
  exact if_pos unpointed

theorem point_mem_positional {number : Decimal} (pointed : number.exponent < 0) :
    '.' ∈ number.positional := by
  unfold positional
  rw [if_neg (by omega)]
  dsimp only
  split <;> simp

theorem point_notMem_digitChars (number : Nat) : '.' ∉ digitChars number :=
  fun member => ne_point_of_mem_digitChars member rfl

theorem digitChars_injective : Function.Injective digitChars := by
  intro left right same
  have read := congrArg (fun digits => Nat.ofDigitChars 10 digits 0) same
  simpa only [digitChars, Nat.ofDigitChars_ten_toDigits] using read

end Decimal

/-! ## Reading back -/

namespace Binary64

/-- A hit stands on its grid and is read back. -/
private theorem gridNeighbour_hit {tie : Tie} {number : Binary64} {grid : Int}
    {found : Decimal} (hit : gridNeighbour tie number grid = some found) :
    number.readsAs found = true ∧ found.exponent = grid := by
  unfold gridNeighbour at hit
  dsimp only at hit
  split at hit
  next belowReads aboveReads =>
    cases tie <;>
      · dsimp only at hit
        split at hit
        next =>
          cases hit
          exact ⟨aboveReads, rfl⟩
        next =>
          cases hit
          exact ⟨belowReads, rfl⟩
  next belowReads _ =>
    cases hit
    exact ⟨belowReads, rfl⟩
  next _ aboveReads =>
    cases hit
    exact ⟨aboveReads, rfl⟩
  next => contradiction

private theorem readsAs_shortestFrom (tie : Tie) (number : Binary64) (steps : Nat) (grid : Int) :
    number.shortestFrom tie steps grid = number.exactDecimal ∨
      number.readsAs (number.shortestFrom tie steps grid) = true := by
  induction steps generalizing grid with
  | zero => exact .inl rfl
  | succ steps inductionHypothesis =>
      unfold shortestFrom
      split
      next found hit => exact .inr (gridNeighbour_hit hit).1
      next => exact inductionHypothesis (grid - 1)

private theorem plainDecimal_eq_shortestFrom {number : Binary64} (nonzero : number.magnitude ≠ 0) :
    number.plainDecimal = number.shortestFrom .upward 20 number.coarsestGrid :=
  if_neg nonzero

/-- A shortest decimal with fewer places than the exact value is read back as its number. -/
theorem readsAs_plainDecimal {number : Binary64} (nonzero : number.magnitude ≠ 0)
    (few : number.plainDecimal.fractionDigits < 1074) :
    number.readsAs number.plainDecimal = true := by
  rw [plainDecimal_eq_shortestFrom nonzero] at few ⊢
  refine (readsAs_shortestFrom .upward number 20 number.coarsestGrid).resolve_left fun exact => ?_
  rw [exact] at few
  exact absurd few (Nat.lt_irrefl 1074)

/-- The number that a decimal is read as is the rounded decimal. -/
theorem magnitude_of_readsAs {number : Binary64} {candidate : Decimal}
    (nonzero : number.magnitude ≠ 0) (reads : number.readsAs candidate = true) :
    0 < candidate.digits ∧ number.magnitude =
      roundedUnits (candidate.digits * 10 ^ candidate.exponent.toNat * one)
        (10 ^ candidate.fractionDigits) := by
  have placed : (candidate.toBinary64 false).position = some (number.magnitude : Int) :=
    eq_of_beq reads
  have finite := magnitude_lt_limit number
  have notZero : (zero false).position ≠ some (number.magnitude : Int) := fun same =>
    nonzero (Int.ofNat.inj (Option.some.inj same)).symm
  unfold Decimal.toBinary64 at placed
  split at placed
  next => exact absurd placed notZero
  next positive =>
    refine ⟨Nat.pos_of_ne_zero positive, ?_⟩
    split at placed
    next =>
      have same := Int.ofNat.inj (Option.some.inj ((position_infinity false).symm.trans placed))
      exact absurd same.symm (Nat.ne_of_lt finite)
    next =>
      split at placed
      next => exact absurd placed notZero
      next =>
        simp only [Nat.pow_eq] at placed
        rw [ofRatio, position_ofUnits _ (Nat.pow_pos (by decide))] at placed
        have same : clampedUnits _ _ = number.magnitude :=
          Int.ofNat.inj (Option.some.inj placed)
        rw [← same] at finite ⊢
        exact clampedUnits_eq_of_lt finite

/-- A number that is written without a point is the rounded number of its decimal. -/
theorem magnitude_of_unpointed {number : Binary64} (nonzero : number.magnitude ≠ 0)
    (unpointed : 0 ≤ number.plainDecimal.exponent) :
    0 < number.plainDecimal.digits ∧
      number.magnitude = roundedUnits (number.plainDecimal.whole * one) 1 := by
  have noPlaces : number.plainDecimal.fractionDigits = 0 := by
    rw [Decimal.fractionDigits]
    omega
  have reads := readsAs_plainDecimal nonzero (noPlaces ▸ (by decide))
  have rounded := magnitude_of_readsAs nonzero reads
  rwa [noPlaces, Nat.pow_zero] at rounded

/-! ## Powers of ten -/

/-- A multiple of a power of ten is read as the number that it is rounded to. -/
private theorem readsAs_of_rounded {number : Binary64} {digits power : Nat} (positive : 0 < digits)
    (small : power < 310)
    (rounded : roundedUnits (digits * 10 ^ power * one) 1 = number.magnitude) :
    number.readsAs ⟨digits, power⟩ = true := by
  have finite := magnitude_lt_limit number
  have read : (⟨digits, power⟩ : Decimal).toBinary64 false =
      ofUnits false (digits * 10 ^ power * one) 1 := by
    unfold Decimal.toBinary64
    have places : (-(power : Int)).toNat = 0 := by omega
    rw [if_neg (Nat.ne_of_gt positive), if_neg (by simp only; omega),
      if_neg (by simp only; omega)]
    simp only [ofRatio, Int.toNat_natCast, places, Nat.pow_eq, Nat.pow_zero]
  rw [← rounded] at finite
  rw [readsAs, read, position_ofUnits _ Nat.one_pos, clampedUnits_eq finite, rounded]
  exact beq_self_eq_true _

section NearestDoubles

variable {number : Binary64}

section Multiples

variable {count power : Nat} (positive : 0 < count)
  (nearest : number.magnitude = roundedUnits (count * 10 ^ power * one) 1)

include positive nearest

/-- On the grid of the power the number has a neighbour that is read back: the multiple itself,
or one between it and the number. -/
private theorem gridNeighbour_ne_none (small : power < 310) (tie : Tie) :
    gridNeighbour tie number power ≠ none := by
  have gridPos : 0 < one * 10 ^ power := Nat.mul_pos positive_one (Nat.pow_pos (by decide))
  have onGrid : number.readsAs ⟨number.magnitude / (one * 10 ^ power), power⟩ = true ∨
      number.readsAs ⟨number.magnitude / (one * 10 ^ power) + 1, power⟩ = true := by
    rcases Nat.lt_or_ge (number.magnitude / (one * 10 ^ power)) count with below | reached
    · refine .inr (readsAs_of_rounded (Nat.succ_pos _) small (Nat.le_antisymm ?_ ?_))
      · rw [nearest]
        refine roundedUnits_mono Nat.one_pos Nat.one_pos (Nat.mul_le_mul_right 1 ?_)
        rw [← nearest]
        exact Nat.mul_le_mul_right one (Nat.mul_le_mul_right _ below)
      · refine le_roundedUnits Nat.one_pos (isExact_magnitude number) ?_
        rw [Nat.mul_one, Nat.mul_assoc, Nat.mul_comm (10 ^ power)]
        exact Nat.le_of_lt ((Nat.div_lt_iff_lt_mul gridPos).1 (Nat.lt_succ_self _))
    · refine .inl (readsAs_of_rounded (Nat.lt_of_lt_of_le positive reached) small
        (Nat.le_antisymm ?_ ?_))
      · refine roundedUnits_le Nat.one_pos (isExact_magnitude number) ?_
        rw [Nat.mul_assoc, Nat.mul_comm (10 ^ power), Nat.mul_one number.magnitude]
        exact Nat.div_mul_le_self _ _
      · rw [nearest]
        refine roundedUnits_mono Nat.one_pos Nat.one_pos (Nat.mul_le_mul_right 1 ?_)
        rw [← nearest]
        exact Nat.mul_le_mul_right one (Nat.mul_le_mul_right _ reached)
  intro none
  have places : (-(power : Int)).toNat = 0 := by omega
  unfold gridNeighbour at none
  simp only [Int.toNat_natCast, places, Nat.pow_eq, Nat.pow_zero, Nat.mul_one] at none
  split at none
  next =>
    cases tie <;>
      · dsimp only at none
        split at none <;> exact Option.some_ne_none _ none
  next => exact Option.some_ne_none _ none
  next => exact Option.some_ne_none _ none
  next noBelow noAbove =>
    rw [noBelow, noAbove] at onGrid
    simp at onGrid

/-- The search passes the grid of the power with a hit, or has had one before. -/
private theorem le_exponent_shortestFrom (small : power < 310) (tie : Tie) (steps : Nat)
    (grid : Int) (above : power ≤ grid) (inReach : grid < power + steps) :
    (power : Int) ≤ (number.shortestFrom tie steps grid).exponent := by
  induction steps generalizing grid with
  | zero => omega
  | succ steps inductionHypothesis =>
      unfold shortestFrom
      split
      next found hit =>
        rw [(gridNeighbour_hit hit).2]
        exact above
      next noHit =>
        have passed : grid ≠ power := by
          rintro rfl
          exact gridNeighbour_ne_none positive nearest small tie noHit
        exact inductionHypothesis (grid - 1) (by omega) (by omega)

end Multiples

/-- The double nearest to a positive number has the binary logarithm of the number, or one
more. -/
private theorem log2_nearest {whole : Nat} (positive : 0 < whole)
    (nearest : number.magnitude = roundedUnits (whole * one) 1) :
    whole.log2 + unitPlaces ≤ number.magnitude.log2 ∧
      number.magnitude.log2 ≤ whole.log2 + 1 + unitPlaces := by
  have exact (places : Nat) : IsExact (2 ^ places * one) := by
    rw [Nat.mul_comm, ← Nat.one_mul one]
    exact (isExact_whole (by decide)).mul_two_pow places
  have lower : 2 ^ whole.log2 * one ≤ number.magnitude := by
    rw [nearest, ← roundedUnits_of_isExact (exact _)]
    refine roundedUnits_mono Nat.one_pos Nat.one_pos (Nat.mul_le_mul_right 1 ?_)
    exact Nat.mul_le_mul_right one (Nat.log2_self_le (Nat.ne_of_gt positive))
  have upper : number.magnitude ≤ 2 ^ (whole.log2 + 1) * one := by
    rw [nearest, ← roundedUnits_of_isExact (exact _)]
    refine roundedUnits_mono Nat.one_pos Nat.one_pos (Nat.mul_le_mul_right 1 ?_)
    exact Nat.mul_le_mul_right one (Nat.le_of_lt Nat.lt_log2_self)
  rw [one_eq, ← Nat.pow_add] at lower upper
  have nonzero : number.magnitude ≠ 0 :=
    Nat.ne_of_gt (Nat.lt_of_lt_of_le (Nat.two_pow_pos _) lower)
  refine ⟨(Nat.le_log2 nonzero).2 lower, Nat.le_of_lt_succ ((Nat.log2_lt nonzero).2 ?_)⟩
  exact Nat.lt_of_le_of_lt upper (Nat.pow_lt_pow_right (by decide) (Nat.lt_succ_self _))

/-- The double nearest to a multiple of a power of ten is written as a multiple of the power, if
the search begins above the power and gets to it. -/
theorem le_exponent_plainDecimal {count power : Nat} (positive : 0 < count)
    (nearest : number.magnitude = roundedUnits (count * 10 ^ power * one) 1) (small : power < 310)
    (above : power ≤ (((count * 10 ^ power).log2 : Int) + 1) * 30103 / 100000 + 1)
    (inReach : (((count * 10 ^ power).log2 : Int) + 2) * 30103 / 100000 + 1 < power + 20) :
    (power : Int) ≤ number.plainDecimal.exponent := by
  obtain ⟨lower, upper⟩ := log2_nearest (Nat.mul_pos positive (Nat.pow_pos (by decide))) nearest
  have nonzero : number.magnitude ≠ 0 := by
    intro zero
    rw [zero, Nat.log2_zero, unitPlaces] at lower
    omega
  rw [unitPlaces] at lower upper
  rw [plainDecimal_eq_shortestFrom nonzero]
  refine le_exponent_shortestFrom positive nearest small .upward 20 _ ?_ ?_ <;>
    · unfold coarsestGrid
      omega

/-- The double nearest to a power of ten is written as a multiple of the power. -/
private theorem le_exponent_of_power {power : Nat} (few : power ≤ 65)
    (nearest : number.magnitude = roundedUnits (10 ^ power * one) 1) :
    (power : Int) ≤ number.plainDecimal.exponent := by
  have estimate : ∀ power : Nat, power ≤ 65 →
      power ≤ ((Nat.log2 (10 ^ power) : Int) + 1) * 30103 / 100000 + 1 ∧
        ((Nat.log2 (10 ^ power) : Int) + 2) * 30103 / 100000 + 1 < power + 20 := by
    decide +kernel
  obtain ⟨above, inReach⟩ := estimate power few
  rw [← Nat.one_mul (10 ^ power)] at nearest above inReach
  exact le_exponent_plainDecimal Nat.one_pos nearest (by omega) above inReach

end NearestDoubles

theorem power_bounded {power : Nat} (few : power ≤ 65) : 10 ^ power ≤ wholeLimit := by
  refine @le_wholeLimit _ 216 ?_ (by decide)
  exact Nat.le_trans (Nat.pow_le_pow_right (by decide) few) (by decide)

/-- The decimal that a number is written as reaches a power of ten just when the number reaches
the double nearest to the power. -/
theorem plainDecimal_reaches_iff {number : Binary64} (nonzero : number.magnitude ≠ 0)
    (reads : number.readsAs number.plainDecimal = true) {power : Nat} (few : power ≤ 65) :
    10 ^ (power + number.plainDecimal.fractionDigits) ≤
        number.plainDecimal.digits * 10 ^ number.plainDecimal.exponent.toNat ↔
      (ofInt (10 ^ power : Nat)).magnitude ≤ number.magnitude := by
  obtain ⟨positive, rounded⟩ := magnitude_of_readsAs nonzero reads
  have placesPos : 0 < 10 ^ number.plainDecimal.fractionDigits := Nat.pow_pos (by decide)
  have nearest := magnitude_ofInt (power_bounded few)
  rw [Nat.pow_add]
  constructor
  · intro reached
    rw [nearest, rounded]
    refine roundedUnits_mono Nat.one_pos placesPos ?_
    rw [Nat.mul_right_comm, Nat.mul_one (_ * one)]
    exact Nat.mul_le_mul_right one reached
  · intro reached
    refine Nat.le_of_not_lt fun below => ?_
    have kept : number.magnitude ≤ (ofInt (10 ^ power : Nat)).magnitude := by
      rw [nearest, rounded]
      refine roundedUnits_mono placesPos Nat.one_pos ?_
      rw [Nat.mul_right_comm (10 ^ power), Nat.mul_one (_ * one)]
      exact Nat.mul_le_mul_right one (Nat.le_of_lt below)
    -- The number would be the nearest double, which is written as a multiple of the power.
    have written := le_exponent_of_power few ((Nat.le_antisymm kept reached).trans nearest)
    have noPlaces : number.plainDecimal.fractionDigits = 0 := by
      rw [Decimal.fractionDigits]
      omega
    have reachedPower : 10 ^ power ≤ 10 ^ number.plainDecimal.exponent.toNat :=
      Nat.pow_le_pow_right (by decide) (by omega)
    rw [noPlaces, Nat.pow_zero, Nat.mul_one] at below
    have multiple := Nat.le_mul_of_pos_left (10 ^ number.plainDecimal.exponent.toNat) positive
    omega

end Binary64

end SchemaKeeper
