import SchemaKeeper.Column.Width
import SchemaKeeper.Proofs.Rounding

/-!
Contract: what the count of the digit loop says about a number.

The loop multiplies a bound by ten and rounds the product until the bound reaches its target,
which is the number and one, rounded too. Below `2 ^ 53` nothing is rounded for a whole number,
so the count is that of its digits. Later bounds are so large that adding one to them is lost.
They hold the number just when they hold the target, but they are powers of ten no longer.

Owns: the bounds of the loop, and the count of a whole part as a comparison with them.

Does not own: what is sized with the count.
-/

namespace SchemaKeeper.Column

open Binary64

/-! ## Bounds -/

/-- The bound of the loop after some rounds. -/
def powerBound : Nat → Binary64
  | 0 => .ofInt 1
  | rounds + 1 => (powerBound rounds).timesNat 10

/-- The bounds are whole, so their products are rounded in ones. -/
def wholeBound : Nat → Nat
  | 0 => 1
  | rounds + 1 => roundedUnits (10 * wholeBound rounds) 1

private theorem wholeBound_le (rounds : Nat) : wholeBound rounds ≤ 2 ^ (4 * rounds) := by
  induction rounds with
  | zero => exact Nat.le_refl 1
  | succ rounds inductionHypothesis =>
      refine roundedUnits_le Nat.one_pos ⟨1, 4 * (rounds + 1), by decide, (Nat.one_mul _).symm⟩ ?_
      rw [Nat.mul_one, Nat.mul_succ, Nat.pow_add]
      omega

/-- The powers of ten are exact up to the twenty-second. -/
private theorem wholeBound_eq_power {rounds : Nat} (few : rounds ≤ 22) :
    wholeBound rounds = 10 ^ rounds := by
  induction rounds with
  | zero => rfl
  | succ rounds inductionHypothesis =>
      rw [wholeBound, inductionHypothesis (by omega), ← Nat.pow_succ']
      exact roundedUnits_of_isExact (isExact_pow_ten (by omega))

/-- Bounds from `10 ^ 16` on are so large that adding one to them is lost. -/
private theorem wholeBound_absorbs : ∀ rounds ≤ 65, 16 ≤ rounds →
    10 ^ 16 ≤ wholeBound rounds ∧ roundedUnits (wholeBound rounds + 1) 1 = wholeBound rounds := by
  decide +kernel

private theorem exists_powerBound {rounds : Nat} (few : rounds ≤ 65) :
    ∃ significand shift canonical,
      powerBound rounds = .finite false significand shift canonical ∧
        significand * 2 ^ shift = wholeBound rounds * one := by
  induction rounds with
  | zero =>
      obtain ⟨significand, shift, canonical, whole, magnitude⟩ := @exists_ofInt_exact 1 (by decide)
      rw [Int.natCast_one] at whole
      exact ⟨significand, shift, canonical, whole, by rw [magnitude, wholeBound]⟩
  | succ rounds inductionHypothesis =>
      obtain ⟨significand, shift, canonical, bound, magnitude⟩ := inductionHypothesis (by omega)
      have product : powerBound (rounds + 1) = ofUnits false (10 * wholeBound rounds * one) 1 := by
        rw [powerBound, bound, Nat.mul_assoc, ← magnitude]
        rfl
      have bounded : 10 * wholeBound rounds ≤ wholeLimit := by
        refine @le_wholeLimit _ (4 + 4 * rounds) ?_ (by rw [wholePlaces]; omega)
        rw [Nat.pow_add]
        exact Nat.mul_le_mul (by decide) (wholeBound_le rounds)
      obtain ⟨significand, shift, canonical, rounded, magnitude⟩ :=
        ofUnits_eq_finite false Nat.one_pos (roundedUnits_whole_lt bounded)
      refine ⟨significand, shift, canonical, product.trans rounded, ?_⟩
      rw [magnitude, roundedUnits_mul_one, wholeBound]

section Bounds

variable {rounds : Nat} (few : rounds ≤ 65)

include few

private theorem isFinite_powerBound : (powerBound rounds).isFinite = true := by
  obtain ⟨_, _, _, bound, _⟩ := exists_powerBound few
  rw [bound]
  rfl

theorem position_powerBound :
    (powerBound rounds).position = some ((powerBound rounds).magnitude : Int) := by
  obtain ⟨_, _, _, bound, _⟩ := exists_powerBound few
  rw [bound]
  rfl

private theorem magnitude_eq_wholeBound :
    (powerBound rounds).magnitude = wholeBound rounds * one := by
  obtain ⟨_, _, _, bound, magnitude⟩ := exists_powerBound few
  rw [bound]
  exact magnitude

end Bounds

/-- Up to twenty-two rounds the bounds are the powers of ten. -/
theorem magnitude_powerBound {rounds : Nat} (few : rounds ≤ 22) :
    (powerBound rounds).magnitude = 10 ^ rounds * one := by
  rw [magnitude_eq_wholeBound (by omega), wholeBound_eq_power few]

/-- Later bounds are beyond `10 ^ 16`. -/
theorem le_magnitude_powerBound {rounds : Nat} (few : rounds ≤ 65) (many : 16 ≤ rounds) :
    10 ^ 16 * one ≤ (powerBound rounds).magnitude := by
  rw [magnitude_eq_wholeBound few]
  exact Nat.mul_le_mul_right one (wholeBound_absorbs rounds few many).1

private theorem roundedUnits_powerBound {rounds : Nat} (few : rounds ≤ 65) (many : 16 ≤ rounds) :
    roundedUnits ((powerBound rounds).magnitude + one) 1 = (powerBound rounds).magnitude := by
  rw [magnitude_eq_wholeBound few, ← Nat.succ_mul, roundedUnits_mul_one,
    (wholeBound_absorbs rounds few many).2]

/-! ## The loop -/

private theorem not_less_of_reached {target : Binary64} {rounds : Nat} (few : rounds < 65)
    (reached : (powerBound rounds).less target = false) :
    (powerBound (rounds + 1)).less target = false := by
  have ascends : (powerBound rounds).magnitude ≤ (powerBound (rounds + 1)).magnitude := by
    have here := @magnitude_eq_wholeBound rounds (by omega)
    rw [@magnitude_eq_wholeBound (rounds + 1) (by omega), wholeBound, ← roundedUnits_mul_one]
    refine le_roundedUnits Nat.one_pos (isExact_magnitude _) ?_
    rw [here, Nat.mul_one (_ * one), Nat.mul_assoc]
    exact Nat.le_mul_of_pos_left _ (by decide)
  unfold less at reached ⊢
  rw [position_powerBound (by omega)] at reached ⊢
  cases placed : target.position with
  | none => rfl
  | some units =>
      rw [placed] at reached
      simp only [decide_eq_false_iff_not] at reached ⊢
      omega

/-- A bound that holds the target is followed by bounds that hold it. -/
private theorem reached_later {target : Binary64} {start : Nat}
    (reached : (powerBound start).less target = false) (rounds : Nat)
    (few : start + rounds ≤ 65) : (powerBound (start + rounds)).less target = false := by
  induction rounds with
  | zero => exact reached
  | succ rounds inductionHypothesis =>
      exact @not_less_of_reached _ (start + rounds) (by omega) (inductionHypothesis (by omega))

/-- The loop ends at the first bound that holds the target. -/
private theorem digitCountFrom_le_iff (target : Binary64) (steps start digits : Nat)
    (enough : digits < steps) (few : start + digits ≤ 65) :
    digitCountFrom target steps (powerBound start) ≤ digits ↔
      (powerBound (start + digits)).less target = false := by
  induction steps generalizing start digits with
  | zero => contradiction
  | succ steps inductionHypothesis =>
      rw [digitCountFrom, isFinite_powerBound (by omega), Bool.and_true]
      cases below : (powerBound start).less target with
      | false => simpa using reached_later below digits few
      | true =>
          cases digits with
          | zero => simp [below]
          | succ digits =>
              have later := inductionHypothesis (start + 1) digits (by omega) (by omega)
              rw [Nat.add_right_comm, Nat.add_assoc] at later
              rw [if_pos rfl, Nat.succ_le_succ_iff]
              exact later

/-- The count is the number of the first bound that holds the target. -/
theorem digitCount_le_iff (value : Binary64) {digits : Nat} (few : digits ≤ 65) :
    digitCount value ≤ digits ↔ (powerBound digits).less value.addOne = false := by
  have loop := digitCountFrom_le_iff value.addOne 400 0 digits (by omega) (by omega)
  rw [Nat.zero_add] at loop
  exact loop

/-! ## Targets -/

/-- The target of a number that is not negative. -/
theorem position_addOne {significand shift : Nat} (canonical : Canonical significand shift) :
    (finite false significand shift canonical).addOne.position =
      some (clampedUnits (significand * 2 ^ shift + one) 1 : Int) := by
  have natural : decide (((significand * 2 ^ shift : Nat) : Int) + one < 0) = false :=
    decide_eq_false (by omega)
  have magnitude : (((significand * 2 ^ shift : Nat) : Int) + one).natAbs =
      significand * 2 ^ shift + one := by omega
  unfold addOne ofSignedUnits
  simp only [Bool.false_eq_true, if_false, Nat.pow_eq, natural, magnitude]
  rw [position_ofUnits _ Nat.one_pos]
  rfl

/-- A bound holds a target just when it is no smaller than the target before clamping. -/
theorem holds_iff {target : Binary64} {numerator rounds : Nat} (few : rounds ≤ 65)
    (placed : target.position = some (clampedUnits numerator 1 : Int)) :
    (powerBound rounds).less target = false ↔
      roundedUnits numerator 1 ≤ (powerBound rounds).magnitude := by
  have finite := magnitude_lt_limit (powerBound rounds)
  rw [less_of_positions (position_powerBound few) placed, decide_eq_false_iff_not,
    clampedUnits]
  omega

/-! ## Positive doubles -/

section Positive

variable {significand shift : Nat} (canonical : Canonical significand shift)

/-- Up to twenty-two digits the loop compares the rounded target with the powers of ten. -/
theorem digitCount_finite_le_iff {digits : Nat} (few : digits ≤ 22) :
    digitCount (.finite false significand shift canonical) ≤ digits ↔
      roundedUnits (significand * 2 ^ shift + one) 1 ≤ 10 ^ digits * one := by
  rw [digitCount_le_iff _ (by omega), holds_iff (by omega) (position_addOne canonical),
    magnitude_powerBound few]

/-- One is not lost when it is added to a double that is not much smaller. -/
theorem digitCount_pos (reached : one ≤ 512 * (significand * 2 ^ shift)) :
    0 < digitCount (.finite false significand shift canonical) := by
  refine Nat.pos_of_ne_zero fun zero => ?_
  have held := (digitCount_finite_le_iff canonical (Nat.zero_le 22)).1 (Nat.le_of_eq zero)
  have split := @one_split 9 (by decide)
  have exact : IsExact (513 * 2 ^ (unitPlaces - 9)) := ⟨513, _, by decide, rfl⟩
  have rounded : 513 * 2 ^ (unitPlaces - 9) ≤ roundedUnits (significand * 2 ^ shift + one) 1 :=
    le_roundedUnits Nat.one_pos exact (by omega)
  have gridPos := Nat.two_pow_pos (unitPlaces - 9)
  omega

end Positive

/-! ## Whole parts -/

/-- A double from `2 ^ 53` on is whole. -/
private theorem whole_of_large {units : Nat} (exact : IsExact units)
    (large : 2 ^ 53 * one ≤ units) : units / one * one = units := by
  rw [one_eq] at large ⊢
  generalize unitPlaces = places at large ⊢
  obtain ⟨count, rfl⟩ := exact.exists_multiple
    (Nat.le_trans (Nat.mul_le_mul_right _ (by decide)) large)
  rw [Nat.mul_div_cancel _ (Nat.two_pow_pos places)]

section WholeParts

variable (number : Binary64)

private theorem isExact_wholePart : IsExact (number.wholePart * one) := by
  rcases Nat.lt_or_ge number.magnitude (2 ^ 53 * one) with small | large
  · have few : number.wholePart < 2 ^ 53 := by
      rw [wholePart, Nat.div_lt_iff_lt_mul positive_one]
      exact small
    exact isExact_whole (Nat.le_of_lt few)
  · rw [wholePart, whole_of_large (isExact_magnitude number) large]
    exact isExact_magnitude number

/-- The target of a whole part. -/
private theorem position_wholePart_addOne :
    (Binary64.ofInt number.wholePart).addOne.position =
      some (clampedUnits ((number.wholePart + 1) * one) 1 : Int) := by
  have bounded : number.wholePart * one < limit :=
    Nat.lt_of_le_of_lt (Nat.div_mul_le_self _ _) (magnitude_lt_limit number)
  obtain ⟨significand, shift, canonical, whole, magnitude⟩ :=
    exists_ofUnits_exact false (isExact_wholePart number) bounded
  have unsigned : decide ((number.wholePart : Int) < 0) = false := decide_eq_false (by omega)
  have written : Binary64.ofInt number.wholePart = .finite false significand shift canonical := by
    unfold Binary64.ofInt ofRatio
    rw [unsigned, Int.natAbs_natCast]
    exact whole
  rw [written, position_addOne, magnitude, Nat.succ_mul]

/-- Up to fifteen digits the whole part has as many as the loop counts. -/
theorem digitCount_wholePart_le_iff {digits : Nat} (few : digits < 16) :
    digitCount (.ofInt number.wholePart) ≤ digits ↔ number.wholePart < 10 ^ digits := by
  have power : 10 ^ digits < 2 ^ 53 :=
    Nat.lt_of_le_of_lt (Nat.pow_le_pow_right (by decide) (Nat.le_of_lt_succ few)) (by decide)
  rw [digitCount_le_iff _ (by omega),
    holds_iff (by omega) (position_wholePart_addOne number), magnitude_powerBound (by omega)]
  constructor
  · intro held
    refine Nat.lt_of_not_le fun reached => Nat.not_le_of_lt ?_ held
    calc 10 ^ digits * one < (10 ^ digits + 1) * one :=
          Nat.mul_lt_mul_of_pos_right (Nat.lt_succ_self _) positive_one
      _ ≤ roundedUnits ((number.wholePart + 1) * one) 1 := by
          refine le_roundedUnits Nat.one_pos (isExact_whole power) ?_
          rw [Nat.mul_one]
          exact Nat.mul_le_mul_right one (Nat.succ_le_succ reached)
  · intro below
    refine roundedUnits_le Nat.one_pos (isExact_whole (Nat.le_of_lt power)) ?_
    rw [Nat.mul_one]
    exact Nat.mul_le_mul_right one below

/-- From sixteen digits on the loop compares the number itself with its bounds. -/
theorem digitCount_wholePart_le_iff_of_large {digits : Nat} (many : 16 ≤ digits)
    (few : digits ≤ 65) :
    digitCount (.ofInt number.wholePart) ≤ digits ↔
      number.magnitude ≤ (powerBound digits).magnitude := by
  have large := le_magnitude_powerBound few many
  have exact := isExact_magnitude number
  rw [digitCount_le_iff _ few, holds_iff few (position_wholePart_addOne number)]
  constructor
  · intro held
    rcases Nat.lt_or_ge number.magnitude (2 ^ 53 * one) with small | whole
    · omega
    · refine Nat.le_trans (le_roundedUnits Nat.one_pos exact ?_) held
      rw [Nat.mul_one, wholePart, Nat.succ_mul, whole_of_large exact whole]
      exact Nat.le_add_right _ _
  · intro below
    rw [← roundedUnits_powerBound few many]
    refine roundedUnits_mono Nat.one_pos Nat.one_pos ?_
    rw [Nat.mul_one, Nat.mul_one, Nat.succ_mul]
    exact Nat.add_le_add_right (Nat.le_trans (Nat.div_mul_le_self _ _) below) one

end WholeParts

end SchemaKeeper.Column
