import Mathlib.Algebra.Group.Nat.Defs
import SchemaKeeper.Binary64.Basic

/-!
Contract: what rounding to doubles keeps and does not pass.

Numbers of units with at most fifty-three significant bits are exact. Rounding goes to an
exact number without passing another one, so it keeps exact numbers, keeps the order, and
gives a finite double below `2 ^ 2098` units.

Owns: bounds on rounded numbers, their order and their place, and the doubles that are
exact.

Does not own: what a rounded number is used for.
-/

namespace SchemaKeeper.Binary64

/-! ## Whole numbers -/

section WholeNumbers

variable {numerator denominator bound : Nat}

theorem le_roundHalfEven (positive : 0 < denominator)
    (reached : bound * denominator ≤ numerator) :
    bound ≤ roundHalfEven numerator denominator := by
  have below : bound ≤ numerator / denominator := (Nat.le_div_iff_mul_le positive).2 reached
  unfold roundHalfEven
  dsimp only
  split <;> omega

theorem roundHalfEven_le (positive : 0 < denominator)
    (kept : numerator ≤ bound * denominator) :
    roundHalfEven numerator denominator ≤ bound := by
  have quotientLe : numerator / denominator ≤ bound :=
    Nat.div_le_of_le_mul (Nat.mul_comm bound denominator ▸ kept)
  unfold roundHalfEven
  dsimp only
  split
  next upward =>
    -- Rounding up from the bound itself would need a rest.
    have notThere : numerator / denominator ≠ bound := by
      intro there
      have whole := Nat.div_add_mod numerator denominator
      rw [there, Nat.mul_comm] at whole
      omega
    omega
  next => exact quotientLe

private theorem quotient_mono {larger divisor : Nat} (positive : 0 < denominator)
    (divisorPositive : 0 < divisor) (ordered : numerator * divisor ≤ larger * denominator) :
    numerator / denominator ≤ larger / divisor := by
  rw [Nat.le_div_iff_mul_le divisorPositive]
  refine Nat.le_of_mul_le_mul_right ?_ positive
  calc numerator / denominator * divisor * denominator
      = numerator / denominator * denominator * divisor := Nat.mul_right_comm _ _ _
    _ ≤ numerator * divisor := Nat.mul_le_mul_right _ (Nat.div_mul_le_self _ _)
    _ ≤ larger * denominator := ordered

/-- A larger fraction of one reaches a half where the smaller one does. -/
private theorem half_mono {rest largerRest divisor : Nat} (positive : 0 < denominator)
    (divisorPositive : 0 < divisor) (ordered : rest * divisor ≤ largerRest * denominator) :
    (denominator < 2 * rest → divisor < 2 * largerRest) ∧
      (denominator ≤ 2 * rest → divisor ≤ 2 * largerRest) := by
  have doubled : 2 * rest * divisor ≤ 2 * largerRest * denominator := by
    rw [Nat.mul_assoc, Nat.mul_assoc]
    exact Nat.mul_le_mul_left 2 ordered
  constructor
  · intro above
    refine Nat.lt_of_mul_lt_mul_right (a := denominator) ?_
    rw [Nat.mul_comm divisor]
    exact Nat.lt_of_lt_of_le (Nat.mul_lt_mul_of_pos_right above divisorPositive) doubled
  · intro reached
    refine Nat.le_of_mul_le_mul_right ?_ positive
    rw [Nat.mul_comm divisor]
    exact Nat.le_trans (Nat.mul_le_mul_right divisor reached) doubled

/-- A fraction that is no larger is not rounded to a larger whole number. -/
theorem roundHalfEven_mono {larger divisor : Nat} (positive : 0 < denominator)
    (divisorPositive : 0 < divisor) (ordered : numerator * divisor ≤ larger * denominator) :
    roundHalfEven numerator denominator ≤ roundHalfEven larger divisor := by
  rcases Nat.lt_or_eq_of_le (quotient_mono positive divisorPositive ordered) with apart | same
  · calc roundHalfEven numerator denominator ≤ numerator / denominator + 1 :=
          roundHalfEven_le positive
            (Nat.le_of_lt ((Nat.div_lt_iff_lt_mul positive).1 (Nat.lt_succ_self _)))
      _ ≤ larger / divisor := apart
      _ ≤ roundHalfEven larger divisor :=
          le_roundHalfEven divisorPositive (Nat.div_mul_le_self _ _)
  · -- Both lie above the same whole number, so only their rests decide.
    have restOrdered : numerator % denominator * divisor ≤ larger % divisor * denominator := by
      have left := Nat.div_add_mod numerator denominator
      have right := Nat.div_add_mod larger divisor
      rw [← same] at right
      rw [← left, ← right, Nat.add_mul, Nat.add_mul] at ordered
      have whole : denominator * (numerator / denominator) * divisor =
          divisor * (numerator / denominator) * denominator := by ac_rfl
      omega
    obtain ⟨above, reached⟩ := half_mono positive divisorPositive restOrdered
    unfold roundHalfEven
    dsimp only
    rw [← same]
    split
    next upward =>
      rcases upward with past | ⟨half, odd⟩
      · exact Nat.le_of_eq (if_pos (.inl (above past))).symm
      · have ending := Nat.lt_or_eq_of_le (reached (Nat.le_of_eq half.symm))
        exact Nat.le_of_eq (if_pos (ending.imp_right fun exactly => ⟨exactly.symm, odd⟩)).symm
    next => split <;> omega

end WholeNumbers

/-! ## Exact numbers -/

/-- At most fifty-three bits of a number of units are significant. -/
def IsExact (units : Nat) : Prop :=
  ∃ significand exponent, significand < 2 ^ 53 ∧ units = significand * 2 ^ exponent

theorem isExact_magnitude (number : Binary64) : IsExact number.magnitude := by
  cases number with
  | finite negative significand shift canonical =>
      exact ⟨significand, shift, canonical.1, rfl⟩
  | _ => exact ⟨0, 0, by decide, rfl⟩

theorem IsExact.mul_two_pow {units : Nat} (exact : IsExact units) (places : Nat) :
    IsExact (units * 2 ^ places) := by
  obtain ⟨significand, exponent, bits, rfl⟩ := exact
  exact ⟨significand, exponent + places, bits, by rw [Nat.mul_assoc, Nat.pow_add]⟩

/-- The fives of a power of ten fill the bits only behind the twenty-second. -/
theorem isExact_pow_ten {power : Nat} (few : power ≤ 22) : IsExact (10 ^ power) :=
  ⟨5 ^ power, power,
    Nat.lt_of_le_of_lt (Nat.pow_le_pow_right (by decide) few) (by decide), Nat.mul_pow 5 2 power⟩

/-- How many binary places units lie behind the point. -/
def unitPlaces : Nat := 1074

theorem one_eq : one = 2 ^ unitPlaces := by decide +kernel

theorem positive_one : 0 < one := by
  rw [one_eq]
  exact Nat.two_pow_pos unitPlaces

theorem one_split {places : Nat} (few : places ≤ unitPlaces) :
    one = 2 ^ places * 2 ^ (unitPlaces - places) := by
  rw [one_eq, ← Nat.pow_add, Nat.add_sub_cancel' few]

/-- Natural numbers up to `2 ^ 53` are exact. -/
theorem isExact_whole {number : Nat} (small : number ≤ 2 ^ 53) : IsExact (number * one) := by
  rw [one_eq]
  refine IsExact.mul_two_pow ?_ unitPlaces
  rcases Nat.lt_or_eq_of_le small with below | rfl
  · exact ⟨number, 0, below, (Nat.mul_one number).symm⟩
  · exact ⟨1, 53, by decide, by decide⟩

/-- The first number of units beyond the finite doubles. -/
def limit : Nat := Nat.pow 2 2098

/-- How many binary places units have below the limit. -/
def limitPlaces : Nat := 2098

theorem limit_eq : limit = 2 ^ limitPlaces := by decide +kernel

theorem whole_lt_limit {places : Nat} (few : places + unitPlaces < limitPlaces) :
    2 ^ places * one < limit := by
  rw [one_eq, limit_eq, ← Nat.pow_add]
  exact Nat.pow_lt_pow_right (by decide) few

theorem magnitude_lt_limit (number : Binary64) : number.magnitude < limit := by
  rw [limit_eq]
  cases number with
  | finite negative significand shift canonical =>
      calc significand * 2 ^ shift < 2 ^ 53 * 2 ^ shift :=
            Nat.mul_lt_mul_of_pos_right canonical.1 (Nat.two_pow_pos shift)
        _ = 2 ^ (53 + shift) := (Nat.pow_add 2 53 shift).symm
        _ ≤ 2 ^ limitPlaces :=
            Nat.pow_le_pow_right (by decide) (Nat.add_le_add_left canonical.2.2 53)
  | _ => exact Nat.two_pow_pos limitPlaces

/-- The infinities stand where the finite doubles end. -/
theorem position_infinity (negative : Bool) :
    (infinity negative).position = some (if negative then -(limit : Int) else limit) := by
  have far : Int.pow 2 limitPlaces = (limit : Int) := by
    rw [limit_eq]
    exact (Int.natCast_pow 2 limitPlaces).symm
  rw [position, ← far, limitPlaces]

/-! ## Rounded numbers -/

section Rounded

variable (numerator denominator : Nat)

/-- The exponent of the grid that a fraction is rounded on: fifty-three bits remain. -/
def gridShift : Nat :=
  (numerator / denominator).log2 - 52

/-- The number of units that a fraction is rounded to if there is no largest double. -/
def roundedUnits : Nat :=
  roundHalfEven numerator (denominator * 2 ^ gridShift numerator denominator) *
    2 ^ gridShift numerator denominator

variable {numerator denominator} {bound : Nat}

private theorem grid_pos (positive : 0 < denominator) (shift : Nat) :
    0 < denominator * 2 ^ shift :=
  Nat.mul_pos positive (Nat.two_pow_pos shift)

/-- A fraction on a coarse grid has all fifty-three bits. -/
private theorem coarse_le (positive : 0 < denominator)
    (coarse : 0 < gridShift numerator denominator) :
    2 ^ 52 * (denominator * 2 ^ gridShift numerator denominator) ≤ numerator := by
  have shiftEq : (numerator / denominator).log2 = 52 + gridShift numerator denominator := by
    unfold gridShift at coarse ⊢
    omega
  have nonzero : numerator / denominator ≠ 0 := by
    intro zero
    rw [zero, Nat.log2_zero] at shiftEq
    omega
  have reached := Nat.log2_self_le nonzero
  rw [shiftEq, Nat.le_div_iff_mul_le positive, Nat.pow_add] at reached
  calc 2 ^ 52 * (denominator * 2 ^ gridShift numerator denominator)
      = 2 ^ 52 * 2 ^ gridShift numerator denominator * denominator := by
        rw [Nat.mul_comm denominator, Nat.mul_assoc]
    _ ≤ numerator := reached

private theorem lt_grid (positive : 0 < denominator) :
    numerator < 2 ^ 53 * (denominator * 2 ^ gridShift numerator denominator) := by
  have above : numerator / denominator < 2 ^ (53 + gridShift numerator denominator) := by
    refine Nat.lt_of_lt_of_le Nat.lt_log2_self (Nat.pow_le_pow_right (by decide) ?_)
    unfold gridShift
    omega
  rw [Nat.div_lt_iff_lt_mul positive, Nat.pow_add] at above
  calc numerator < 2 ^ 53 * 2 ^ gridShift numerator denominator * denominator := above
    _ = 2 ^ 53 * (denominator * 2 ^ gridShift numerator denominator) := by
        rw [Nat.mul_comm denominator, Nat.mul_assoc]

/-- An exact number with a finer grid is below all numbers with all bits on a coarser one. -/
private theorem finer_lt {significand exponent shift : Nat} (bits : significand < 2 ^ 53)
    (finer : exponent < shift) : significand * 2 ^ exponent < 2 ^ 52 * 2 ^ shift := by
  calc significand * 2 ^ exponent < 2 ^ 53 * 2 ^ exponent :=
        Nat.mul_lt_mul_of_pos_right bits (Nat.two_pow_pos exponent)
    _ = 2 ^ 52 * 2 ^ (exponent + 1) := by
        rw [Nat.pow_succ 2 exponent]
        omega
    _ ≤ 2 ^ 52 * 2 ^ shift := Nat.mul_le_mul_left _ (Nat.pow_le_pow_right (by decide) finer)

private theorem onGrid {exponent shift : Nat} (significand : Nat) (coarser : shift ≤ exponent) :
    significand * 2 ^ exponent = significand * 2 ^ (exponent - shift) * 2 ^ shift := by
  rw [Nat.mul_assoc, ← Nat.pow_add, Nat.sub_add_cancel coarser]

/-- An exact number with all bits on a grid stands on it. -/
theorem IsExact.exists_multiple {units shift : Nat} (exact : IsExact units)
    (large : 2 ^ 52 * 2 ^ shift ≤ units) : ∃ count, units = count * 2 ^ shift := by
  obtain ⟨significand, exponent, bits, rfl⟩ := exact
  have coarser : shift ≤ exponent :=
    Nat.le_of_not_lt fun finer => Nat.not_le_of_lt (finer_lt bits finer) large
  exact ⟨_, onGrid significand coarser⟩

/-- Rounding does not pass an exact number that the fraction reaches. -/
theorem le_roundedUnits (positive : 0 < denominator) (exact : IsExact bound)
    (reached : bound * denominator ≤ numerator) : bound ≤ roundedUnits numerator denominator := by
  obtain ⟨significand, exponent, bits, rfl⟩ := exact
  unfold roundedUnits
  generalize gridEq : gridShift numerator denominator = shift
  rcases Nat.lt_or_ge exponent shift with finer | coarser
  · have coarse := coarse_le positive (gridEq ▸ Nat.zero_lt_of_lt finer)
    rw [gridEq] at coarse
    exact Nat.le_trans (Nat.le_of_lt (finer_lt bits finer))
      (Nat.mul_le_mul_right _ (le_roundHalfEven (grid_pos positive shift) coarse))
  · rw [onGrid significand coarser] at reached ⊢
    refine Nat.mul_le_mul_right _ (le_roundHalfEven (grid_pos positive shift) ?_)
    rw [Nat.mul_comm denominator, ← Nat.mul_assoc]
    exact reached

/-- Rounding does not pass an exact number that the fraction stays below. -/
theorem roundedUnits_le (positive : 0 < denominator) (exact : IsExact bound)
    (kept : numerator ≤ bound * denominator) : roundedUnits numerator denominator ≤ bound := by
  obtain ⟨significand, exponent, bits, rfl⟩ := exact
  unfold roundedUnits
  generalize gridEq : gridShift numerator denominator = shift
  rcases Nat.lt_or_ge exponent shift with finer | coarser
  · -- The fraction would have all bits of its coarser grid and pass the bound.
    have coarse := coarse_le positive (gridEq ▸ Nat.zero_lt_of_lt finer)
    have passed := Nat.mul_lt_mul_of_pos_right (finer_lt bits finer) positive
    rw [gridEq] at coarse
    rw [Nat.mul_assoc (2 ^ 52), Nat.mul_comm (2 ^ shift)] at passed
    omega
  · rw [onGrid significand coarser] at kept ⊢
    refine Nat.mul_le_mul_right _ (roundHalfEven_le (grid_pos positive shift) ?_)
    rw [Nat.mul_comm denominator, ← Nat.mul_assoc]
    exact kept

private theorem gridShift_mono {larger divisor : Nat} (positive : 0 < denominator)
    (divisorPositive : 0 < divisor) (ordered : numerator * divisor ≤ larger * denominator) :
    gridShift numerator denominator ≤ gridShift larger divisor := by
  have quotients := quotient_mono positive divisorPositive ordered
  refine Nat.sub_le_sub_right ?_ 52
  by_cases zero : numerator / denominator = 0
  · rw [zero, Nat.log2_zero]
    exact Nat.zero_le _
  · have largerNonzero : larger / divisor ≠ 0 :=
      Nat.ne_of_gt (Nat.lt_of_lt_of_le (Nat.pos_of_ne_zero zero) quotients)
    exact (Nat.le_log2 largerNonzero).2 (Nat.le_trans (Nat.log2_self_le zero) quotients)

/-- Rounding keeps the order. -/
theorem roundedUnits_mono {larger divisor : Nat} (positive : 0 < denominator)
    (divisorPositive : 0 < divisor) (ordered : numerator * divisor ≤ larger * denominator) :
    roundedUnits numerator denominator ≤ roundedUnits larger divisor := by
  have shifts := gridShift_mono positive divisorPositive ordered
  rcases Nat.lt_or_eq_of_le shifts with finer | same
  · -- The larger fraction has all bits on its coarser grid.
    have coarse := coarse_le divisorPositive (Nat.zero_lt_of_lt finer)
    calc roundedUnits numerator denominator
        ≤ 2 ^ 53 * 2 ^ gridShift numerator denominator :=
          Nat.mul_le_mul_right _
            (roundHalfEven_le (grid_pos positive _) (Nat.le_of_lt (lt_grid positive)))
      _ = 2 ^ 52 * 2 ^ (gridShift numerator denominator + 1) := by
          rw [Nat.pow_succ 2 (gridShift numerator denominator)]
          omega
      _ ≤ 2 ^ 52 * 2 ^ gridShift larger divisor :=
          Nat.mul_le_mul_left _ (Nat.pow_le_pow_right (by decide) finer)
      _ ≤ roundedUnits larger divisor :=
          Nat.mul_le_mul_right _ (le_roundHalfEven (grid_pos divisorPositive _) coarse)
  · unfold roundedUnits
    rw [← same]
    refine Nat.mul_le_mul_right _
      (roundHalfEven_mono (grid_pos positive _) (grid_pos divisorPositive _) ?_)
    rw [← Nat.mul_assoc, ← Nat.mul_assoc]
    exact Nat.mul_le_mul_right _ ordered

/-- Rounding keeps exact numbers. -/
theorem roundedUnits_of_isExact {units : Nat} (exact : IsExact units) :
    roundedUnits units 1 = units :=
  Nat.le_antisymm
    (roundedUnits_le Nat.one_pos exact (Nat.le_of_eq (Nat.mul_one units).symm))
    (le_roundedUnits Nat.one_pos exact (Nat.le_of_eq (Nat.mul_one units)))

/-- A significand below the limit fits a double, halved if it has one bit too many. -/
private theorem exists_canonical {rounded shift : Nat} (atMost : rounded ≤ 2 ^ 53)
    (normal : shift = 0 ∨ 2 ^ 52 ≤ rounded) (bounded : rounded * 2 ^ shift < limit) :
    Canonical rounded shift ∨
      rounded = 2 ^ 53 ∧ Canonical (rounded / 2) (shift + 1) := by
  have shiftLt {least places : Nat} (reached : 2 ^ least ≤ rounded)
      (total : least + places = limitPlaces) : shift < places := by
    refine Nat.lt_of_not_le fun beyond => Nat.not_le_of_lt bounded ?_
    calc limit = 2 ^ least * 2 ^ places := by
          rw [limit_eq, ← Nat.pow_add, total]
      _ ≤ rounded * 2 ^ shift :=
          Nat.mul_le_mul reached (Nat.pow_le_pow_right (by decide) beyond)
  rcases Nat.lt_or_eq_of_le atMost with below | rfl
  · refine .inl ⟨below, normal, ?_⟩
    rcases normal with rfl | reached
    · decide
    · exact Nat.le_of_lt_succ (shiftLt reached (by decide))
  · exact .inr ⟨rfl, by decide, .inr (by decide), shiftLt (Nat.le_refl _) (by decide)⟩

/-- A rounded significand is one that a double can have, or one more. -/
private theorem grid_significand (positive : 0 < denominator) :
    roundHalfEven numerator (denominator * 2 ^ gridShift numerator denominator) ≤ 2 ^ 53 ∧
      (gridShift numerator denominator = 0 ∨
        2 ^ 52 ≤ roundHalfEven numerator (denominator * 2 ^ gridShift numerator denominator)) := by
  refine ⟨roundHalfEven_le (grid_pos positive _) (Nat.le_of_lt (lt_grid positive)), ?_⟩
  rcases Nat.eq_zero_or_pos (gridShift numerator denominator) with fine | coarse
  · exact .inl fine
  · exact .inr (le_roundHalfEven (grid_pos positive _) (coarse_le positive coarse))

/-- Below the limit a fraction is rounded to a finite double. -/
theorem ofUnits_eq_finite (negative : Bool) (positive : 0 < denominator)
    (bounded : roundedUnits numerator denominator < limit) :
    ∃ significand shift canonical,
      ofUnits negative numerator denominator = .finite negative significand shift canonical ∧
        significand * 2 ^ shift = roundedUnits numerator denominator := by
  obtain ⟨atMost, normal⟩ := @grid_significand numerator denominator positive
  unfold ofUnits
  rcases exists_canonical atMost normal bounded with canonical | ⟨carry, carried⟩
  · exact ⟨_, _, canonical, dif_pos canonical, rfl⟩
  · refine ⟨_, _, carried, ?_, ?_⟩
    · exact (dif_neg fun canonical => Nat.ne_of_lt canonical.1 carry).trans (dif_pos carried)
    · rw [roundedUnits, carry, Nat.pow_succ]
      omega

/-- From the limit on a fraction is rounded to an infinity. -/
theorem ofUnits_eq_infinity (negative : Bool) (positive : 0 < denominator)
    (beyond : limit ≤ roundedUnits numerator denominator) :
    ofUnits negative numerator denominator = .infinity negative := by
  obtain ⟨atMost, normal⟩ := @grid_significand numerator denominator positive
  have tooLarge : ¬Canonical
      (roundHalfEven numerator (denominator * 2 ^ gridShift numerator denominator))
      (gridShift numerator denominator) := fun canonical =>
    Nat.not_le_of_lt (magnitude_lt_limit (.finite negative _ _ canonical)) beyond
  have notCarried : ¬Canonical
      (roundHalfEven numerator (denominator * 2 ^ gridShift numerator denominator) / 2)
      (gridShift numerator denominator + 1) := by
    intro carried
    -- Only the significand with one bit too many would be halved.
    have carry : roundHalfEven numerator (denominator * 2 ^ gridShift numerator denominator) =
        2 ^ 53 :=
      Nat.le_antisymm atMost (Nat.le_of_not_lt fun below =>
        tooLarge ⟨below, normal, Nat.le_of_succ_le carried.2.2⟩)
    have bounded := magnitude_lt_limit (.finite negative _ _ carried)
    change _ / 2 * 2 ^ (gridShift numerator denominator + 1) < limit at bounded
    rw [carry, Nat.pow_succ 2 (gridShift numerator denominator)] at bounded
    rw [roundedUnits, carry] at beyond
    omega
  exact (dif_neg tooLarge).trans (dif_neg notCarried)

end Rounded

/-! ## Whole units -/

theorem log2_mul_power {number scale places : Nat} (positive : 0 < number)
    (power : scale = 2 ^ places) : (number * scale).log2 = number.log2 + places := by
  subst power
  have scaledPositive : 0 < number * 2 ^ places := Nat.mul_pos positive (Nat.two_pow_pos places)
  rw [Nat.log2_eq_iff (Nat.ne_of_gt scaledPositive)]
  constructor
  · rw [Nat.pow_add]
    exact Nat.mul_le_mul_right _ (Nat.log2_self_le (Nat.ne_of_gt positive))
  · rw [Nat.add_right_comm, Nat.pow_add]
    exact Nat.mul_lt_mul_of_pos_right Nat.lt_log2_self (Nat.two_pow_pos places)

private theorem roundHalfEven_scale {numerator denominator scale : Nat}
    (positive : 0 < denominator) (scalePos : 0 < scale) :
    roundHalfEven (numerator * scale) (denominator * scale) =
      roundHalfEven numerator denominator := by
  have scaledPos : 0 < denominator * scale := Nat.mul_pos positive scalePos
  have same : numerator * scale * denominator = numerator * (denominator * scale) := by ac_rfl
  exact Nat.le_antisymm
    (roundHalfEven_mono scaledPos positive (Nat.le_of_eq same))
    (roundHalfEven_mono positive scaledPos (Nat.le_of_eq same.symm))

/-- Whole numbers are rounded alike in ones and in units. -/
theorem roundedUnits_mul_one (number : Nat) :
    roundedUnits (number * one) 1 = roundedUnits number 1 * one := by
  rcases Nat.lt_or_ge number (2 ^ 53) with small | large
  · have exact : IsExact number := ⟨number, 0, small, (Nat.mul_one number).symm⟩
    rw [roundedUnits_of_isExact exact, roundedUnits_of_isExact (isExact_whole (Nat.le_of_lt small))]
  · have positive : 0 < number := Nat.lt_of_lt_of_le (by decide) large
    have bits : 53 ≤ number.log2 := (Nat.le_log2 (Nat.ne_of_gt positive)).2 large
    have shift : gridShift (number * one) 1 = gridShift number 1 + unitPlaces := by
      unfold gridShift
      rw [Nat.div_one, Nat.div_one, log2_mul_power positive one_eq]
      omega
    unfold roundedUnits
    rw [shift, Nat.pow_add, ← one_eq, ← Nat.mul_assoc, ← Nat.mul_assoc,
      roundHalfEven_scale (Nat.mul_pos Nat.one_pos (Nat.two_pow_pos _)) positive_one]

/-! ## Exact doubles -/

/-- An exact number of units below the limit is a double. -/
theorem exists_ofUnits_exact (negative : Bool) {units : Nat} (exact : IsExact units)
    (bounded : units < limit) :
    ∃ significand shift canonical,
      ofUnits negative units 1 = .finite negative significand shift canonical ∧
        significand * 2 ^ shift = units := by
  have kept := roundedUnits_of_isExact exact
  rw [← kept] at bounded
  obtain ⟨significand, shift, canonical, rounded, magnitude⟩ :=
    ofUnits_eq_finite negative Nat.one_pos bounded
  exact ⟨significand, shift, canonical, rounded, magnitude.trans kept⟩

private theorem mul_one_lt_limit {number : Nat} (small : number ≤ 2 ^ 54) :
    number * one < limit := by
  calc number * one ≤ 2 ^ 54 * one := Nat.mul_le_mul_right one small
    _ < limit := whole_lt_limit (by decide)

theorem ofInt_natCast (number : Nat) : ofInt number = ofUnits false (number * one) 1 := by
  have unsigned : decide ((number : Int) < 0) = false := decide_eq_false (by omega)
  rw [ofInt, ofRatio, unsigned, Int.natAbs_natCast]

/-- Natural numbers up to `2 ^ 53` are doubles. -/
theorem exists_ofInt_exact {number : Nat} (small : number ≤ 2 ^ 53) :
    ∃ significand shift canonical,
      ofInt number = .finite false significand shift canonical ∧
        significand * 2 ^ shift = number * one := by
  rw [ofInt_natCast]
  exact exists_ofUnits_exact false (isExact_whole small)
    (mul_one_lt_limit (Nat.le_trans small (by decide)))

/-- Twice a natural number up to `2 ^ 53` is a double. -/
theorem exists_double_exact {number : Nat} (small : number ≤ 2 ^ 53) :
    ∃ significand shift canonical,
      (ofInt number).timesNat 2 = .finite false significand shift canonical ∧
        significand * 2 ^ shift = 2 * number * one := by
  obtain ⟨significand, shift, canonical, whole, magnitude⟩ := exists_ofInt_exact small
  have exact : IsExact (2 * number * one) := by
    rw [Nat.mul_assoc, Nat.mul_comm]
    exact (isExact_whole small).mul_two_pow 1
  have bounded := @mul_one_lt_limit (2 * number) (by omega)
  rw [whole, timesNat, Nat.pow_eq, magnitude, ← Nat.mul_assoc]
  exact exists_ofUnits_exact false exact bounded

/-! ## Places -/

theorem atMost_of_positions {left right : Binary64} {here there : Int}
    (leftPlaced : left.position = some here) (rightPlaced : right.position = some there) :
    left.atMost right = decide (here ≤ there) := by
  unfold atMost
  rw [leftPlaced, rightPlaced]

theorem less_of_positions {left right : Binary64} {here there : Int}
    (leftPlaced : left.position = some here) (rightPlaced : right.position = some there) :
    left.less right = decide (here < there) := by
  unfold less
  rw [leftPlaced, rightPlaced]

theorem exists_position_of_sameNumber {left right : Binary64}
    (same : left.sameNumber right = true) :
    ∃ units, left.position = some units ∧ right.position = some units := by
  unfold sameNumber at same
  cases here : left.position <;> cases there : right.position <;> simp_all

/-- The number of units that a fraction is rounded to. An infinity counts as the limit. -/
def clampedUnits (numerator denominator : Nat) : Nat :=
  min (roundedUnits numerator denominator) limit

theorem clampedUnits_eq {numerator denominator : Nat}
    (bounded : roundedUnits numerator denominator < limit) :
    clampedUnits numerator denominator = roundedUnits numerator denominator :=
  Nat.min_eq_left (Nat.le_of_lt bounded)

theorem clampedUnits_eq_of_lt {numerator denominator : Nat}
    (finite : clampedUnits numerator denominator < limit) :
    clampedUnits numerator denominator = roundedUnits numerator denominator := by
  unfold clampedUnits at *
  omega

theorem position_ofUnits (negative : Bool) {numerator denominator : Nat}
    (positive : 0 < denominator) :
    (ofUnits negative numerator denominator).position =
      some (if negative then -(clampedUnits numerator denominator : Int)
        else clampedUnits numerator denominator) := by
  rcases Nat.lt_or_ge (roundedUnits numerator denominator) limit with below | beyond
  · obtain ⟨significand, shift, canonical, rounded, magnitude⟩ :=
      ofUnits_eq_finite negative positive below
    rw [rounded, position, Nat.pow_eq, magnitude, clampedUnits_eq below]
  · rw [ofUnits_eq_infinity negative positive beyond, clampedUnits, Nat.min_eq_right beyond,
      position_infinity]

/-- The place of a double is an exact number of units on either side of zero. -/
theorem isExact_position {number : Binary64} {units : Int}
    (placed : number.position = some units) : IsExact units.natAbs := by
  cases number with
  | nan => contradiction
  | infinity negative =>
      have far : units.natAbs = 1 * 2 ^ limitPlaces := by
        rw [position_infinity] at placed
        obtain rfl := Option.some.inj placed
        rw [Nat.one_mul, ← limit_eq]
        cases negative with
        | false => exact Int.natAbs_natCast limit
        | true => exact (Int.natAbs_neg _).trans (Int.natAbs_natCast limit)
      exact ⟨1, limitPlaces, by decide, far⟩
  | finite negative significand shift canonical =>
      have near : units.natAbs = significand * 2 ^ shift := by
        obtain rfl := Option.some.inj placed
        cases negative with
        | false => exact Int.natAbs_natCast _
        | true => exact (Int.natAbs_neg _).trans (Int.natAbs_natCast _)
      exact ⟨significand, shift, canonical.1, near⟩

/-- How many binary places integers may have that are surely rounded below the limit. -/
def wholePlaces : Nat := 1023

/-- Integers up to this one are rounded below the limit. -/
def wholeLimit : Nat := 2 ^ wholePlaces

theorem le_wholeLimit {number places : Nat} (small : number ≤ 2 ^ places)
    (few : places ≤ wholePlaces) : number ≤ wholeLimit :=
  Nat.le_trans small (Nat.pow_le_pow_right Nat.two_pos few)

theorem roundedUnits_whole_lt {number : Nat} (bounded : number ≤ wholeLimit) :
    roundedUnits (number * one) 1 < limit := by
  have limitExact : IsExact wholeLimit :=
    ⟨1, wholePlaces, by decide, by rw [wholeLimit, Nat.one_mul]⟩
  have exact : IsExact (wholeLimit * one) := one_eq ▸ limitExact.mul_two_pow unitPlaces
  have kept : roundedUnits (number * one) 1 ≤ wholeLimit * one := by
    refine roundedUnits_le Nat.one_pos exact ?_
    rw [Nat.mul_one]
    exact Nat.mul_le_mul_right one bounded
  refine Nat.lt_of_le_of_lt kept ?_
  rw [wholeLimit]
  exact whole_lt_limit (by decide)

theorem position_ofInt {value : Int} (bounded : value.natAbs ≤ wholeLimit) :
    (ofInt value).position =
      some (if value < 0 then -(roundedUnits (value.natAbs * one) 1 : Int)
        else roundedUnits (value.natAbs * one) 1) := by
  unfold ofInt ofRatio
  rw [position_ofUnits _ Nat.one_pos, clampedUnits_eq (roundedUnits_whole_lt bounded)]
  simp only [decide_eq_true_eq]

theorem exists_ofInt_finite {number : Nat} (bounded : number ≤ wholeLimit) :
    ∃ significand shift canonical,
      ofInt number = .finite false significand shift canonical ∧
        significand * 2 ^ shift = roundedUnits (number * one) 1 := by
  rw [ofInt_natCast]
  exact ofUnits_eq_finite false Nat.one_pos (roundedUnits_whole_lt bounded)

theorem magnitude_ofInt {number : Nat} (bounded : number ≤ wholeLimit) :
    (ofInt number).magnitude = roundedUnits (number * one) 1 := by
  obtain ⟨significand, shift, canonical, rounded, magnitude⟩ := exists_ofInt_finite bounded
  rw [rounded]
  exact magnitude

theorem position_ofInt_natural {number : Nat} (bounded : number ≤ wholeLimit) :
    (ofInt number).position = some ((ofInt number).magnitude : Int) := by
  rw [position_ofInt (by rwa [Int.natAbs_natCast]), magnitude_ofInt bounded,
    if_neg (Int.not_lt.2 (Int.natCast_nonneg number)), Int.natAbs_natCast]

/-- An integer is rounded to a place that no exact number separates from it. -/
theorem exists_position_ofInt {value : Int} (bounded : value.natAbs ≤ wholeLimit) :
    ∃ place, (ofInt value).position = some place ∧
      ∀ units : Int, IsExact units.natAbs →
        (value * one ≤ units → place ≤ units) ∧ (units ≤ value * one → units ≤ place) := by
  refine ⟨_, position_ofInt bounded, fun units exact => ?_⟩
  have magnitude : value * one = value.sign * ((value.natAbs * one : Nat) : Int) := by
    rw [Int.natCast_mul, ← Int.mul_assoc, Int.sign_mul_natAbs]
  have above (reached : units.natAbs ≤ value.natAbs * one) :
      units.natAbs ≤ roundedUnits (value.natAbs * one) 1 := by
    refine le_roundedUnits Nat.one_pos exact ?_
    rw [Nat.mul_one]
    exact reached
  have below (kept : value.natAbs * one ≤ units.natAbs) :
      roundedUnits (value.natAbs * one) 1 ≤ units.natAbs := by
    refine roundedUnits_le Nat.one_pos exact ?_
    rw [Nat.mul_one]
    exact kept
  by_cases negative : value < 0
  · rw [if_pos negative, magnitude, Int.sign_eq_neg_one_of_neg negative]
    omega
  · have natural : value * one = (value.natAbs * one : Nat) := by
      rw [Int.natCast_mul, Int.natAbs_of_nonneg (Int.not_lt.1 negative)]
    rw [if_neg negative, natural]
    omega

/-- Integers up to `2 ^ 53` on either side of zero are their own nearest doubles. -/
theorem position_ofInt_exact {value : Int} (small : value.natAbs ≤ 2 ^ 53) :
    (ofInt value).position = some (value * one) := by
  have bounded := le_wholeLimit small (by decide)
  obtain ⟨place, placed, between⟩ := exists_position_ofInt bounded
  have exact : IsExact (value * (one : Int)).natAbs := by
    rw [Int.natAbs_mul, Int.natAbs_natCast]
    exact isExact_whole small
  obtain ⟨notAbove, notBelow⟩ := between _ exact
  rw [placed]
  exact congrArg some
    (Int.le_antisymm (notAbove (Int.le_refl _)) (notBelow (Int.le_refl _)))

end SchemaKeeper.Binary64
