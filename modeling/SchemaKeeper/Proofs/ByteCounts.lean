import SchemaKeeper.Column.Mapping
import SchemaKeeper.Column.Range
import SchemaKeeper.Proofs.Rounding

/-!
Contract: which ranges have a byte count, and which integer type it gives.

The count is the binary logarithm of a range in bytes, rounded up. Only a positive finite
range has one. For a whole range the count is the least number of bytes whose power of `256`
reaches it, so the type is the narrowest one that does.

Owns: the distance between counts and logarithms, the counts of whole ranges, and the type
that an integer field gets.

Does not own: which integers that type stores (`Capacity`).
-/

namespace SchemaKeeper.Column

open Binary64

/-! ## Counts and logarithms -/

/-- The range that a maximum spans: a sign doubles it. -/
def spannedRange (signed : Bool) (maximum : Nat) : Nat :=
  if signed then 2 * maximum else maximum

/-- Only a positive range has a count. It is no less than the binary logarithm in bytes, and
less than a byte above it. -/
private theorem positive_of_byteCount {negative : Bool} {significand shift : Nat} {count : Int}
    {canonical : Canonical significand shift}
    (counted : byteCount (.finite negative significand shift canonical) = .count count) :
    negative = false ∧ 0 < significand * 2 ^ shift ∧
      ((significand * 2 ^ shift).log2 : Int) - 1074 ≤ 8 * count ∧
      8 * count ≤ ((significand * 2 ^ shift).log2 : Int) - 1066 := by
  have units : significand * 2 ^ shift =
      (finite negative significand shift canonical).magnitude := rfl
  unfold byteCount at counted
  dsimp only at counted
  rw [units]
  generalize (finite negative significand shift canonical).magnitude = units at counted ⊢
  split at counted
  next => contradiction
  next nonzero =>
    split at counted
    next => contradiction
    next natural =>
      refine ⟨Bool.eq_false_iff.2 natural, Nat.pos_of_ne_zero nonzero, ?_⟩
      split at counted <;>
        · obtain rfl := ByteCount.count.inj counted
          omega

private theorem byteCount_infinity (negative : Bool) (count : Int) :
    byteCount (.infinity negative) ≠ .count count := by
  cases negative <;> nofun

/-- Every count is a small integer. -/
theorem byteCount_bounded {range : Binary64} {count : Int}
    (counted : byteCount range = .count count) : -134 ≤ count ∧ count ≤ 128 := by
  cases range with
  | nan => contradiction
  | infinity negative => exact absurd counted (byteCount_infinity negative count)
  | finite negative significand shift canonical =>
      obtain ⟨_, positive, above, below⟩ := positive_of_byteCount counted
      have logarithm : (significand * 2 ^ shift).log2 < limitPlaces := by
        apply (Nat.log2_lt (Nat.ne_of_gt positive)).2
        rw [← limit_eq]
        exact magnitude_lt_limit (.finite negative significand shift canonical)
      unfold limitPlaces at logarithm
      omega

/-- Only a positive maximum spans a range with a count. -/
theorem exists_of_byteCount {signed : Bool} {maximum : Binary64} {count : Int}
    (counted : byteCount (if signed then maximum.timesNat 2 else maximum) = .count count) :
    ∃ significand shift canonical, maximum = .finite false significand shift canonical ∧
      0 < significand * 2 ^ shift ∧
      ((spannedRange signed (significand * 2 ^ shift)).log2 : Int) - 1074 ≤ 8 * count ∧
      8 * count ≤ ((spannedRange signed (significand * 2 ^ shift)).log2 : Int) - 1066 := by
  cases maximum with
  | nan => cases signed <;> contradiction
  | infinity negative =>
      cases signed <;> exact absurd counted (byteCount_infinity negative count)
  | finite negative significand shift canonical =>
      cases signed with
      | false =>
          obtain ⟨rfl, positive, near⟩ := positive_of_byteCount counted
          exact ⟨_, _, _, rfl, positive, near⟩
      | true =>
          -- Doubling is exact unless it overflows, and an infinity has no count.
          have exact : IsExact (2 * (significand * 2 ^ shift)) := by
            rw [Nat.mul_comm]
            exact IsExact.mul_two_pow ⟨significand, shift, canonical.1, rfl⟩ 1
          change byteCount (ofUnits negative (2 * (significand * 2 ^ shift)) 1) = _ at counted
          rcases Nat.lt_or_ge (2 * (significand * 2 ^ shift)) limit with below | beyond
          · obtain ⟨_, _, _, doubled, magnitude⟩ := exists_ofUnits_exact negative exact below
            rw [doubled] at counted
            obtain ⟨rfl, positive, near⟩ := positive_of_byteCount counted
            rw [magnitude] at positive near
            exact ⟨_, _, _, rfl, by omega, near⟩
          · rw [← roundedUnits_of_isExact exact] at beyond
            rw [ofUnits_eq_infinity negative Nat.one_pos beyond] at counted
            exact absurd counted (byteCount_infinity negative count)

/-- A maximum whose range takes up to eight bytes is neither much smaller than one nor beyond
sixty-five bits. -/
theorem units_of_count {signed : Bool} {units : Nat} {count : Int} (positive : 0 < units)
    (natural : 0 ≤ count) (few : count ≤ 8)
    (above : ((spannedRange signed units).log2 : Int) - 1074 ≤ 8 * count)
    (below : 8 * count ≤ ((spannedRange signed units).log2 : Int) - 1066) :
    one ≤ 512 * units ∧ units < 2 ^ 65 * one := by
  have between : units ≤ spannedRange signed units ∧ spannedRange signed units ≤ 2 * units := by
    unfold spannedRange
    split <;> omega
  have nonzero : spannedRange signed units ≠ 0 := by omega
  constructor
  · have least : 2 ^ (unitPlaces - 8) ≤ spannedRange signed units :=
      (Nat.le_log2 nonzero).1 (by rw [unitPlaces]; omega)
    have split := @one_split 8 (by decide)
    omega
  · have most : spannedRange signed units < 2 ^ (65 + unitPlaces) :=
      (Nat.log2_lt nonzero).1 (by rw [unitPlaces]; omega)
    have scaled : 2 ^ (65 + unitPlaces) = 2 ^ 65 * one := by rw [Nat.pow_add, one_eq]
    omega

/-! ## Whole ranges -/

/-- The rounding of the logarithm does not reach from a power of `256` to the next whole
number. -/
private theorem logarithmSlack_lt :
    ∀ power : Nat, power < 55 → power % 8 = 0 → 2 ^ power * logarithmSlack power < 2 ^ 52 := by
  decide +kernel

/-- Only a power of `256` itself counts as no more than its exponent. -/
private theorem roundsDown_iff {number : Nat} (positive : 0 < number) (small : number ≤ 2 ^ 54)
    (multiple : number.log2 % 8 = 0) :
    number * one * 2 ^ 52 ≤
        2 ^ (number.log2 + unitPlaces) * (2 ^ 52 + logarithmSlack number.log2) ↔
      number = 2 ^ number.log2 := by
  have reached := Nat.log2_self_le (Nat.ne_of_gt positive)
  have logBound : number.log2 < 55 :=
    (Nat.log2_lt (Nat.ne_of_gt positive)).2 (Nat.lt_of_le_of_lt small (by decide))
  have slack := logarithmSlack_lt number.log2 logBound multiple
  have scaled : number * one * 2 ^ 52 ≤
        2 ^ (number.log2 + unitPlaces) * (2 ^ 52 + logarithmSlack number.log2) ↔
      number * 2 ^ 52 ≤ 2 ^ number.log2 * (2 ^ 52 + logarithmSlack number.log2) := by
    rw [Nat.pow_add, ← one_eq, Nat.mul_right_comm, Nat.mul_right_comm (2 ^ number.log2)]
    exact Nat.mul_le_mul_right_iff positive_one
  rw [scaled, Nat.mul_add]
  constructor
  · intro down
    omega
  · intro power
    rw [← power]
    exact Nat.le_add_right _ _

/-- A whole range takes the least number of bytes whose power of `256` reaches it. -/
theorem byteCount_whole {number significand shift : Nat}
    {canonical : Canonical significand shift} (positive : 0 < number) (small : number ≤ 2 ^ 54)
    (magnitude : significand * 2 ^ shift = number * one) :
    ∃ bytes : Nat, byteCount (.finite false significand shift canonical) = .count bytes ∧
      number ≤ 2 ^ (8 * bytes) ∧ ∀ fewer < bytes, 2 ^ (8 * fewer) < number := by
  have nonzero : number * one ≠ 0 := Nat.ne_of_gt (Nat.mul_pos positive positive_one)
  have floorLog := log2_mul_power positive one_eq
  have power : ((number.log2 + unitPlaces : Nat) : Int) - 1074 = number.log2 := by
    rw [unitPlaces]
    omega
  have reached := Nat.log2_self_le (Nat.ne_of_gt positive)
  have counted : byteCount (.finite false significand shift canonical) =
      if (number.log2 : Int) % 8 = 0 ∧ number * one * 2 ^ 52 ≤
          2 ^ (number.log2 + unitPlaces) * (2 ^ 52 + logarithmSlack number.log2) then
        .count (number.log2 / 8) else .count (number.log2 / 8 + 1) := by
    unfold byteCount
    simp only [Binary64.magnitude, Nat.pow_eq, magnitude, if_neg nonzero, floorLog, power]
    rfl
  rw [counted]
  split
  next down =>
    obtain ⟨multiple, rounds⟩ := down
    have isPower := (roundsDown_iff positive small (by omega)).1 rounds
    have whole : 8 * (number.log2 / 8) = number.log2 := by omega
    refine ⟨number.log2 / 8, rfl, Nat.le_of_eq (whole.symm ▸ isPower), fun fewer less => ?_⟩
    rw [isPower]
    exact Nat.pow_lt_pow_right (by decide) (by omega)
  next up =>
    refine ⟨number.log2 / 8 + 1, rfl, ?_, fun fewer less => ?_⟩
    · exact Nat.le_of_lt (Nat.lt_of_lt_of_le Nat.lt_log2_self
        (Nat.pow_le_pow_right (by decide) (by omega)))
    · by_cases multiple : number.log2 % 8 = 0
      · have notPower : number ≠ 2 ^ number.log2 := fun isPower =>
          up ⟨by omega, (roundsDown_iff positive small multiple).2 isPower⟩
        have below : 2 ^ (8 * fewer) ≤ 2 ^ number.log2 :=
          Nat.pow_le_pow_right (by decide) (by omega)
        omega
      · exact Nat.lt_of_lt_of_le (Nat.pow_lt_pow_right (by decide) (by omega)) reached

/-! ## Types -/

/-- The type with a number of bytes is the narrowest integer type whose bits reach a range. -/
structure Narrowest (type : ColumnType) (bytes range : Nat) : Prop where
  width : type.integerBytes? = some bytes
  reaches : range ≤ 2 ^ (8 * bytes)
  least : ∀ other : ColumnType, ∀ fewer ∈ other.integerBytes?, fewer < bytes →
    2 ^ (8 * fewer) < range

/-- A type for a larger range is no narrower. -/
theorem Narrowest.mono {type other : ColumnType} {bytes otherBytes range larger : Nat}
    (narrowest : Narrowest type bytes range) (otherNarrowest : Narrowest other otherBytes larger)
    (ordered : range ≤ larger) : bytes ≤ otherBytes := by
  apply Nat.le_of_not_lt
  intro narrower
  have passed := narrowest.least other otherBytes otherNarrowest.width narrower
  have reached := otherNarrowest.reaches
  omega

/-- Up to four bytes have a type of their own, and up to eight share the widest one. -/
private theorem integerBytes_of_count :
    ∀ bytes ≤ 8, (integerTypeOfBytes? (.count (bytes : Nat))).bind ColumnType.integerBytes? =
      some (if bytes ≤ 4 then max 1 bytes else 8) := by
  decide

theorem integerBytes_cases {type : ColumnType} {bytes : Nat}
    (width : type.integerBytes? = some bytes) : bytes ∈ [1, 2, 3, 4, 8] := by
  cases type <;> cases width <;> decide

/-- The count of a type is one of eight, or zero. -/
theorem exists_of_integerTypeOfBytes {counted : ByteCount} {type : ColumnType}
    (found : integerTypeOfBytes? counted = some type) :
    ∃ count : Int, counted = .count count ∧ 0 ≤ count ∧ count ≤ 8 := by
  unfold integerTypeOfBytes? at found
  split at found <;>
    first
    | contradiction
    | exact ⟨_, rfl, by decide, by decide⟩

/-- An integer field with a type has a count, and the digits of its maximum as display width. -/
theorem exists_of_integerType {signed : Bool} {maximum : Binary64} {type : ColumnType}
    {size : TypeSize} (chosen : integerType signed maximum = .ok (type, size)) :
    ∃ count : Int, byteCount (if signed then maximum.timesNat 2 else maximum) = .count count ∧
      integerTypeOfBytes? (.count count) = some type ∧ size = .length (digitCount maximum) ∧
      0 ≤ count ∧ count ≤ 8 := by
  unfold integerType at chosen
  dsimp only at chosen
  split at chosen
  next columnType found =>
    cases chosen
    obtain ⟨count, counted, natural, few⟩ := exists_of_integerTypeOfBytes found
    rw [counted] at found
    exact ⟨count, counted, found, rfl, natural, few⟩
  next => contradiction

/-- A whole maximum up to `2 ^ 53` gets the narrowest type for its range. -/
theorem exists_narrowestType (signed : Bool) {maximum : Nat} (positive : 1 ≤ maximum)
    (exact : maximum ≤ 2 ^ 53) :
    ∃ type bytes, integerType signed (.ofInt maximum) =
        .ok (type, .length (digitCount (.ofInt maximum))) ∧
      Narrowest type bytes (spannedRange signed maximum) := by
  have rangePositive : 0 < spannedRange signed maximum := by
    unfold spannedRange
    split <;> omega
  have rangeSmall : spannedRange signed maximum ≤ 2 ^ 54 := by
    unfold spannedRange
    split <;> omega
  obtain ⟨count, counted, atMost, least⟩ : ∃ count : Nat,
      byteCount (if signed then (ofInt maximum).timesNat 2 else .ofInt maximum) = .count count ∧
        spannedRange signed maximum ≤ 2 ^ (8 * count) ∧
        ∀ fewer < count, 2 ^ (8 * fewer) < spannedRange signed maximum := by
    cases signed with
    | true =>
        obtain ⟨_, _, _, doubled, magnitude⟩ := exists_double_exact exact
        rw [if_pos rfl, doubled]
        exact byteCount_whole rangePositive rangeSmall magnitude
    | false =>
        obtain ⟨_, _, _, whole, magnitude⟩ := exists_ofInt_exact exact
        rw [if_neg Bool.false_ne_true, whole]
        exact byteCount_whole rangePositive rangeSmall magnitude
  have few : count ≤ 8 := by
    apply Nat.le_of_not_lt
    intro many
    have passed := least 8 many
    omega
  obtain ⟨type, chosen, width⟩ := Option.bind_eq_some_iff.1 (integerBytes_of_count count few)
  refine ⟨type, _, ?_, width, ?_, ?_⟩
  · unfold integerType
    rw [counted]
    simp [chosen]
  · apply Nat.le_trans atMost
    apply Nat.pow_le_pow_right (by decide)
    split <;> omega
  · intro other fewer otherWidth narrower
    have widths := integerBytes_cases otherWidth
    simp only [List.mem_cons, List.not_mem_nil, or_false] at widths
    apply least
    split at narrower <;> omega

end SchemaKeeper.Column
