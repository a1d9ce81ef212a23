import SchemaKeeper.Proofs.ByteCounts
import SchemaKeeper.Proofs.DecimalRoom
import SchemaKeeper.Proofs.KindTexts

/-!
Contract: the columns of fields have sizes that MariaDB accepts.

Each check leaves a range of maxima, and the size is legal on all of it. The least maxima are
the narrow cases. Integer types begin at a small fraction of one, which still has a digit, since
one is added before the digits are counted. A decimal below one has no digit in front of the
point, but then it has a place behind it.

Where a double becomes an integer, it is an integer of that range already.

Owns: the sizes that a type admits, the conversions to integers, and that both are kept to.

Does not own: the counts of bytes (`ByteCounts`) and digits (`DigitCounts`), or the room that a
size leaves for values (`Capacity`, `DecimalRoom`).
-/

namespace SchemaKeeper

/-- The server takes the size with the type: an integer with a display width, a decimal with a
precision and a scale, a string with a length, and a timestamp with or without places. -/
def ColumnType.Admits (type : ColumnType) (size : TypeSize) : Prop :=
  match type, size with
  | .decimal, .decimal precision scale =>
      1 ≤ precision ∧ precision ≤ 65 ∧ scale ≤ 38 ∧ scale ≤ precision
  | .varchar, .length length => 1 ≤ length ∧ length ≤ 65535
  | .timestamp, .none => True
  | .timestamp, .length places => 1 ≤ places ∧ places ≤ 6
  | .boolean, .none => True
  | type, .length width => type.isInteger = true ∧ 1 ≤ width ∧ width ≤ 20
  | _, _ => False

theorem ColumnType.admits_length_iff {type : ColumnType} (integer : type.isInteger = true)
    (width : Nat) : type.Admits (.length width) ↔ 1 ≤ width ∧ width ≤ 20 := by
  cases type <;> simp_all [Admits, isInteger]

namespace Column

open Binary64

/-! ## Conversions -/

/-- What a conversion to integers of a range makes of a double: the integer next to it toward
zero, or the end of the range that it is beyond, or zero if it is no number. -/
def truncated (least greatest : Int) (number : Binary64) : Int :=
  match number.position with
  | none => 0
  | some units => max least (min greatest (units.tdiv one))

/-- The conversions that the choice of a type comes to, with the ranges of the integers. A byte
count becomes one of sixty-four bits with a sign, an accepted length or number of places one of
thirty-two bits without. -/
inductive Converts (field : Field) : Binary64 → Int → Int → Prop
  | bytes {maximum : Binary64} {count : Int} (integer : field.kind.isInteger = true)
      (declared : field.maxSize = some maximum)
      (counted : byteCount (if field.kind = .signedInt then maximum.timesNat 2 else maximum) =
        .count count) :
      Converts field (.ofInt count) (-2 ^ 63) (2 ^ 63 - 1)
  | length {maximum : Binary64} (string : field.kind = .string)
      (declared : field.maxSize = some maximum)
      (accepted : isWholeBetween maximum 1 65535 = true) :
      Converts field maximum 0 (2 ^ 32 - 1)
  | places {maximum : Binary64} (timestamp : field.kind = .timestamp)
      (declared : field.maxSize = some maximum) (accepted : isWholeBetween maximum 0 6 = true)
      (nonzero : maximum.wholePart ≠ 0) :
      Converts field maximum 0 (2 ^ 32 - 1)

/-- An integer of the range is kept. -/
private theorem position_truncated {number : Binary64} {integer least greatest : Int}
    (placed : number.position = some (integer * one)) (low : least ≤ integer)
    (high : integer ≤ greatest) :
    number.position = some (truncated least greatest number * one) := by
  have nonzero : (one : Int) ≠ 0 := Int.natCast_ne_zero.2 (Nat.ne_of_gt positive_one)
  have kept : truncated least greatest number = integer := by
    unfold truncated
    rw [placed]
    show max least (min greatest ((integer * one).tdiv one)) = integer
    rw [Int.mul_tdiv_cancel integer nonzero]
    omega
  rw [kept, placed]

/-- A finite double that is not below zero is its magnitude, the negative zero too. -/
private theorem position_of_natural {number : Binary64} {units : Int}
    (finite : number.isFinite = true) (placed : number.position = some units)
    (natural : 0 ≤ units) : number.position = some (number.magnitude : Int) := by
  cases number with
  | nan => contradiction
  | infinity negative => contradiction
  | finite negative significand shift canonical =>
      cases negative with
      | false => rfl
      | true =>
          have below : -((significand * 2 ^ shift : Nat) : Int) = units := Option.some.inj placed
          show some (-((significand * 2 ^ shift : Nat) : Int)) = some _
          congr 1
          show _ = ((significand * 2 ^ shift : Nat) : Int)
          omega

/-- A double that passes the check of a length is its whole part. -/
theorem position_of_isWholeBetween {number : Binary64} {least greatest : Nat}
    (accepted : isWholeBetween number least greatest = true) (leastSmall : least ≤ 2 ^ 53)
    (greatestSmall : greatest ≤ 2 ^ 53) :
    number.position = some ((number.wholePart : Int) * one) ∧ least ≤ number.wholePart ∧
      number.wholePart ≤ greatest := by
  simp only [isWholeBetween, isWhole, Bool.and_eq_true, beq_iff_eq] at accepted
  obtain ⟨⟨⟨finite, whole⟩, atLeast⟩, atMost⟩ := accepted
  have onePos : (0 : Int) < one := Int.natCast_pos.2 positive_one
  have leastPlaced := @position_ofInt_exact (least : Int) (by omega)
  have greatestPlaced := @position_ofInt_exact (greatest : Int) (by omega)
  have units : (number.magnitude : Int) = number.wholePart * one := by
    rw [← Int.natCast_mul, wholePart, Nat.div_mul_cancel (Nat.dvd_of_mod_eq_zero whole)]
  have placed : number.position = some ((number.wholePart : Int) * one) := by
    rw [← units]
    cases here : number.position with
    | none =>
        rw [Binary64.atMost, leastPlaced, here] at atLeast
        contradiction
    | some place =>
        rw [atMost_of_positions leastPlaced here, decide_eq_true_eq] at atLeast
        have natural : 0 ≤ (least : Int) * one :=
          Int.mul_nonneg (Int.natCast_nonneg _) (Int.le_of_lt onePos)
        rw [← here]
        exact position_of_natural finite here (Int.le_trans natural atLeast)
  rw [atMost_of_positions leastPlaced placed, decide_eq_true_eq] at atLeast
  rw [atMost_of_positions placed greatestPlaced, decide_eq_true_eq] at atMost
  refine ⟨placed, ?_, ?_⟩
  · exact Int.ofNat_le.1 (Int.le_of_mul_le_mul_right atLeast onePos)
  · exact Int.ofNat_le.1 (Int.le_of_mul_le_mul_right atMost onePos)

/-- No conversion loses anything, whether the field gets a column or not. -/
theorem position_of_converts {field : Field} {number : Binary64} {least greatest : Int}
    (converts : Converts field number least greatest) :
    number.position = some (truncated least greatest number * one) := by
  cases converts with
  | bytes integer declared counted =>
      have bounded := byteCount_bounded counted
      exact position_truncated (position_ofInt_exact (by omega)) (by omega) (by omega)
  | length string declared accepted =>
      have whole := position_of_isWholeBetween accepted (by decide) (by decide)
      exact position_truncated whole.1 (by omega) (by omega)
  | places timestamp declared accepted nonzero =>
      have whole := position_of_isWholeBetween accepted (by decide) (by decide)
      exact position_truncated whole.1 (by omega) (by omega)

/-! ## Sizes -/

private theorem isInteger_of_integerType {signed : Bool} {maximum : Binary64} {type : ColumnType}
    {size : TypeSize} (chosen : integerType signed maximum = .ok (type, size)) :
    type.isInteger = true := by
  have integers : ∀ type ∈ [ColumnType.tinyInt, .smallInt, .mediumInt, .int, .bigInt],
      type.isInteger = true := by decide
  exact integers type (mem_columnTypes_of_integerType chosen)

/-- The maximum of an integer type has one digit or more, and no more than twenty. -/
private theorem admits_of_integerType {signed : Bool} {maximum : Binary64} {type : ColumnType}
    {size : TypeSize} (chosen : integerType signed maximum = .ok (type, size)) :
    type.Admits size := by
  have integer := isInteger_of_integerType chosen
  obtain ⟨count, counted, _, rfl, natural, few⟩ := exists_of_integerType chosen
  obtain ⟨significand, shift, canonical, rfl, positive, above, below⟩ :=
    exists_of_byteCount counted
  obtain ⟨reached, bounded⟩ := units_of_count positive natural few above below
  apply (ColumnType.admits_length_iff integer _).2
  refine ⟨digitCount_pos canonical reached, ?_⟩
  apply (digitCount_finite_le_iff canonical (by decide)).2
  have exact : IsExact (10 ^ 20 * one) := by
    rw [one_eq]
    exact (isExact_pow_ten (by decide)).mul_two_pow unitPlaces
  apply roundedUnits_le Nat.one_pos exact
  omega

/-- A positive double that is written without places is not below one. -/
private theorem one_le_wholePart {maximum : Binary64} (nonzero : maximum.magnitude ≠ 0)
    (noPlaces : maximum.plainDecimal.fractionDigits = 0) : 1 ≤ maximum.wholePart := by
  have reads := readsAs_plainDecimal nonzero (by omega)
  obtain ⟨digits, rounded⟩ := magnitude_of_readsAs nonzero reads
  apply (Nat.le_div_iff_mul_le positive_one).2
  rw [rounded, noPlaces]
  apply le_roundedUnits (by decide) (isExact_whole (by decide))
  rw [Nat.pow_zero, Nat.mul_one]
  apply Nat.mul_le_mul_right one
  exact Nat.mul_pos digits (Nat.pow_pos (by decide))

/-- A decimal type has a digit in front of the point or a place behind it. -/
private theorem admits_of_decimalType {maximum : Binary64} {type : ColumnType} {size : TypeSize}
    (chosen : decimalType maximum = .ok (type, size)) : type.Admits size := by
  obtain ⟨significand, shift, canonical, finite, positive, rfl, rfl, fewPlaces, precise⟩ :=
    exists_of_decimalType chosen
  have nonzero : maximum.magnitude ≠ 0 := by
    rw [finite]
    exact Nat.ne_of_gt positive
  have some : 1 ≤ digitCount (.ofInt maximum.wholePart) +
      maximum.plainDecimal.fractionDigits := by
    rcases Nat.eq_zero_or_pos maximum.plainDecimal.fractionDigits with none | places
    · have reached := one_le_wholePart nonzero none
      have counted := @digitCount_wholePart_le_iff maximum 0 (by decide)
      omega
    · omega
  exact ⟨some, precise, fewPlaces, Nat.le_add_left _ _⟩

/-- The type of every field admits its size. -/
private theorem admits_of_typeFor {kind : FieldKind} {maxSize : Option Binary64}
    {type : ColumnType} {size : TypeSize} (chosen : typeFor kind maxSize = .ok (type, size)) :
    type.Admits size := by
  unfold typeFor at chosen
  split at chosen
  next =>
    cases chosen
    trivial
  next => contradiction
  next => exact admits_of_integerType chosen
  next => exact admits_of_integerType chosen
  next => exact admits_of_decimalType chosen
  next =>
    obtain ⟨accepted, rfl, rfl⟩ := of_stringType chosen
    exact (position_of_isWholeBetween accepted (by decide) (by decide)).2
  next =>
    obtain ⟨accepted, rfl, rfl⟩ := of_timestampType chosen
    have few := (position_of_isWholeBetween accepted (by decide) (by decide)).2.2
    split
    next => trivial
    next nonzero => exact ⟨Nat.pos_of_ne_zero nonzero, few⟩

/-- A length or a number of places is the maximum itself. -/
private theorem position_of_length {kind : FieldKind} {maximum : Binary64} {type : ColumnType}
    {length : Nat} (chosen : typeFor kind (some maximum) = .ok (type, .length length))
    (notInteger : type.isInteger = false) : maximum.position = some ((length : Int) * one) := by
  have notChosen {signed : Bool} :
      integerType signed maximum ≠ .ok (type, .length length) := by
    intro integer
    rw [isInteger_of_integerType integer] at notInteger
    contradiction
  cases kind with
  | boolean => cases chosen
  | signedInt => exact absurd chosen notChosen
  | unsignedInt => exact absurd chosen notChosen
  | decimal =>
      obtain ⟨_, _, _, _, _, _, size, _⟩ := exists_of_decimalType chosen
      contradiction
  | string =>
      obtain ⟨accepted, _, size⟩ := of_stringType chosen
      obtain rfl := TypeSize.length.inj size
      exact (position_of_isWholeBetween accepted (by decide) (by decide)).1
  | timestamp =>
      obtain ⟨accepted, _, size⟩ := of_timestampType chosen
      split at size
      next => contradiction
      next =>
        obtain rfl := TypeSize.length.inj size
        exact (position_of_isWholeBetween accepted (by decide) (by decide)).1

/-- Whatever the maximum of a field is, its column has a size that the type admits. Only integer
columns of unsigned fields are unsigned, and a length is the maximum itself. No conversion on
the way loses anything, even if the field gets no column. -/
theorem mapped_size_admitted (field : Field) :
    (∀ column, ofField field = .ok column →
      column.type.Admits column.size ∧
      (column.unsigned = true → column.type.isInteger = true ∧ field.kind = .unsignedInt) ∧
      ∀ maximum ∈ field.maxSize, ∀ length, column.type.isInteger = false →
        column.size = .length length → maximum.position = some ((length : Int) * one)) ∧
    ∀ number least greatest, Converts field number least greatest →
      number.position = some (truncated least greatest number * one) := by
  constructor
  · intro column mapped
    obtain ⟨typed, sign⟩ := typeFor_of_ofField mapped
    refine ⟨admits_of_typeFor typed, ?_, ?_⟩
    · intro unsigned
      rw [sign, decide_eq_true_eq] at unsigned
      have integers : ∀ type ∈ FieldKind.unsignedInt.columnTypes, type.isInteger = true := by
        decide
      have member := mem_columnTypes mapped
      rw [unsigned] at member
      exact ⟨integers column.type member, unsigned⟩
    · intro maximum declared length notInteger size
      rw [Option.mem_def.1 declared, size] at typed
      exact position_of_length typed notInteger
  · intro number least greatest converts
    exact position_of_converts converts

def share : Field := { kind := .decimal, maxSize := some ((⟨5, -1⟩ : Decimal).toBinary64 false) }

/-- The column of shares has one digit in all, behind the point. -/
theorem share_size_admitted :
    ∃ column, ofField share = .ok column ∧ column.size = .decimal 1 1 ∧
      column.type.Admits column.size := by
  have mapped : ofField share =
      .ok ⟨.decimal, .decimal 1 1, false, false, false, false, false, none, none⟩ := by
    decide +kernel
  exact ⟨_, mapped, rfl, ((mapped_size_admitted share).1 _ mapped).1⟩

end Column

end SchemaKeeper
