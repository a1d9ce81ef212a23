import SchemaKeeper.MariaDb.Cell
import SchemaKeeper.Proofs.Compatibility
import SchemaKeeper.Proofs.DefaultReports
import SchemaKeeper.Proofs.ReadBack
import SchemaKeeper.Proofs.ShortestDecimals

/-!
Contract: unsigned cells as values, and the numbers that these values are looked up as.

A value holds whole numbers of signed 64 bits. Beyond them a cell is read as the nearest double,
and a statement shows the shortest decimal of the double. That decimal is a whole number with
the same nearest double, but seldom the one that is stored, and the doubles there are 2048
apart.

Owns: the natural numbers that doubles are written as, the values of unsigned cells, and the
cells that are read as one value.

Does not own: the decimals of doubles (`ShortestDecimals`), other cells.
-/

namespace SchemaKeeper

open Binary64

/-! ## Doubles written as natural numbers -/

namespace Binary64

/-- A finite double is the nearest one of a natural number that is rounded to it. -/
theorem ofInt_eq_finite {number significand shift : Nat} {canonical : Canonical significand shift}
    (nearest : significand * 2 ^ shift = roundedUnits (number * one) 1) :
    ofInt number = .finite false significand shift canonical := by
  have bounded := magnitude_lt_limit (.finite false significand shift canonical)
  change significand * 2 ^ shift < limit at bounded
  rw [nearest] at bounded
  obtain ⟨other, otherShift, otherCanonical, rounded, magnitude⟩ :=
    ofUnits_eq_finite false Nat.one_pos bounded
  obtain ⟨rfl, rfl⟩ := otherCanonical.unique canonical (magnitude.trans nearest.symm)
  rw [ofInt_natCast, rounded]

end Binary64

section Literals

variable {number : Binary64}

theorem literal_eq_natural_iff {natural : Nat} :
    (Value.float number).literal = Sql.natural natural ↔
      number.isFinite = true ∧ number.textChars = Decimal.digitChars natural := by
  have text : toString natural = String.ofList (Decimal.digitChars natural) := rfl
  rw [Value.literal, Sql.natural, text, toText]
  by_cases finite : number.isFinite = true
  · simp [finite, String.ofList_inj]
  · simp [finite, Sql.word]

/-- The digits of a natural number carry no sign. -/
private theorem unsigned_of_text {negative : Bool} {significand shift natural : Nat}
    {canonical : Canonical significand shift}
    (text : (Binary64.finite negative significand shift canonical).textChars =
      Decimal.digitChars natural) : negative = false := by
  cases negative with
  | false => rfl
  | true =>
      have sign : '-' ∈ Decimal.digitChars natural := by
        rw [← text]
        exact List.mem_cons_self
      exact absurd (Nat.isDigit_of_mem_toDigits (by decide) (by decide) sign) (by decide)

/-- A number whose digits are those of a natural number is what that number is rounded to. -/
private theorem magnitude_of_digits {natural : Nat} (positive : 0 < natural)
    (digits : number.plainDecimal.positional = Decimal.digitChars natural) :
    number.magnitude = roundedUnits (natural * one) 1 := by
  have nonzero : number.magnitude ≠ 0 := by
    intro zero
    have noDigit : number.plainDecimal = ⟨0, 0⟩ := if_pos zero
    rw [noDigit] at digits
    have same : Decimal.digitChars 0 = Decimal.digitChars natural := digits
    exact Nat.ne_of_lt positive (Decimal.digitChars_injective same)
  have unpointed : 0 ≤ number.plainDecimal.exponent := by
    refine Int.not_lt.1 fun pointed => Decimal.point_notMem_digitChars natural ?_
    rw [← digits]
    exact Decimal.point_mem_positional pointed
  obtain ⟨someDigit, rounded⟩ := magnitude_of_unpointed nonzero unpointed
  rw [Decimal.positional_whole someDigit unpointed] at digits
  rwa [Decimal.digitChars_injective digits] at rounded

/-- A double whose literal is a natural number is the nearest one of that number. -/
theorem ofInt_of_literal {natural : Nat} (positive : 0 < natural)
    (written : (Value.float number).literal = Sql.natural natural) : ofInt natural = number := by
  obtain ⟨finite, text⟩ := literal_eq_natural_iff.1 written
  cases number with
  | nan | infinity negative => contradiction
  | finite negative significand shift canonical =>
      obtain rfl := unsigned_of_text text
      exact ofInt_eq_finite (magnitude_of_digits positive text)

theorem literal_of_unpointed {significand shift : Nat} {canonical : Canonical significand shift}
    (double : number = .finite false significand shift canonical) (nonzero : number.magnitude ≠ 0)
    (unpointed : 0 ≤ number.plainDecimal.exponent) :
    (Value.float number).literal = Sql.natural number.plainDecimal.whole ∧
      0 < number.plainDecimal.whole := by
  obtain ⟨someDigit, -⟩ := magnitude_of_unpointed nonzero unpointed
  refine ⟨literal_eq_natural_iff.2 ⟨by rw [double]; rfl, ?_⟩, ?_⟩
  · rw [← Decimal.positional_whole someDigit unpointed, double]
    rfl
  · exact Nat.mul_pos someDigit (Nat.pow_pos (by decide))

end Literals

/-! ## Beyond signed 64 bits -/

theorem roundHalfEven_of_near {number multiple : Nat} (below : number ≤ multiple * 2048)
    (near : multiple * 2048 < number + 1024) : roundHalfEven number 2048 = multiple := by
  unfold roundHalfEven
  dsimp only
  split <;> omega

section Beyond

variable {number : Nat} (large : 2 ^ 63 ≤ number) (bounded : number < 2 ^ 64)

include large bounded

theorem log2_beyond : number.log2 = 63 :=
  (Nat.log2_eq_iff (by omega)).2 ⟨large, bounded⟩

/-- The doubles around the number are multiples of 2048. -/
theorem roundedUnits_beyond : roundedUnits number 1 = roundHalfEven number 2048 * 2048 := by
  have grid : gridShift number 1 = 11 := by
    rw [gridShift, Nat.div_one, log2_beyond large bounded]
  rw [roundedUnits, grid, Nat.one_mul]
  rfl

theorem rounded_bounds :
    2 ^ 52 ≤ roundHalfEven number 2048 ∧ roundHalfEven number 2048 ≤ 2 ^ 53 :=
  ⟨le_roundHalfEven (by decide) (by omega), roundHalfEven_le (by decide) (by omega)⟩

/-- A hundred does not reach the next double, so the last full hundred has the same nearest
double. -/
theorem roundedUnits_hundred :
    ∃ count, 2 ^ 62 ≤ count * 10 ^ 2 ∧ count * 10 ^ 2 < 2 ^ 64 ∧
      roundedUnits (count * 10 ^ 2) 1 = roundedUnits number 1 := by
  rw [roundedUnits_beyond large bounded]
  obtain ⟨lower, upper⟩ := rounded_bounds large bounded
  generalize roundHalfEven number 2048 = multiple at *
  refine ⟨multiple * 2048 / 100, by omega, by omega, ?_⟩
  rcases Nat.eq_or_lt_of_le lower with rfl | above
  · decide +kernel
  · have near : roundHalfEven (multiple * 2048 / 100 * 10 ^ 2) 2048 = multiple :=
      roundHalfEven_of_near (by omega) (by omega)
    rw [roundedUnits_beyond (by omega) (by omega), near]

/-- The double nearest to the number is written as a natural number that has the same nearest
double. -/
theorem literal_beyond :
    ∃ written, (Value.float (.ofInt number)).literal = Sql.natural written ∧
      Binary64.ofInt written = Binary64.ofInt number := by
  have small : number ≤ wholeLimit := le_wholeLimit (Nat.le_of_lt bounded) (by decide)
  obtain ⟨significand, shift, canonical, double, -⟩ := exists_ofInt_finite small
  obtain ⟨count, lower, upper, hundred⟩ := roundedUnits_hundred large bounded
  have nearest : (Binary64.ofInt number).magnitude = roundedUnits (count * 10 ^ 2 * one) 1 := by
    rw [magnitude_ofInt small, roundedUnits_mul_one, roundedUnits_mul_one, hundred]
  have nonzero : (Binary64.ofInt number).magnitude ≠ 0 := by
    rw [magnitude_ofInt small, roundedUnits_mul_one, roundedUnits_beyond large bounded]
    have positive : 0 < roundHalfEven number 2048 :=
      Nat.lt_of_lt_of_le (by decide) (rounded_bounds large bounded).1
    exact Nat.ne_of_gt (Nat.mul_pos (Nat.mul_pos positive (by decide)) positive_one)
  have unpointed : 0 ≤ (Binary64.ofInt number).plainDecimal.exponent := by
    have leastLog : 62 ≤ (count * 10 ^ 2).log2 := (Nat.le_log2 (by omega)).2 lower
    have greatestLog : (count * 10 ^ 2).log2 < 64 := (Nat.log2_lt (by omega)).2 upper
    have hundreds := le_exponent_plainDecimal (by omega) nearest (by decide) (by omega) (by omega)
    omega
  obtain ⟨written, positive⟩ := literal_of_unpointed double nonzero unpointed
  exact ⟨_, written, ofInt_of_literal positive written⟩

end Beyond

/-- Between `2 ^ 63` and `2 ^ 64` the nearest doubles of two numbers are the same just when the
numbers are rounded to the same multiple of 2048. -/
theorem ofInt_eq_iff_beyond {number other : Nat} (large : 2 ^ 63 ≤ number)
    (bounded : number < 2 ^ 64) (otherLarge : 2 ^ 63 ≤ other) (otherBounded : other < 2 ^ 64) :
    Binary64.ofInt other = Binary64.ofInt number ↔
      roundHalfEven other 2048 = roundHalfEven number 2048 := by
  have small {whole : Nat} (below : whole < 2 ^ 64) : whole ≤ wholeLimit :=
    le_wholeLimit (Nat.le_of_lt below) (by decide)
  have magnitude {whole : Nat} (far : 2 ^ 63 ≤ whole) (below : whole < 2 ^ 64) :
      roundedUnits (whole * one) 1 = roundHalfEven whole 2048 * 2048 * one := by
    rw [roundedUnits_mul_one, roundedUnits_beyond far below]
  constructor
  · intro same
    have magnitudes := congrArg Binary64.magnitude same
    rw [magnitude_ofInt (small otherBounded), magnitude_ofInt (small bounded),
      magnitude otherLarge otherBounded, magnitude large bounded] at magnitudes
    exact Nat.mul_right_cancel (by decide) (Nat.mul_right_cancel positive_one magnitudes)
  · intro same
    obtain ⟨significand, shift, canonical, double, rounded⟩ := exists_ofInt_finite (small bounded)
    rw [double]
    refine ofInt_eq_finite (rounded.trans ?_)
    rw [magnitude otherLarge otherBounded, magnitude large bounded, same]

/-! ## Lookups -/

theorem Sql.natural_injective : Function.Injective Sql.natural := by
  intro left right same
  simp only [Sql.natural, List.cons.injEq, Piece.token.injEq, Token.number.injEq, and_true] at same
  exact Decimal.digitChars_injective (String.ofList_inj.1 same)

/-- The statement reads the first row of a table that holds a natural number in a column. -/
def Statement.SeeksNumber (statement : Statement) (table column : String) (number : Nat) : Prop :=
  statement.sql = Sql.spaced
    [Sql.word "SELECT", Sql.symbol "*", Sql.word "FROM", Sql.identifier table, Sql.word "WHERE",
      Sql.allOf [Sql.spaced [Sql.identifier column, Sql.symbol "=", Sql.natural number]],
      Sql.word "LIMIT", Sql.natural 1]

/-- A lookup by a value that the column takes sends one statement, which compares with the number
that the value is written as. -/
theorem Table.findById_seeks {σ : Type} [Connection σ] (table : Table) {value : Value}
    {number : Nat} (written : value.literal = Sql.natural number) (field : Option String)
    (accepted : table.checkValue (field.getD identifierField) value = .ok ())
    (traced : Traced σ) :
    ∃ read : Statement, read.SeeksNumber table.name (field.getD identifierField) number ∧
      (table.findById value field traced).2.statements = traced.statements ++ [read] := by
  have accepts : table.Accepts [(field.getD identifierField, value)] := by
    rintro entry (_ | ⟨_, ⟨⟩⟩)
    exact accepted
  obtain ⟨read, looked⟩ := exists_lookup accepts
  refine ⟨read, ?_, readBack_sent looked traced⟩
  obtain ⟨-, tested, same, sql⟩ := seeks_of_readsBack (by simp) (by simp) looked
  have test : value.testSql (field.getD identifierField) =
      Sql.spaced [Sql.identifier (field.getD identifierField), Sql.symbol "=",
        Sql.natural number] := by
    rw [← written]
    cases value with
    | null => cases written
    | _ => rfl
  rw [List.perm_singleton.1 same, List.map_singleton, test] at sql
  exact sql

/-! ## Cells -/

namespace MariaDb.Cell

def unsignedValue (number : Nat) : Value :=
  if number < 2 ^ 63 then .int (.ofInt number) else .float (.ofInt number)

theorem decode_unsigned {number : Nat} (bounded : number < 2 ^ 64) :
    decode .unsigned (.integer number) = .ok (unsignedValue number) := by
  have signedLimit : Int.pow 2 63 = ((2 ^ 63 : Nat) : Int) := by decide
  have limit : Int.pow 2 64 = ((2 ^ 64 : Nat) : Int) := by decide
  change (if (number : Int) < 0 ∨ Int.pow 2 64 ≤ number then _
    else if (number : Int) < Int.pow 2 63 then _ else _) = _
  rw [if_neg (by omega), unsignedValue, signedLimit]
  simp only [Int.ofNat_lt]
  split <;> rfl

/-- What an unsigned cell is read as, and the number that lookups of its value compare with. -/
structure ReadsUnsigned (number : Nat) (value : Value) (compared : Nat) : Prop where
  decodes : decode .unsigned (.integer number) = .ok value
  value_eq : value = if number < 2 ^ 63 then .int (.ofInt number) else .float (.ofInt number)
  literal : value.literal = Sql.natural compared
  /-- A lookup by the value that the column takes sends one statement. -/
  seeks : ∀ (σ : Type) [Connection σ] (table : Table) (field : Option String),
    table.checkValue (field.getD Table.identifierField) value = .ok () → ∀ traced : Traced σ,
      ∃ read : Statement,
        read.SeeksNumber table.name (field.getD Table.identifierField) compared ∧
          (table.findById value field traced).2.statements = traced.statements ++ [read]
  /-- The number compared with is no further from the stored one than doubles can tell. -/
  nearest : Binary64.ofInt compared = Binary64.ofInt number
  /-- The stored number is compared with if it is what some double is written as, and always
  within signed 64 bits. -/
  same_iff : compared = number ↔
    number < 2 ^ 63 ∨ ∃ double, (Value.float double).literal = Sql.natural number
  /-- Only cells beyond signed 64 bits are read alike, if they are rounded alike. -/
  alike_iff : ∀ other : Nat, other < 2 ^ 64 → (decode .unsigned (.integer other) = .ok value ↔
    other = number ∨ 2 ^ 63 ≤ other ∧ 2 ^ 63 ≤ number ∧
      roundHalfEven other 2048 = roundHalfEven number 2048)

theorem unsignedValue_eq_iff {number other : Nat} (bounded : number < 2 ^ 64)
    (otherBounded : other < 2 ^ 64) : unsignedValue other = unsignedValue number ↔
      other = number ∨ 2 ^ 63 ≤ other ∧ 2 ^ 63 ≤ number ∧
        roundHalfEven other 2048 = roundHalfEven number 2048 := by
  unfold unsignedValue
  split <;> split
  next otherSmall small =>
    rw [Value.int.injEq]
    constructor
    · intro same
      have numbers := congrArg Int64.toInt same
      rw [Int64.toInt_ofInt_of_le (by omega) (by omega),
        Int64.toInt_ofInt_of_le (by omega) (by omega)] at numbers
      exact .inl (Int.ofNat.inj numbers)
    · rintro (rfl | ⟨large, -⟩)
      · rfl
      · omega
  next otherSmall large => exact iff_of_false nofun (by omega)
  next otherLarge small => exact iff_of_false nofun (by omega)
  next otherLarge large =>
    rw [Value.float.injEq,
      ofInt_eq_iff_beyond (by omega) bounded (by omega) otherBounded]
    constructor
    · exact fun same => .inr ⟨by omega, by omega, same⟩
    · rintro (rfl | ⟨-, -, same⟩)
      · rfl
      · exact same

theorem literal_unsignedValue_small {number : Nat} (small : number < 2 ^ 63) :
    (unsignedValue number).literal = Sql.natural number := by
  have kept : (Int64.ofInt number).toInt = number :=
    Int64.toInt_ofInt_of_le (by omega) (by omega)
  rw [unsignedValue, if_pos small, Value.literal, Value.intText_eq_toString, kept]
  rfl

/-- The value of a cell is written as a natural number with the same nearest double, which is the
stored one if any double is written as that. -/
theorem literal_unsignedValue {number : Nat} (bounded : number < 2 ^ 64) :
    ∃ compared, (unsignedValue number).literal = Sql.natural compared ∧
      Binary64.ofInt compared = Binary64.ofInt number ∧ (compared = number ↔
        number < 2 ^ 63 ∨ ∃ double, (Value.float double).literal = Sql.natural number) := by
  rcases Nat.lt_or_ge number (2 ^ 63) with small | large
  · exact ⟨number, literal_unsignedValue_small small, rfl, iff_of_true rfl (.inl small)⟩
  · obtain ⟨compared, written, nearest⟩ := literal_beyond large bounded
    have value : unsignedValue number = .float (.ofInt number) := if_neg (Nat.not_lt.2 large)
    refine ⟨compared, by rw [value, written], nearest, ?_, ?_⟩
    · rintro rfl
      exact .inr ⟨_, written⟩
    · rintro (small | ⟨double, shown⟩)
      · exact absurd small (Nat.not_lt.2 large)
      · -- The number is the text of one double only, which is the nearest one.
        rw [← ofInt_of_literal (Nat.lt_of_lt_of_le (by decide) large) shown] at shown
        exact Sql.natural_injective (written.symm.trans shown)

/-- An unsigned cell of signed 64 bits is looked up as the stored number and is read like no
other one. Beyond them the nearest double takes its place: a lookup compares with the number that
the double is written as, and cells with the same double are read alike. -/
theorem unsigned_read_and_looked_up {number : Nat} (bounded : number < 2 ^ 64) :
    ∃ value compared, ReadsUnsigned number value compared := by
  obtain ⟨compared, literal, nearest, same⟩ := literal_unsignedValue bounded
  refine ⟨unsignedValue number, compared, ⟨decode_unsigned bounded, rfl, literal,
    fun _ _ table field => table.findById_seeks literal field, nearest, same, ?_⟩⟩
  intro other otherBounded
  rw [decode_unsigned otherBounded, Except.ok.injEq]
  exact unsignedValue_eq_iff bounded otherBounded

/-- The largest cell is looked up as a number that is no unsigned cell. -/
theorem largest_cell_looked_up :
    18446744073709551615 < 2 ^ 64 ∧ ∃ value compared,
      ReadsUnsigned 18446744073709551615 value compared ∧ compared = 18446744073709552000 := by
  have bounded : 18446744073709551615 < 2 ^ 64 := by decide
  obtain ⟨value, compared, reads⟩ := unsigned_read_and_looked_up bounded
  have shown : (Value.float (.ofInt 18446744073709551615)).literal =
      Sql.natural 18446744073709552000 := by decide +kernel
  refine ⟨bounded, value, compared, reads, Sql.natural_injective ?_⟩
  rw [← reads.literal, ← shown, reads.value_eq]
  rfl

/-- The first two cells beyond signed 64 bits are read alike, and looked up as neither of them. -/
theorem first_cells_read_alike :
    ∃ value, decode .unsigned (.integer 9223372036854775808) = .ok value ∧
      decode .unsigned (.integer 9223372036854775809) = .ok value ∧
      value.literal.text = "9223372036854776000" ∧
      value.literal.text ≠ toString 9223372036854775808 :=
  ⟨.float (.ofInt 9223372036854775808), by decide +kernel, by decide +kernel, by decide +kernel,
    by decide +kernel⟩

end MariaDb.Cell

end SchemaKeeper
