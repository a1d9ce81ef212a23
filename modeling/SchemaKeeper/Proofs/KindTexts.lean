import Mathlib.Tactic.IntervalCases
import SchemaKeeper.Proofs.ByteCounts
import SchemaKeeper.Proofs.Comparison
import SchemaKeeper.Proofs.Declarations
import SchemaKeeper.Proofs.DigitCounts

/-!
Contract: which kinds of fields the type texts of table descriptions tell apart.

A type text is a keyword, a size between parentheses and perhaps `unsigned`. The keyword and
the last word give the kind away, except that a boolean is described as the integer type that
stores it, with a display width of one. A signed field has that width up to a maximum of `9`.

Owns: the parts of type texts, and the fields of different kinds that share one.

Does not own: comparison of described columns (`Comparison`).
-/

namespace SchemaKeeper

/-! ## Parts of type texts -/

/-- The keyword of a type as table descriptions show it. -/
def ColumnType.shown : ColumnType → List Char
  | .boolean => ColumnType.tinyInt.keyword.toList.map Char.toLower
  | type => type.keyword.toList.map Char.toLower

/-- The size of a type as table descriptions show it. -/
def TypeSize.shown : TypeSize → List Char
  | .none => []
  | .length size => '(' :: (Decimal.digitChars size ++ [')'])
  | .decimal precision scale =>
      '(' :: (Decimal.digitChars precision ++ ',' :: (Decimal.digitChars scale ++ [')']))

/-- The word behind the size of an unsigned type. -/
def unsignedMark (unsigned : Bool) : List Char :=
  if unsigned then " unsigned".toList else []

namespace Column

open Binary64

/-- Digits have no case. -/
private theorem lower_digits (number : Nat) :
    (Nat.toDigits 10 number).map Char.toLower = Nat.toDigits 10 number := by
  have same : ∀ digit ∈ Nat.toDigits 10 number, digit.toLower = digit := fun digit member =>
    Text.toLower_of_isDigit (Nat.isDigit_of_mem_toDigits (by decide) (by decide) member)
  rw [List.map_congr_left same, List.map_id']

private theorem lower_size (size : TypeSize) : size.sql.chars.map Char.toLower = size.shown := by
  cases size <;>
    simp [TypeSize.sql, TypeSize.shown, Sql.chars, Sql.enclosed, Sql.symbol, Sql.natural,
      Sql.Piece.chars, Sql.Token.chars, Decimal.digitChars, lower_digits]

private theorem describedType_eq_lower {column : Column} (notBoolean : column.type ≠ .boolean) :
    column.describedType = Text.lower column.typeSql.text := by
  unfold describedType
  split
  next boolean => contradiction
  next => rfl

/-- The type text of a column that is no boolean. -/
theorem describedType_eq {column : Column} (notBoolean : column.type ≠ .boolean) :
    column.describedType.toList =
      column.type.shown ++ column.size.shown ++ unsignedMark column.unsigned := by
  have keyword : column.type.shown = column.type.keyword.toList.map Char.toLower := by
    unfold ColumnType.shown
    split
    next boolean => contradiction
    next => rfl
  rw [describedType_eq_lower notBoolean, keyword, ← lower_size]
  unfold typeSql unsignedMark
  cases column.unsigned <;>
    simp [Text.lower, Sql.text, Sql.chars, Sql.spaced, Sql.word, Sql.Piece.chars,
      Sql.Token.chars, List.intercalate, List.intersperse]

theorem describedType_boolean {column : Column} (boolean : column.type = .boolean) :
    column.describedType = "tinyint(1)" := by
  unfold describedType
  rw [boolean]

private theorem toLower_toLower (character : Char) :
    character.toLower.toLower = character.toLower := by
  by_cases upper : character.val ≥ 'A'.val ∧ character.val ≤ 'Z'.val
  · unfold Char.toLower
    rw [dif_pos upper]
    refine dif_neg ?_
    rintro ⟨least, greatest⟩
    grind
  · have same : character.toLower = character := dif_neg upper
    rw [same, same]

/-- Type texts have no capitals. -/
theorem lower_describedType (column : Column) :
    column.describedType.toList.map Char.toLower = column.describedType.toList := by
  by_cases boolean : column.type = .boolean
  · rw [describedType_boolean boolean]
    decide
  · rw [describedType_eq_lower boolean, Text.lower, String.toList_ofList, List.map_map]
    exact List.map_congr_left fun character _ => toLower_toLower character

/-! ## Words of type texts -/

private theorem isAlpha_of_mem_shown (type : ColumnType) :
    ∀ letter ∈ type.shown, letter.isAlpha = true := by
  refine List.all_eq_true.1 ?_
  cases type <;> decide

private theorem head_behind_keyword (size : TypeSize) (unsigned : Bool) :
    ∀ mark ∈ (size.shown ++ unsignedMark unsigned).head?, mark.isAlpha = false := by
  cases size with
  | none =>
      cases unsigned with
      | false => exact fun _ absent => nomatch absent
      | true =>
          rintro _ ⟨⟩
          rfl
  | length size =>
      rintro _ ⟨⟩
      rfl
  | decimal precision scale =>
      rintro _ ⟨⟩
      rfl

/-- A type text begins with the keyword of its type. -/
theorem keyword_describedType (column : Column) :
    column.describedType.toList.takeWhile Char.isAlpha = column.type.shown := by
  by_cases boolean : column.type = .boolean
  · rw [describedType_boolean boolean, boolean]
    decide +kernel
  · rw [describedType_eq boolean, List.append_assoc,
      List.takeWhile_append_of_pos (isAlpha_of_mem_shown column.type)]
    have behind := head_behind_keyword column.size column.unsigned
    generalize column.size.shown ++ unsignedMark column.unsigned = rest at behind
    cases rest with
    | nil => exact List.append_nil _
    | cons mark rest =>
        rw [List.takeWhile_cons_of_neg (by simp [behind mark rfl]), List.append_nil]

private theorem blank_not_mem_digits (number : Nat) : ' ' ∉ Nat.toDigits 10 number :=
  fun member => absurd
    (Nat.isDigit_of_mem_toDigits (by decide) (by decide) member) (by decide)

/-- Only a type text that ends with `unsigned` has a blank. -/
theorem blank_mem_describedType {column : Column} (notBoolean : column.type ≠ .boolean) :
    ' ' ∈ column.describedType.toList ↔ column.unsigned = true := by
  have keyword : ' ' ∉ column.type.shown := fun member =>
    absurd (isAlpha_of_mem_shown column.type _ member) (by decide)
  have size : ' ' ∉ column.size.shown := by
    cases column.size <;> simp [TypeSize.shown, Decimal.digitChars, blank_not_mem_digits]
  rw [describedType_eq notBoolean, List.mem_append, List.mem_append,
    or_iff_right (not_or.2 ⟨keyword, size⟩)]
  cases column.unsigned <;> decide

/-! ## Display widths -/

private theorem tinyInt_of_count {count : Int} {type : ColumnType}
    (found : integerTypeOfBytes? (.count count) = some type) (natural : 0 ≤ count)
    (few : count ≤ 1) : type = .tinyInt := by
  interval_cases count <;> exact (Option.some.inj found).symm

/-- A signed field with a column has a positive maximum, not much less than one. Up to `9` it
has the narrowest type. -/
private theorem exists_of_signedType {maxSize : Binary64} {type : ColumnType} {size : TypeSize}
    (chosen : integerType true maxSize = .ok (type, size)) :
    ∃ significand shift canonical, maxSize = .finite false significand shift canonical ∧
      size = .length (digitCount maxSize) ∧ one ≤ 512 * (significand * 2 ^ shift) ∧
      (significand * 2 ^ shift ≤ 9 * one → type = .tinyInt) := by
  obtain ⟨count, counted, found, width, natural, few⟩ := exists_of_integerType chosen
  obtain ⟨significand, shift, canonical, rfl, positive, above, below⟩ :=
    exists_of_byteCount counted
  have reached := (units_of_count positive natural few above below).1
  refine ⟨_, _, _, rfl, width, reached, fun small => tinyInt_of_count found natural ?_⟩
  have bounded : spannedRange true (significand * 2 ^ shift) < 2 ^ (unitPlaces + 5) := by
    show 2 * (significand * 2 ^ shift) < _
    rw [Nat.pow_add, ← one_eq]
    have onePos := positive_one
    omega
  have nonzero : spannedRange true (significand * 2 ^ shift) ≠ 0 := by
    show 2 * (significand * 2 ^ shift) ≠ 0
    omega
  have logarithm := (Nat.log2_lt nonzero).2 bounded
  rw [unitPlaces] at logarithm
  omega

section Widths

variable {significand shift : Nat} (canonical : Canonical significand shift)

/-- The double behind `9` is far enough from it that one more digit is counted. -/
private theorem digitCount_le_one_iff :
    digitCount (.finite false significand shift canonical) ≤ 1 ↔
      significand * 2 ^ shift ≤ 9 * one := by
  rw [digitCount_finite_le_iff canonical (by decide)]
  constructor
  · intro held
    refine Nat.le_of_not_lt fun beyond => Nat.not_le_of_lt ?_ held
    have split := @one_split 49 (by decide)
    have large : 2 ^ 52 * 2 ^ (unitPlaces - 49) ≤ significand * 2 ^ shift := by omega
    obtain ⟨count, multiple⟩ :=
      IsExact.exists_multiple ⟨significand, shift, canonical.1, rfl⟩ large
    have gridPos := Nat.two_pow_pos (unitPlaces - 49)
    have more : 9 * 2 ^ 49 < count := by
      refine Nat.lt_of_mul_lt_mul_right (a := 2 ^ (unitPlaces - 49)) ?_
      omega
    have apart := Nat.mul_le_mul_right (2 ^ (unitPlaces - 49)) more
    have exact : IsExact ((10 * 2 ^ 49 + 1) * 2 ^ (unitPlaces - 49)) := ⟨_, _, by decide, rfl⟩
    calc 10 ^ 1 * one < (10 * 2 ^ 49 + 1) * 2 ^ (unitPlaces - 49) := by omega
      _ ≤ roundedUnits (significand * 2 ^ shift + one) 1 :=
          le_roundedUnits Nat.one_pos exact (by omega)
  · intro small
    refine roundedUnits_le Nat.one_pos (isExact_whole (by decide)) ?_
    omega

end Widths

/-- Up to a maximum of `9` a signed field gets the narrowest type with a display width of one,
and beyond it another type or another width. -/
theorem integerType_eq_boolean_iff {maxSize : Binary64} {type : ColumnType} {size : TypeSize}
    (chosen : integerType true maxSize = .ok (type, size)) :
    type = .tinyInt ∧ size = .length 1 ↔ maxSize.atMost (.ofInt 9) = true := by
  obtain ⟨significand, shift, canonical, rfl, rfl, reached, narrow⟩ := exists_of_signedType chosen
  have counted := digitCount_pos canonical reached
  have single := digitCount_le_one_iff canonical
  have nine : (ofInt 9).position = some (9 * one : Int) := position_ofInt_exact (by decide)
  have placed : (finite false significand shift canonical).position =
    some ((significand * 2 ^ shift : Nat) : Int) := rfl
  rw [atMost_of_positions placed nine, decide_eq_true_eq, TypeSize.length.injEq]
  constructor
  · rintro ⟨_, width⟩
    have small := single.1 (Nat.le_of_eq width)
    omega
  · intro ordered
    have small : significand * 2 ^ shift ≤ 9 * one := by omega
    have few := single.2 small
    exact ⟨narrow small, by omega⟩

end Column

/-! ## Kinds -/

theorem FieldKind.mem_all (kind : FieldKind) : kind ∈ all := by
  cases kind <;> decide

def FieldKind.columnTypes : FieldKind → List ColumnType
  | .signedInt | .unsignedInt => [.tinyInt, .smallInt, .mediumInt, .int, .bigInt]
  | .string => [.varchar]
  | .boolean => [.boolean]
  | .decimal => [.decimal]
  | .timestamp => [.timestamp]

/-- The field is a boolean or a signed one that gets the type of a boolean. -/
def Field.StoredAsBoolean (field : Field) : Prop :=
  field.kind = .boolean ∨
    field.kind = .signedInt ∧ ∃ maximum ∈ field.maxSize, maximum.atMost (.ofInt 9) = true

namespace Column

theorem mem_columnTypes_of_integerType {signed : Bool} {maxSize : Binary64}
    {type : ColumnType} {size : TypeSize}
    (chosen : integerType signed maxSize = .ok (type, size)) :
    type ∈ [ColumnType.tinyInt, .smallInt, .mediumInt, .int, .bigInt] := by
  unfold integerType at chosen
  dsimp only at chosen
  split at chosen
  next columnType found =>
    cases chosen
    unfold integerTypeOfBytes? at found
    split at found <;> cases found <;> decide
  next => contradiction

theorem of_stringType {maximum : Binary64} {type : ColumnType} {size : TypeSize}
    (chosen : stringType maximum = .ok (type, size)) :
    isWholeBetween maximum 1 65535 = true ∧ type = .varchar ∧
      size = .length maximum.wholePart := by
  unfold stringType at chosen
  split at chosen
  next accepted =>
    cases chosen
    exact ⟨accepted, rfl, rfl⟩
  next => contradiction

theorem of_timestampType {maximum : Binary64} {type : ColumnType} {size : TypeSize}
    (chosen : timestampType maximum = .ok (type, size)) :
    isWholeBetween maximum 0 6 = true ∧ type = .timestamp ∧
      size = if maximum.wholePart = 0 then .none else .length maximum.wholePart := by
  unfold timestampType at chosen
  split at chosen
  next accepted =>
    cases chosen
    exact ⟨accepted, rfl, rfl⟩
  next => contradiction

theorem mem_columnTypes {field : Field} {column : Column} (mapped : ofField field = .ok column) :
    column.type ∈ field.kind.columnTypes := by
  have typed := (typeFor_of_ofField mapped).1
  generalize column.type = type, column.size = size at typed
  unfold typeFor at typed
  split at typed
  next boolean =>
    cases typed
    rw [boolean]
    exact List.mem_singleton.2 rfl
  next => contradiction
  next signed _ =>
    rw [signed]
    exact mem_columnTypes_of_integerType typed
  next unsigned _ =>
    rw [unsigned]
    exact mem_columnTypes_of_integerType typed
  next decimal _ =>
    rw [decimal]
    unfold decimalType at typed
    dsimp only at typed
    split at typed
    next => contradiction
    next =>
      split at typed
      next => contradiction
      next =>
        cases typed
        exact List.mem_singleton.2 rfl
  next string _ =>
    rw [string, (of_stringType typed).2.1]
    exact List.mem_singleton.2 rfl
  next timestamp _ =>
    rw [timestamp, (of_timestampType typed).2.1]
    exact List.mem_singleton.2 rfl

section Texts

variable {field : Field} {column : Column}

private theorem type_eq_boolean_iff (mapped : ofField field = .ok column) :
    column.type = .boolean ↔ field.kind = .boolean := by
  have types : ∀ kind ∈ FieldKind.all, ∀ type ∈ kind.columnTypes,
      (type = .boolean ↔ kind = .boolean) := by decide
  exact types field.kind field.kind.mem_all column.type (mem_columnTypes mapped)

private theorem kind_of_tinyInt (mapped : ofField field = .ok column)
    (tiny : column.type = .tinyInt) : field.kind = .signedInt ∨ field.kind = .unsignedInt := by
  have types : ∀ kind ∈ FieldKind.all, .tinyInt ∈ kind.columnTypes →
      kind = .signedInt ∨ kind = .unsignedInt := by decide
  exact types field.kind field.kind.mem_all (tiny ▸ mem_columnTypes mapped)

private theorem unsigned_iff (mapped : ofField field = .ok column) :
    column.unsigned = true ↔ field.kind = .unsignedInt := by
  rw [(typeFor_of_ofField mapped).2, decide_eq_true_eq]

/-- A signed field has a maximum, which gives its type and its display width. -/
private theorem exists_maximum (mapped : ofField field = .ok column)
    (signed : field.kind = .signedInt) :
    ∃ maximum, field.maxSize = some maximum ∧
      integerType true maximum = .ok (column.type, column.size) ∧
      column.size = .length (digitCount maximum) := by
  have typed := (typeFor_of_ofField mapped).1
  rw [signed] at typed
  cases declared : field.maxSize with
  | none =>
      rw [declared] at typed
      contradiction
  | some maximum =>
      rw [declared] at typed
      obtain ⟨_, _, _, _, width, _⟩ := exists_of_signedType typed
      exact ⟨maximum, rfl, typed, width⟩

private theorem tinyInt_of_shown {type : ColumnType} (notBoolean : type ≠ .boolean)
    (shown : type.shown = "tinyint(1)".toList.takeWhile Char.isAlpha) : type = .tinyInt := by
  cases type <;> first | rfl | contradiction

private theorem eq_one_of_shown {size : Nat}
    (shown : (TypeSize.length size).shown ++ unsignedMark false = "(1)".toList) : size = 1 := by
  have closed : Decimal.digitChars size ++ [')'] = ['1'] ++ [')'] := by
    simpa [TypeSize.shown, unsignedMark] using shown
  have digits := List.append_cancel_right closed
  have value : Nat.ofDigitChars 10 (Decimal.digitChars size) 0 = size :=
    Nat.ofDigitChars_ten_toDigits
  rw [← value, digits]
  rfl

/-- The text of a boolean is that of the fields that are stored as one, and of no other. -/
theorem describedType_eq_boolean_iff (mapped : ofField field = .ok column) :
    column.describedType = "tinyint(1)" ↔ field.StoredAsBoolean := by
  by_cases boolean : column.type = .boolean
  · exact iff_of_true (describedType_boolean boolean)
      (.inl ((type_eq_boolean_iff mapped).1 boolean))
  have notBoolean : field.kind ≠ .boolean := fun kind =>
    boolean ((type_eq_boolean_iff mapped).2 kind)
  constructor
  · intro described
    have blank : ' ' ∉ column.describedType.toList := by
      rw [described]
      decide
    have notUnsigned : field.kind ≠ .unsignedInt := fun unsigned =>
      blank ((blank_mem_describedType boolean).2 ((unsigned_iff mapped).2 unsigned))
    have keyword := keyword_describedType column
    rw [described] at keyword
    have tiny := tinyInt_of_shown boolean keyword.symm
    have signed := (kind_of_tinyInt mapped tiny).resolve_right notUnsigned
    obtain ⟨maximum, declared, chosen, width⟩ := exists_maximum mapped signed
    have unsigned : column.unsigned = false := by
      rw [Bool.eq_false_iff, ne_eq, unsigned_iff mapped]
      exact notUnsigned
    have written := describedType_eq boolean
    rw [described, tiny, width, unsigned] at written
    have sized : "tinyint".toList ++ ((TypeSize.length (digitCount maximum)).shown ++
        unsignedMark false) = "tinyint".toList ++ "(1)".toList := written.symm
    have oneDigit := eq_one_of_shown (List.append_cancel_left sized)
    rw [oneDigit] at width
    exact .inr ⟨signed, maximum, declared, (integerType_eq_boolean_iff chosen).1 ⟨tiny, width⟩⟩
  · rintro (kind | ⟨signed, maximum, declared, small⟩)
    · exact absurd kind notBoolean
    · obtain ⟨_, same, chosen, _⟩ := exists_maximum mapped signed
      obtain rfl := Option.some.inj (declared.symm.trans same)
      obtain ⟨type, size⟩ := (integerType_eq_boolean_iff chosen).2 small
      have unsigned : column.unsigned = false := by
        rw [Bool.eq_false_iff, ne_eq, unsigned_iff mapped, signed]
        decide
      rw [← String.toList_inj, describedType_eq boolean, type, size, unsigned]
      decide

end Texts

/-! ## Type texts -/

private theorem boolean_of_shown_eq : ∀ left ∈ FieldKind.all, ∀ right ∈ FieldKind.all,
    left ≠ right → left ≠ .unsignedInt → right ≠ .unsignedInt →
      ∀ leftType ∈ left.columnTypes, ∀ rightType ∈ right.columnTypes,
        leftType.shown = rightType.shown → left = .boolean ∨ right = .boolean := by
  decide +kernel

section Pairs

variable {left right : Field} {leftColumn rightColumn : Column}

/-- Fields of different kinds that share a type text share the one of booleans. -/
private theorem eq_boolean_of_described_eq (different : left.kind ≠ right.kind)
    (leftMapped : ofField left = .ok leftColumn) (rightMapped : ofField right = .ok rightColumn)
    (same : leftColumn.describedType = rightColumn.describedType) :
    leftColumn.describedType = "tinyint(1)" := by
  by_cases leftBoolean : leftColumn.type = .boolean
  · exact describedType_boolean leftBoolean
  by_cases rightBoolean : rightColumn.type = .boolean
  · exact same.trans (describedType_boolean rightBoolean)
  have sameUnsigned : left.kind = .unsignedInt ↔ right.kind = .unsignedInt := by
    rw [← unsigned_iff leftMapped, ← unsigned_iff rightMapped,
      ← blank_mem_describedType leftBoolean, ← blank_mem_describedType rightBoolean, same]
  have leftSigned : left.kind ≠ .unsignedInt := fun unsigned =>
    different (unsigned.trans (sameUnsigned.1 unsigned).symm)
  have rightSigned : right.kind ≠ .unsignedInt := fun unsigned =>
    leftSigned (sameUnsigned.2 unsigned)
  have shown : leftColumn.type.shown = rightColumn.type.shown := by
    rw [← keyword_describedType, ← keyword_describedType, same]
  rcases boolean_of_shown_eq left.kind left.kind.mem_all right.kind right.kind.mem_all different
    leftSigned rightSigned _ (mem_columnTypes leftMapped) _ (mem_columnTypes rightMapped) shown
    with kind | kind
  · exact absurd ((type_eq_boolean_iff leftMapped).2 kind) leftBoolean
  · exact absurd ((type_eq_boolean_iff rightMapped).2 kind) rightBoolean

/-- Two fields of different kinds have the same type text just when both are stored as booleans,
and then it is `tinyint(1)`. Otherwise a column of one field is never taken for one of the
other, so changing the kind of a field plans a change of its column. -/
theorem describedType_eq_iff (different : left.kind ≠ right.kind)
    (leftMapped : ofField left = .ok leftColumn) (rightMapped : ofField right = .ok rightColumn) :
    (leftColumn.describedType = rightColumn.describedType ↔
        left.StoredAsBoolean ∧ right.StoredAsBoolean) ∧
      (left.StoredAsBoolean ∧ right.StoredAsBoolean →
        leftColumn.describedType = "tinyint(1)" ∧ rightColumn.describedType = "tinyint(1)") ∧
      (¬(left.StoredAsBoolean ∧ right.StoredAsBoolean) →
        ∀ name,
          Plan.columnAgrees rightColumn (PhysicalTable.liveColumn name leftColumn) = false) := by
  have leftText := describedType_eq_boolean_iff leftMapped
  have rightText := describedType_eq_boolean_iff rightMapped
  have shared : leftColumn.describedType = rightColumn.describedType ↔
      left.StoredAsBoolean ∧ right.StoredAsBoolean := by
    constructor
    · intro same
      have boolean := eq_boolean_of_described_eq different leftMapped rightMapped same
      exact ⟨leftText.1 boolean, rightText.1 (same.symm.trans boolean)⟩
    · rintro ⟨leftStored, rightStored⟩
      exact (leftText.2 leftStored).trans (rightText.2 rightStored).symm
  refine ⟨shared, fun stored => ⟨leftText.2 stored.1, rightText.2 stored.2⟩, fun apart name => ?_⟩
  have texts : Text.sameIgnoringCase rightColumn.describedType
      (Text.trim (PhysicalTable.liveColumn name leftColumn).type) = false := by
    rw [PhysicalTable.liveColumn, trim_describedType, Bool.eq_false_iff, ne_eq,
      Text.sameIgnoringCase_iff, lower_describedType, lower_describedType, String.toList_inj]
    exact fun same => apart (shared.1 same.symm)
  rw [Plan.columnAgrees, texts]
  rfl

end Pairs

def flag : Field := { kind := .boolean }

def grade : Field := { kind := .signedInt, maxSize := some (.ofInt 10) }

/-- Grades are not stored as booleans, so making a flag of one is seen. -/
theorem grade_not_taken_for_flag :
    grade.kind ≠ flag.kind ∧ ∃ gradeColumn flagColumn, ofField grade = .ok gradeColumn ∧
      ofField flag = .ok flagColumn ∧ gradeColumn.describedType = "tinyint(2)" ∧
      Plan.columnAgrees flagColumn (PhysicalTable.liveColumn "grade" gradeColumn) = false := by
  have gradeMapped : ofField grade =
      .ok ⟨.tinyInt, .length 2, false, false, false, false, false, none, none⟩ := by
    decide +kernel
  have flagMapped : ofField flag =
      .ok ⟨.boolean, .none, false, false, false, false, false, none, none⟩ := rfl
  have different : grade.kind ≠ flag.kind := by decide
  have kinds := describedType_eq_iff different gradeMapped flagMapped
  have notStored : ¬grade.StoredAsBoolean := by
    rintro (kind | ⟨_, maximum, declared, small⟩)
    · exact absurd kind (by decide)
    · obtain rfl : .ofInt 10 = maximum := Option.some.inj declared
      exact absurd small (by decide +kernel)
  exact ⟨different, _, _, gradeMapped, flagMapped, by decide +kernel,
    kinds.2.2 (fun stored => notStored stored.1) "grade"⟩

def rating : Field := { kind := .signedInt, maxSize := some (.ofInt 5) }

/-- A rating is described as a flag is. -/
theorem rating_described_as_flag :
    rating.kind ≠ flag.kind ∧ ∃ ratingColumn flagColumn, ofField rating = .ok ratingColumn ∧
      ofField flag = .ok flagColumn ∧
      ratingColumn.describedType = flagColumn.describedType := by
  have ratingMapped : ofField rating =
      .ok ⟨.tinyInt, .length 1, false, false, false, false, false, none, none⟩ := by
    decide +kernel
  exact ⟨by decide, _, _, ratingMapped, rfl, by decide +kernel⟩

end Column

end SchemaKeeper
