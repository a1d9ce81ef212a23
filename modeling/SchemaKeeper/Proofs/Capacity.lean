import Mathlib.Tactic.IntervalCases
import SchemaKeeper.Field.Acceptance
import SchemaKeeper.Proofs.ByteCounts

/-!
Contract: which maxima an integer column stores.

The type is the narrowest one whose power of `256` reaches the range, so a range that is such
a power itself gets a type that ends just below it. For every other maximum up to `2 ^ 53` the
column holds it.

Owns: the maxima at the edge of a type.

Does not own: the choice of the type (`ByteCounts`), or the minima of signed columns (`Minima`).
-/

namespace SchemaKeeper.Column

open Binary64

/-! ## Types -/

/-- A natural number is stored if the range that it spans stays below all bits. -/
theorem stores_natural_iff {column : Column} {bytes : Nat} (positive : 0 < bytes)
    (width : column.type.integerBytes? = some bytes) (value : Nat) :
    column.Stores value ↔ spannedRange (!column.unsigned) value < 2 ^ (8 * bytes) := by
  have bits : (2 : Nat) ^ (8 * bytes) = 2 * 2 ^ (8 * bytes - 1) := by
    rw [← Nat.pow_succ']
    congr 1
    omega
  have half : ((2 ^ (8 * bytes - 1) : Nat) : Int) = 2 ^ (8 * bytes - 1) := Int.natCast_pow 2 _
  have all : ((2 ^ (8 * bytes) : Nat) : Int) = 2 ^ (8 * bytes) := Int.natCast_pow 2 _
  rw [stores_iff width]
  cases column.unsigned with
  | true =>
      simp only [integerRange, spannedRange, Bool.not_true, Bool.false_eq_true, if_true, if_false]
      omega
  | false =>
      simp only [integerRange, spannedRange, Bool.not_false, Bool.false_eq_true, if_true, if_false]
      omega

/-- Up to four bytes there is a type for every number of bytes. -/
private theorem exists_type_of_edge :
    ∀ edge ∈ [1, 2, 3, 4], ∃ type ∈ ColumnType.all, type.integerBytes? = some edge := by
  decide

/-- The narrowest type for a range does not reach beyond it only if the range is a power of
`256`. -/
theorem Narrowest.lt_iff {type : ColumnType} {bytes range : Nat}
    (narrowest : Narrowest type bytes range) (small : range ≤ 2 ^ 54) :
    range < 2 ^ (8 * bytes) ↔ ∀ edge ∈ [1, 2, 3, 4], range ≠ 2 ^ (8 * edge) := by
  have reaches := narrowest.reaches
  constructor
  · intro inside edge listed same
    obtain ⟨other, _, otherWidth⟩ := exists_type_of_edge edge listed
    rcases Nat.lt_or_ge edge bytes with fewer | more
    · have passed := narrowest.least other edge otherWidth fewer
      omega
    · have power : 2 ^ (8 * bytes) ≤ 2 ^ (8 * edge) := Nat.pow_le_pow_right (by decide) (by omega)
      omega
  · intro noEdge
    have widths := integerBytes_cases narrowest.width
    by_cases widest : bytes = 8
    · -- A range of at most seven bytes is far below the end of the widest type.
      subst widest
      omega
    · apply Nat.lt_of_le_of_ne reaches
      apply noEdge
      simp only [List.mem_cons, List.not_mem_nil, or_false] at widths ⊢
      omega

/-- The range of a maximum up to `2 ^ 53` gets an integer type. It reaches beyond the type
only if it is a power of `256`. -/
theorem exists_integerType (signed : Bool) {maximum : Nat} (positive : 1 ≤ maximum)
    (exact : maximum ≤ 2 ^ 53) :
    ∃ type bytes, integerType signed (.ofInt maximum) =
        .ok (type, .length (digitCount (.ofInt maximum))) ∧
      type.integerBytes? = some bytes ∧ 0 < bytes ∧
      (spannedRange signed maximum < 2 ^ (8 * bytes) ↔
        ∀ edge ∈ [1, 2, 3, 4], spannedRange signed maximum ≠ 2 ^ (8 * edge)) := by
  obtain ⟨type, bytes, chosen, narrowest⟩ := exists_narrowestType signed positive exact
  have rangeSmall : spannedRange signed maximum ≤ 2 ^ 54 := by
    unfold spannedRange
    split <;> omega
  have some : 0 < bytes := by
    have widths := integerBytes_cases narrowest.width
    simp only [List.mem_cons, List.not_mem_nil, or_false] at widths
    omega
  exact ⟨type, bytes, chosen, narrowest.width, some, narrowest.lt_iff rangeSmall⟩

/-! ## Maxima -/

theorem less_self (number : Binary64) : number.less number = false := by
  unfold less
  cases number.position <;> simp

/-- A number that is neither negative nor below the minimum is in the bounds that it ends. -/
private theorem boundRefusal?_maximum {field : Field} {number : Binary64}
    (natural : number.less (.zero false) = false) (declared : field.maxSize = some number)
    (ordered : ∀ least ∈ field.minSize, number.less least = false) :
    field.boundRefusal? number = none := by
  refine (field.boundRefusal?_eq_none_iff number).2 ⟨fun _ => natural, ordered, ?_⟩
  intro greatest isGreatest
  obtain rfl := Option.some.inj (declared.symm.trans isGreatest)
  exact less_self number

private theorem ofInt_not_negative {number : Nat} (small : number ≤ 2 ^ 53) :
    (Binary64.ofInt number).less (.zero false) = false := by
  obtain ⟨significand, shift, canonical, whole, _⟩ := exists_ofInt_exact small
  rw [whole]
  simp [less, position, zero]

private theorem number?_natural {number : Nat} (small : number ≤ 2 ^ 53) :
    (Value.int (.ofInt number)).number? = some (.ofInt number) := by
  rw [Value.number?, Int64.toInt_ofInt_of_le (by omega) (by omega)]

/-- An integer field takes the integers in its bounds. -/
theorem checkValue_int {field : Field} {value : Int64} {number : Binary64}
    (integer : field.kind.isInteger = true) (read : (Value.int value).number? = some number)
    (inBounds : field.boundRefusal? number = none) (table name : String) (required : Bool) :
    field.checkValue table name required (.int value) = .ok () := by
  have whole : Field.kindRefusal? field.kind (.int value) = none := by
    cases kind : field.kind with
    | signedInt => rfl
    | unsignedInt => rfl
    | _ =>
        rw [kind] at integer
        contradiction
  have notTimestamp : field.kind ≠ .timestamp := by
    intro timestamp
    rw [timestamp] at integer
    contradiction
  have accepted : field.refusal? required (.int value) = none := by
    simp only [Field.refusal?, whole, read, if_neg notTimestamp, Option.bind_some, inBounds]
  rw [Field.checkValue, accepted]

theorem ofField_of_typeFor {field : Field} {type : ColumnType} {size : TypeSize}
    (typed : typeFor field.kind field.maxSize = .ok (type, size)) :
    ∃ column, ofField field = .ok column ∧ column.type = type ∧
      column.unsigned = decide (field.kind = .unsignedInt) := by
  unfold ofField
  rw [typed]
  exact ⟨_, rfl, rfl, rfl⟩

theorem typeFor_integer {field : Field} {maxSize : Binary64}
    (integer : field.kind.isInteger = true) (declared : field.maxSize = some maxSize) :
    typeFor field.kind field.maxSize =
      integerType (decide (field.kind ≠ .unsignedInt)) maxSize := by
  rw [declared]
  cases kind : field.kind with
  | signedInt => rfl
  | unsignedInt => rfl
  | _ =>
      rw [kind] at integer
      contradiction

/-- An integer field with a maximum up to `2 ^ 53` takes that maximum as a value and gets a
column. The column stores it unless the range of the maximum is a power of `256` with at most
four bytes, which is one number too many for its bytes. -/
theorem stores_maximum_iff {field : Field} {maximum : Nat}
    (integer : field.kind.isInteger = true) (positive : 1 ≤ maximum) (exact : maximum ≤ 2 ^ 53)
    (declared : field.maxSize = some (.ofInt maximum)) :
    ∃ column, ofField field = .ok column ∧
      (column.Stores maximum ↔
        ∀ bytes ∈ [1, 2, 3, 4],
          spannedRange (decide (field.kind ≠ .unsignedInt)) maximum ≠ 2 ^ (8 * bytes)) ∧
      ((∀ least ∈ field.minSize, (Binary64.ofInt maximum).less least = false) →
        ∀ table name required,
          field.checkValue table name required (.int (.ofInt maximum)) = .ok ()) := by
  obtain ⟨type, bytes, chosen, width, bytesPositive, edges⟩ :=
    exists_integerType (decide (field.kind ≠ .unsignedInt)) positive exact
  obtain ⟨column, mapped, sameType, sign⟩ :=
    ofField_of_typeFor ((typeFor_integer integer declared).trans chosen)
  have signed : (!column.unsigned) = decide (field.kind ≠ .unsignedInt) := by
    rw [sign, decide_not]
  refine ⟨column, mapped, ?_, fun ordered => ?_⟩
  · rw [stores_natural_iff bytesPositive (sameType ▸ width), signed]
    exact edges
  · exact checkValue_int integer (number?_natural exact)
      (boundRefusal?_maximum (ofInt_not_negative exact) declared ordered)

/-- Depths in feet, where three bytes are used to their end. -/
def depth : Field :=
  { kind := .signedInt, maxSize := some (.ofInt 8388607), minSize := some (.ofInt (-36000)) }

theorem greatest_depth_stored :
    depth.kind.isInteger = true ∧ 8388607 ≤ 2 ^ 53 ∧ depth.maxSize = some (.ofInt 8388607) ∧
      ∃ column, ofField depth = .ok column ∧ column.Stores 8388607 ∧
        depth.checkValue "wells" "depth" true (.int (.ofInt 8388607)) = .ok () := by
  obtain ⟨column, mapped, stores, accepts⟩ :=
    @stores_maximum_iff depth 8388607 rfl (by decide) (by decide) rfl
  have ordered : ∀ least ∈ depth.minSize, (Binary64.ofInt 8388607).less least = false := by
    intro least member
    obtain rfl : .ofInt (-36000) = least := Option.some.inj member
    decide +kernel
  exact ⟨rfl, by decide, rfl, column, mapped, stores.2 (by decide), accepts ordered _ _ _⟩

/-- Page numbers of up to one byte, one too many. -/
def page : Field := { kind := .unsignedInt, maxSize := some (.ofInt 256) }

/-- The field takes a page number of `256`, and its column has no room for it. -/
theorem last_page_not_stored :
    page.checkValue "books" "page" true (.int 256) = .ok () ∧
      ∃ column, ofField page = .ok column ∧ column.type = .tinyInt ∧
        column.unsigned = true ∧ ¬ column.Stores 256 := by
  have mapped : ofField page = .ok {
      type := .tinyInt
      size := .length 3
      unsigned := true
      nullable := false
      primaryKey := false
      autoIncrement := false
      unique := false
      default := none
      reference := none } := by decide +kernel
  exact ⟨by decide +kernel, _, mapped, rfl, rfl, by decide⟩

end SchemaKeeper.Column
