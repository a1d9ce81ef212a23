import SchemaKeeper.Proofs.References
import SchemaKeeper.Proofs.Refusals
import SchemaKeeper.Proofs.Rounding

/-!
Contract: a column that refers to another one is compatible with it.

The check of a reference compares kinds and bounds, and bounds are compared as numbers. Two doubles
are the same number if they are the same double or both zeros. Bounds of values are only ever
compared, so the sign of a zero does not matter to them. A maximum of zero has a column for
booleans and timestamps alone, whose types do not depend on its sign either.

Owns: the doubles at one place of the number line, and what fields of the same shape share.

Does not own: which field a reference points to (`References`).
-/

namespace SchemaKeeper

/-! ## Doubles -/

namespace Binary64

private theorem shift_le {significand shift other otherShift : Nat}
    (bits : significand < 2 ^ 53) (canonical : Canonical other otherShift)
    (same : significand * 2 ^ shift = other * 2 ^ otherShift) : otherShift ≤ shift := by
  by_contra larger
  have coarser : shift + 1 ≤ otherShift := by omega
  have filled : 2 ^ 52 ≤ other := canonical.2.1.resolve_left (by omega)
  have beyond : 2 ^ 53 * 2 ^ shift ≤ significand * 2 ^ shift := by
    calc 2 ^ 53 * 2 ^ shift = 2 ^ 52 * 2 ^ (shift + 1) := by rw [Nat.pow_succ]; omega
      _ ≤ other * 2 ^ otherShift :=
          Nat.mul_le_mul filled (Nat.pow_le_pow_right (by decide) coarser)
      _ = significand * 2 ^ shift := same.symm
  exact Nat.not_le_of_lt bits (Nat.le_of_mul_le_mul_right beyond (Nat.two_pow_pos shift))

/-- A number of units has one canonical form. -/
theorem Canonical.unique {significand shift other otherShift : Nat}
    (canonical : Canonical significand shift) (otherCanonical : Canonical other otherShift)
    (same : significand * 2 ^ shift = other * 2 ^ otherShift) :
    significand = other ∧ shift = otherShift := by
  have shifts : shift = otherShift :=
    Nat.le_antisymm (shift_le otherCanonical.1 canonical same.symm)
      (shift_le canonical.1 otherCanonical same)
  subst shifts
  exact ⟨Nat.mul_right_cancel (Nat.two_pow_pos shift) same, rfl⟩

/-- The number is a zero of either sign. -/
def IsZero (number : Binary64) : Prop :=
  ∃ negative, number = zero negative

theorem isZero_of_magnitude {negative : Bool} {significand shift : Nat}
    {canonical : Canonical significand shift} (none : significand * 2 ^ shift = 0) :
    (finite negative significand shift canonical).IsZero := by
  obtain ⟨rfl, rfl⟩ := canonical.unique (by decide : Canonical 0 0)
    (by rw [none, Nat.zero_mul])
  exact ⟨negative, rfl⟩

private theorem eq_of_signed_eq {negative otherNegative : Bool} {size other : Nat}
    (same : (if negative then -(size : Int) else size) = if otherNegative then -(other : Int)
      else other) : size = other ∧ (negative = otherNegative ∨ size = 0) := by
  cases negative <;> cases otherNegative <;> simp at same ⊢ <;> omega

/-- Doubles that are the same number are the same, or both are zeros. -/
theorem eq_or_isZero_of_sameNumber {left right : Binary64}
    (same : left.sameNumber right = true) :
    left = right ∨ left.IsZero ∧ right.IsZero := by
  obtain ⟨units, here, there⟩ := exists_position_of_sameNumber same
  have together := here.trans there.symm
  cases left with
  | nan => contradiction
  | infinity negative =>
      cases right with
      | nan => contradiction
      | infinity otherNegative =>
          rw [position_infinity, position_infinity] at together
          obtain ⟨_, signs | none⟩ := eq_of_signed_eq (Option.some.inj together)
          · exact .inl (congrArg infinity signs)
          · rw [limit_eq] at none
            exact absurd none (Nat.ne_of_gt (Nat.two_pow_pos limitPlaces))
      | finite otherNegative other otherShift otherCanonical =>
          rw [position_infinity] at together
          have near := magnitude_lt_limit (finite otherNegative other otherShift otherCanonical)
          exact absurd (eq_of_signed_eq (Option.some.inj together)).1 (Nat.ne_of_gt near)
  | finite negative significand shift canonical =>
      cases right with
      | nan => contradiction
      | infinity otherNegative =>
          rw [position_infinity] at together
          have near := magnitude_lt_limit (finite negative significand shift canonical)
          exact absurd (eq_of_signed_eq (Option.some.inj together)).1 (Nat.ne_of_lt near)
      | finite otherNegative other otherShift otherCanonical =>
          obtain ⟨sizes, signs | none⟩ := eq_of_signed_eq (Option.some.inj together)
          · obtain ⟨rfl, rfl⟩ := canonical.unique otherCanonical sizes
            subst signs
            exact .inl rfl
          · exact .inr ⟨isZero_of_magnitude none, isZero_of_magnitude (sizes ▸ none)⟩

/-- What depends on places alone holds of both of two optional numbers that are the same. -/
theorem forall_mem_iff_of_sameOptional (holds : Binary64 → Prop) {left right : Option Binary64}
    (placed : ∀ {number other : Binary64}, number.position = other.position →
      (holds number ↔ holds other))
    (same : sameOptional left right = true) :
    (∀ number ∈ left, holds number) ↔ ∀ number ∈ right, holds number := by
  cases left with
  | none =>
      cases right with
      | none => rfl
      | some other => contradiction
  | some number =>
      cases right with
      | none => contradiction
      | some other =>
          obtain ⟨units, here, there⟩ := exists_position_of_sameNumber same
          simpa using placed (here.trans there.symm)

theorem less_congr_left {left right other : Binary64} (same : left.position = right.position) :
    left.less other = right.less other := by
  rw [less, less, same]

theorem less_congr_right {left right other : Binary64} (same : left.position = right.position) :
    other.less left = other.less right := by
  rw [less, less, same]

end Binary64

/-! ## Columns -/

namespace Column

private theorem typeFor_zero (kind : FieldKind) (left right : Bool) :
    (typeFor kind (some (.zero left))).toOption = (typeFor kind (some (.zero right))).toOption := by
  cases kind <;> cases left <;> cases right <;> decide +kernel

theorem typeFor_of_sameOptional {kind : FieldKind} {left right : Option Binary64}
    {choice : ColumnType × TypeSize} (same : Binary64.sameOptional left right = true)
    (typed : typeFor kind left = .ok choice) : typeFor kind right = .ok choice := by
  cases left with
  | none =>
      cases right with
      | none => exact typed
      | some other => contradiction
  | some number =>
      cases right with
      | none => contradiction
      | some other =>
          obtain rfl | ⟨⟨negative, rfl⟩, ⟨otherNegative, rfl⟩⟩ :=
            Binary64.eq_or_isZero_of_sameNumber same
          · exact typed
          · rw [← toOption_eq_some_iff] at typed ⊢
            rw [← typed]
            exact typeFor_zero kind otherNegative negative

/-- Fields of the same shape have columns of the same type. -/
theorem sameType_of_same {field other : Field} (same : field.shape.Same other.shape)
    {column otherColumn : Column} (mapped : ofField field = .ok column)
    (otherMapped : ofField other = .ok otherColumn) :
    column.type = otherColumn.type ∧ column.size = otherColumn.size ∧
      column.unsigned = otherColumn.unsigned := by
  obtain ⟨typed, unsigned⟩ := typeFor_of_ofField mapped
  obtain ⟨otherTyped, otherUnsigned⟩ := typeFor_of_ofField otherMapped
  have kinds : field.kind = other.kind := same.kind
  have sizes : Binary64.sameOptional field.maxSize other.maxSize = true := same.maxSize
  rw [kinds] at typed unsigned
  rw [typeFor_of_sameOptional sizes typed] at otherTyped
  injection otherTyped with together
  injection together with types typeSizes
  exact ⟨types, typeSizes, unsigned.trans otherUnsigned.symm⟩

/-- The described type has no part but the type, its size and its sign. -/
theorem describedType_congr {column other : Column} (types : column.type = other.type)
    (sizes : column.size = other.size) (signs : column.unsigned = other.unsigned) :
    column.describedType = other.describedType := by
  simp only [describedType, typeSql, types, sizes, signs]

end Column

/-! ## Values -/

namespace Field

variable {field other : Field}

theorem boundRefusal?_iff_of_same (same : field.shape.Same other.shape) (number : Binary64) :
    field.boundRefusal? number = none ↔ other.boundRefusal? number = none := by
  have kinds : field.kind = other.kind := same.kind
  have low := Binary64.forall_mem_iff_of_sameOptional (fun least => number.less least = false)
    (fun placed => by rw [Binary64.less_congr_right placed]) same.minSize
  have high := Binary64.forall_mem_iff_of_sameOptional
    (fun greatest => greatest.less number = false)
    (fun placed => by rw [Binary64.less_congr_left placed]) same.maxSize
  rw [boundRefusal?_eq_none_iff, boundRefusal?_eq_none_iff, kinds]
  exact and_congr_right fun _ => and_congr low high

/-- A scalar is taken if it suits the kind and, unless that is a timestamp, its number is
within the bounds. -/
theorem refusal?_scalar_eq_none_iff {required : Bool} {value : Value} (notNull : value ≠ .null)
    (scalar : value.isList = false) :
    field.refusal? required value = none ↔
      kindRefusal? field.kind value = none ∧ (field.kind ≠ .timestamp →
        ∀ number ∈ value.number?, field.boundRefusal? number = none) := by
  have judged : field.refusal? required value = (kindRefusal? field.kind value).or
      (if field.kind = .timestamp then none else value.number?.bind (boundRefusal? field)) := by
    cases value with
    | null => contradiction
    | list items => contradiction
    | _ =>
        simp only [refusal?]
        split <;> simp [*]
  rw [judged, Option.or_eq_none_iff]
  by_cases timestamp : field.kind = .timestamp <;> simp [timestamp, Option.bind_eq_none_iff]

/-- Fields of the same shape take the same values other than null. -/
theorem refusal?_iff_of_same (same : field.shape.Same other.shape) {value : Value}
    (notNull : value ≠ .null) (required otherRequired : Bool) :
    field.refusal? required value = none ↔ other.refusal? otherRequired value = none := by
  have kinds : field.kind = other.kind := same.kind
  cases scalar : value.isList with
  | true =>
      cases value with
      | list items => simp [refusal?]
      | _ => contradiction
  | false =>
      rw [refusal?_scalar_eq_none_iff notNull scalar, refusal?_scalar_eq_none_iff notNull scalar,
        kinds]
      simp only [boundRefusal?_iff_of_same same]

end Field

/-! ## References -/

namespace Table

/-- A field that refers to a field of another table has a column that is described like the
column of its target, and takes the same values other than null. -/
theorem reference_compatible (table target : Table) {name targetName : String}
    {field targetField : Field} {onDelete onUpdate : Option ReferentialAction}
    (listed : (name, field) ∈ table.fields)
    (refers : field.reference = some (target.referenceTo targetName onDelete onUpdate))
    (targetListed : (targetName, targetField) ∈ target.fields) :
    (∃ column targetColumn, Column.ofField field = .ok column ∧
      Column.ofField targetField = .ok targetColumn ∧
      column.describedType = targetColumn.describedType ∧ column.type = targetColumn.type ∧
      column.size = targetColumn.size ∧ column.unsigned = targetColumn.unsigned) ∧
    ∀ value ≠ Value.null,
      table.checkValue name value = .ok () ↔ target.checkValue targetName value = .ok () := by
  obtain ⟨_, shape, captured, same⟩ :=
    of_checkReference (table.checkReference_of_listed listed refers)
  obtain rfl : targetField.shape = shape := by
    rw [referenceTo, target.field?_eq_some_iff.2 targetListed] at captured
    exact Option.some.inj captured
  obtain ⟨column, mapped⟩ := table.exists_column listed
  obtain ⟨targetColumn, targetMapped⟩ := target.exists_column targetListed
  refine ⟨⟨column, targetColumn, mapped, targetMapped, ?_⟩, fun value notNull => ?_⟩
  · obtain ⟨types, sizes, signs⟩ := Column.sameType_of_same same targetMapped mapped
    exact ⟨Column.describedType_congr types.symm sizes.symm signs.symm,
      types.symm, sizes.symm, signs.symm⟩
  · rw [checkValue_of_listed listed, checkValue_of_listed targetListed,
      Field.checkValue_eq_ok_iff, Field.checkValue_eq_ok_iff]
    exact (Field.refusal?_iff_of_same same notNull _ _).symm

def shelfNumber : Field :=
  { kind := .unsignedInt, maxSize := some (.ofInt 255), minSize := some (.zero false)
    primaryKey := true }

def shelfBuilt : Field := { kind := .timestamp, maxSize := some (.zero false), unique := true }

def shelves : Table where
  name := "shelves"
  fields := [("number", shelfNumber), ("built", shelfBuilt)]
  accepted := by decide +kernel

/-- The shelf that a copy stands on. Its least value is the other zero. -/
def copyShelf : Field :=
  { kind := .unsignedInt, maxSize := some (.ofInt 255), minSize := some (.zero true)
    reference := some (shelves.referenceTo "number" none none) }

def copyBuilt : Field :=
  { kind := .timestamp, maxSize := some (.zero true), nullable := true
    reference := some (shelves.referenceTo "built" (some .cascade) none) }

def copies : Table where
  name := "copies"
  fields := [("shelf", copyShelf), ("built", copyBuilt)]
  accepted := by decide +kernel

/-- Copies are compatible with shelves, with either zero as a bound. -/
theorem copies_compatible :
    (∃ column targetColumn, Column.ofField copyShelf = .ok column ∧
      Column.ofField shelfNumber = .ok targetColumn ∧
      column.describedType = "tinyint(3) unsigned" ∧
      targetColumn.describedType = "tinyint(3) unsigned") ∧
    (∃ column targetColumn, Column.ofField copyBuilt = .ok column ∧
      Column.ofField shelfBuilt = .ok targetColumn ∧
      column.describedType = "timestamp" ∧ targetColumn.describedType = "timestamp") ∧
    copies.checkValue "shelf" (.float (.zero true)) = .ok () ∧
    shelves.checkValue "number" (.float (.zero true)) = .ok () := by
  obtain ⟨⟨column, target, mapped, targetMapped, same, _⟩, taken⟩ :=
    reference_compatible copies shelves
      (List.mem_cons_self : ("shelf", copyShelf) ∈ copies.fields)
      rfl (List.mem_cons_self : ("number", shelfNumber) ∈ shelves.fields)
  obtain ⟨⟨built, targetBuilt, mappedBuilt, targetMappedBuilt, sameBuilt, _⟩, _⟩ :=
    reference_compatible copies shelves
      (List.mem_cons_of_mem _ List.mem_cons_self : ("built", copyBuilt) ∈ copies.fields)
      rfl (List.mem_cons_of_mem _ List.mem_cons_self : ("built", shelfBuilt) ∈ shelves.fields)
  have described : (Column.ofField shelfNumber).toOption.map Column.describedType =
      some "tinyint(3) unsigned" := by decide +kernel
  rw [targetMapped] at described
  have targetText : target.describedType = "tinyint(3) unsigned" := Option.some.inj described
  have describedBuilt : (Column.ofField shelfBuilt).toOption.map Column.describedType =
      some "timestamp" := by decide +kernel
  rw [targetMappedBuilt] at describedBuilt
  have builtText : targetBuilt.describedType = "timestamp" := Option.some.inj describedBuilt
  have accepted : shelves.checkValue "number" (.float (.zero true)) = .ok () :=
    toOption_eq_some_iff.1 (by decide +kernel)
  exact ⟨⟨column, target, mapped, targetMapped, same.trans targetText, targetText⟩,
    ⟨built, targetBuilt, mappedBuilt, targetMappedBuilt, sameBuilt.trans builtText, builtText⟩,
    (taken (.float (.zero true)) (by simp)).2 accepted, accepted⟩

end Table

end SchemaKeeper
