import SchemaKeeper.Proofs.Capacity
import SchemaKeeper.Proofs.Declarations
import SchemaKeeper.Proofs.DigitCounts
import SchemaKeeper.Proofs.ShortestDecimals

/-!
Contract: how the columns of integer fields grow with their maxima.

A larger maximum spans a larger range, and a sign doubles it, so the narrowest type for it is
no narrower. The display width is the number of digits that the maximum is written with. At
`2 ^ 53` the target of the digit loop is rounded back to the maximum, but the digits stay the
same there.

Owns: the order of the types of integer columns, and their display widths.

Does not own: the choice of one type (`ByteCounts`), or the digit loop (`DigitCounts`).
-/

namespace SchemaKeeper.Column

open Binary64

/-! ## Display widths -/

private theorem wholePart_ofInt {number : Nat} (exact : number ≤ 2 ^ 53) :
    (Binary64.ofInt number).wholePart = number := by
  obtain ⟨significand, shift, canonical, whole, magnitude⟩ := exists_ofInt_exact exact
  rw [whole]
  show significand * 2 ^ shift / one = number
  rw [magnitude]
  exact Nat.mul_div_cancel number positive_one

/-- Up to sixteen digits are counted as a whole number is written. -/
theorem digitCount_natural {number : Nat} (positive : 1 ≤ number) (exact : number ≤ 2 ^ 53) :
    digitCount (.ofInt number) = (Decimal.digitChars number).length := by
  have counted {digits : Nat} (few : digits < 16) :
      digitCount (.ofInt number) ≤ digits ↔ number < 10 ^ digits := by
    have whole := digitCount_wholePart_le_iff (.ofInt number) few
    rwa [wholePart_ofInt exact] at whole
  have most : digitCount (.ofInt number) ≤ 16 := by
    have whole := digitCount_wholePart_le_iff_of_large (.ofInt number) (Nat.le_refl 16) (by decide)
    rw [wholePart_ofInt exact] at whole
    apply whole.2
    have bound := @le_magnitude_powerBound 16 (by decide) (Nat.le_refl 16)
    have small : (Binary64.ofInt number).magnitude = number * one := by
      obtain ⟨significand, shift, canonical, same, magnitude⟩ := exists_ofInt_exact exact
      rw [same]
      exact magnitude
    have below : number * one ≤ 10 ^ 16 * one := Nat.mul_le_mul_right one (by omega)
    omega
  have written (digits : Nat) : (Decimal.digitChars number).length ≤ digits ↔
      number < 10 ^ digits := Decimal.length_digitChars_le_iff positive digits
  apply Nat.le_antisymm
  · rcases Nat.lt_or_ge (Decimal.digitChars number).length 16 with few | many
    · exact (counted few).2 ((written _).1 (Nat.le_refl _))
    · exact Nat.le_trans most many
  · rcases Nat.lt_or_ge (digitCount (.ofInt number)) 16 with few | many
    · exact (written _).2 ((counted few).1 (Nat.le_refl _))
    · have short : (Decimal.digitChars number).length ≤ 16 := (written 16).2 (by omega)
      exact Nat.le_trans short many

/-! ## Columns -/

/-- An integer field with a maximum up to `2 ^ 53` has a column of the narrowest type for its
range, as wide as its maximum is written. -/
theorem exists_integerColumn {field : Field} {maximum : Nat}
    (integer : field.kind.isInteger = true) (positive : 1 ≤ maximum) (exact : maximum ≤ 2 ^ 53)
    (declared : field.maxSize = some (.ofInt maximum)) :
    ∃ column bytes, ofField field = .ok column ∧
      column.size = .length (Decimal.digitChars maximum).length ∧
      Narrowest column.type bytes
        (spannedRange (decide (field.kind ≠ .unsignedInt)) maximum) := by
  obtain ⟨type, bytes, chosen, narrowest⟩ :=
    exists_narrowestType (decide (field.kind ≠ .unsignedInt)) positive exact
  rw [digitCount_natural positive exact, ← typeFor_integer integer declared] at chosen
  obtain ⟨column, mapped, _⟩ := ofField_of_typeFor chosen
  have typed := (typeFor_of_ofField mapped).1
  rw [chosen] at typed
  injection typed with same
  injection same with sameType sameSize
  exact ⟨column, bytes, mapped, sameSize.symm, sameType ▸ narrowest⟩

/-- A larger maximum of the same kind, or a signed one, spans no smaller range. -/
private theorem spannedRange_mono {kind other : FieldKind} {smaller larger : Nat}
    (comparable : kind = other ∨ other = .signedInt) (ordered : smaller ≤ larger) :
    spannedRange (decide (kind ≠ .unsignedInt)) smaller ≤
      spannedRange (decide (other ≠ .unsignedInt)) larger := by
  rcases comparable with rfl | rfl
  · unfold spannedRange
    split <;> omega
  · have doubled : spannedRange (decide (FieldKind.signedInt ≠ .unsignedInt)) larger = 2 * larger :=
      rfl
    rw [doubled]
    unfold spannedRange
    split <;> omega

/-- Integer fields with maxima up to `2 ^ 53` have columns. The one for the larger maximum has no
narrower type if the fields are of the same kind, nor if it is the signed one. The display
widths are the numbers of digits of the maxima. -/
theorem integer_columns_monotone {field other : Field} {smaller larger : Nat}
    (positive : 1 ≤ smaller) (ordered : smaller ≤ larger) (exact : larger ≤ 2 ^ 53)
    (integer : field.kind.isInteger = true) (otherInteger : other.kind.isInteger = true)
    (declared : field.maxSize = some (.ofInt smaller))
    (otherDeclared : other.maxSize = some (.ofInt larger)) :
    ∃ column otherColumn bytes otherBytes,
      ofField field = .ok column ∧ ofField other = .ok otherColumn ∧
      column.type.integerBytes? = some bytes ∧
      otherColumn.type.integerBytes? = some otherBytes ∧
      (field.kind = other.kind ∨ other.kind = .signedInt → bytes ≤ otherBytes) ∧
      column.size = .length (Decimal.digitChars smaller).length ∧
      otherColumn.size = .length (Decimal.digitChars larger).length := by
  obtain ⟨column, bytes, mapped, width, narrowest⟩ :=
    exists_integerColumn integer positive (Nat.le_trans ordered exact) declared
  obtain ⟨otherColumn, otherBytes, otherMapped, otherWidth, otherNarrowest⟩ :=
    exists_integerColumn otherInteger (Nat.le_trans positive ordered) exact otherDeclared
  refine ⟨column, otherColumn, bytes, otherBytes, mapped, otherMapped, narrowest.width,
    otherNarrowest.width, ?_, width, otherWidth⟩
  intro comparable
  apply narrowest.mono otherNarrowest
  exact spannedRange_mono comparable ordered

def seat : Field := { kind := .unsignedInt, maxSize := some (.ofInt 255) }

/-- Balances up to where doubles lose the odd numbers. -/
def balance : Field := { kind := .signedInt, maxSize := some (.ofInt 9007199254740992) }

/-- Balances are kept in a type that is no narrower than that of seats. The last maximum is as
wide as it is written, though adding one to it is lost. -/
theorem balances_no_narrower_than_seats :
    255 ≤ 9007199254740992 ∧ ∃ seatColumn balanceColumn seatBytes balanceBytes,
      ofField seat = .ok seatColumn ∧ ofField balance = .ok balanceColumn ∧
      seatColumn.type.integerBytes? = some seatBytes ∧
      balanceColumn.type.integerBytes? = some balanceBytes ∧ seatBytes ≤ balanceBytes ∧
      seatColumn.size = .length 3 ∧ balanceColumn.size = .length 16 := by
  obtain ⟨seatColumn, balanceColumn, seatBytes, balanceBytes, seatMapped, balanceMapped, seatType,
    balanceType, ordered, seatWidth, balanceWidth⟩ :=
    @integer_columns_monotone seat balance 255 9007199254740992 (by decide) (by decide)
      (by decide) rfl rfl rfl rfl
  exact ⟨by decide, seatColumn, balanceColumn, seatBytes, balanceBytes, seatMapped, balanceMapped,
    seatType, balanceType, ordered (.inr rfl), seatWidth, balanceWidth⟩

end SchemaKeeper.Column
