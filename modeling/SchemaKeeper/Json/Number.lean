import SchemaKeeper.Json.Basic
import SchemaKeeper.Binary64.Shortest

/-!
Contract: number literals of JSON and the numbers they stand for.

Integers are read exactly. Any other literal is read as a double from its leading
digits, as many as fit into 64 bits, scaled by one multiplication or division with
a power of ten; so a literal with more digits than that need not give the nearest
double. Doubles are written with their shortest digits and always keep a point or
an exponent.

Owns: both directions and the layout of written doubles.
-/

namespace SchemaKeeper.Json.Number

/-! ## Reading -/

/-- The leading digits that keep a significand below `2 ^ 64`, and the digits that
are left over. -/
def gatherDigits : Nat → List Char → Nat × List Char
  | significand, [] => (significand, [])
  | significand, digit :: rest =>
      let next := Nat.ofDigitChars 10 [digit] significand
      if next < Nat.pow 2 64 then gatherDigits next rest else (significand, digit :: rest)

def powerOfTen (power : Nat) : Binary64 :=
  .ofRatio false (Nat.pow 10 power) 1

/-- A significand scaled by a power of ten in double arithmetic. Powers above
`308` divide in steps of `10 ^ 308`; a number beyond the doubles has no value. -/
def scale (negative : Bool) (significand : Binary64) (power : Int) : Option Binary64 :=
  if power.natAbs ≤ 308 then
    if 0 ≤ power then
      match Binary64.product negative significand (powerOfTen power.natAbs) with
      | .infinity _ => none
      | result => some result
    else
      some (Binary64.quotient negative significand (powerOfTen power.natAbs))
  else if significand.magnitude = 0 then
    some (.zero negative)
  else if 0 ≤ power then
    none
  else
    scale negative (Binary64.quotient false significand (powerOfTen 308)) (power + 308)
termination_by (-power).toNat
decreasing_by omega

def writtenExponent (literal : Number) : Int :=
  match literal.exponent with
  | none => 0
  | some (negative, digits) =>
      let power : Int := Nat.ofDigitChars 10 digits 0
      if negative then -power else power

/-- The double that a literal stands for; `none` beyond the doubles. Whole digits
that do not fit into the significand raise the power of ten, fraction digits that
do fit lower it, and further fraction digits are dropped. -/
def toBinary64? (literal : Number) : Option Binary64 :=
  let fraction := literal.fraction.getD []
  let (wholePart, skipped) := gatherDigits 0 literal.whole
  let (significand, dropped) := gatherDigits wholePart fraction
  let shift : Int := (skipped.length : Int) - ((fraction.length : Int) - dropped.length)
  scale literal.negative (.ofInt significand) (shift + literal.writtenExponent)

/-- The integer that a literal without point and exponent stands for. The literal
`-0` is no integer, since it carries a sign. -/
def integer? (literal : Number) : Option Int :=
  match literal.fraction, literal.exponent with
  | none, none =>
      let magnitude := Nat.ofDigitChars 10 literal.whole 0
      if literal.negative then
        if magnitude = 0 then none else some (-(magnitude : Int))
      else
        some magnitude
  | _, _ => none

/-! ## Writing -/

def ofInt (value : Int) : Number :=
  ⟨value < 0, Decimal.digitChars value.natAbs, none, none⟩

/-- The literal of a decimal as doubles are written: positional from `10 ^ -5` up
to below `10 ^ 16` with at least one digit on each side of the point, with an
exponent otherwise. -/
def ofDecimal (negative : Bool) (number : Decimal) : Number :=
  let digits := Decimal.digitChars number.digits
  let point : Int := digits.length + number.exponent
  if number.digits = 0 then
    ⟨negative, ['0'], some ['0'], none⟩
  else if 0 ≤ number.exponent ∧ point ≤ 16 then
    ⟨negative, digits ++ List.replicate number.exponent.toNat '0', some ['0'], none⟩
  else if 0 < point ∧ point ≤ 16 then
    ⟨negative, digits.take point.toNat, some (digits.drop point.toNat), none⟩
  else if -5 < point ∧ point ≤ 0 then
    ⟨negative, ['0'], some (List.replicate (-point).toNat '0' ++ digits), none⟩
  else
    let power := point - 1
    let exponent := (decide (power < 0), Decimal.digitChars power.natAbs)
    ⟨negative, digits.take 1, if digits.length = 1 then none else some (digits.drop 1),
      some exponent⟩

def ofBinary64 (value : Binary64) : Number :=
  ofDecimal value.isNegative (value.shortest .toEven)

end SchemaKeeper.Json.Number
