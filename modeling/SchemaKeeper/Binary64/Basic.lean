/-!
Contract: the numbers that bounds and floating-point values are made of.

A `Binary64` is an exact IEEE 754 double: every finite one is a whole number of
units of `2 ^ -1074`, so comparison is comparison of integers and every
operation is an exact integer computation followed by one rounding.

Owns: the canonical form, rounding to nearest with ties to even, comparison and
the few operations that sizing a column needs.

Does not own: decimal text (`Decimal`), or what a bound means for a field.
-/

namespace SchemaKeeper

/-- The significand and shift of a finite number in its only representation. -/
def Binary64.Canonical (significand shift : Nat) : Prop :=
  significand < Nat.pow 2 53 ∧ (shift = 0 ∨ Nat.pow 2 52 ≤ significand) ∧ shift ≤ 2045

instance (significand shift : Nat) : Decidable (Binary64.Canonical significand shift) := by
  unfold Binary64.Canonical
  infer_instance

/-- A double: not a number, an infinity, or `± significand * 2 ^ shift` units of
`2 ^ -1074`. Both zeros exist and differ. -/
inductive Binary64 where
  | nan
  | infinity (negative : Bool)
  | finite (negative : Bool) (significand shift : Nat)
      (canonical : Binary64.Canonical significand shift)
deriving DecidableEq

namespace Binary64

/-! ## Rounding -/

/-- The natural number nearest to `numerator / denominator`, a half going to the
even neighbour. -/
def roundHalfEven (numerator denominator : Nat) : Nat :=
  let quotient := numerator / denominator
  let twiceRest := 2 * (numerator % denominator)
  if denominator < twiceRest ∨ (twiceRest = denominator ∧ quotient % 2 = 1) then
    quotient + 1
  else
    quotient

def one : Nat := Nat.pow 2 1074

/-- The double nearest to `± numerator / denominator` units, ties to even.
A magnitude whose rounded form is not canonical lies beyond the largest finite
number and gives an infinity. -/
def ofUnits (negative : Bool) (numerator denominator : Nat) : Binary64 :=
  let shift := (numerator / denominator).log2 - 52
  let rounded := roundHalfEven numerator (denominator * Nat.pow 2 shift)
  if canonical : Canonical rounded shift then
    .finite negative rounded shift canonical
  else if carried : Canonical (rounded / 2) (shift + 1) then
    .finite negative (rounded / 2) (shift + 1) carried
  else
    .infinity negative

def ofSignedUnits (units : Int) : Binary64 :=
  ofUnits (units < 0) units.natAbs 1

def ofRatio (negative : Bool) (numerator denominator : Nat) : Binary64 :=
  ofUnits negative (numerator * one) denominator

def ofInt (value : Int) : Binary64 :=
  ofRatio (value < 0) value.natAbs 1

def zero (negative : Bool) : Binary64 :=
  .finite negative 0 0 (by decide)

/-! ## Views -/

/-- The absolute value of a finite number in units; zero for the others. -/
def magnitude : Binary64 → Nat
  | .finite _ significand shift _ => significand * Nat.pow 2 shift
  | _ => 0

def isNegative : Binary64 → Bool
  | .nan => false
  | .infinity negative => negative
  | .finite negative _ _ _ => negative

def isFinite : Binary64 → Bool
  | .finite .. => true
  | _ => false

def isWhole (number : Binary64) : Bool :=
  number.isFinite && number.magnitude % one == 0

def wholePart (number : Binary64) : Nat :=
  number.magnitude / one

/-- The place on the number line in units. The infinities lie beyond every
finite number, both zeros at `0`, and `nan` has no place. -/
def position : Binary64 → Option Int
  | .nan => none
  | .infinity negative => some (if negative then -Int.pow 2 2098 else Int.pow 2 2098)
  | .finite negative significand shift _ =>
      some (if negative then -((significand * Nat.pow 2 shift : Nat) : Int)
        else ((significand * Nat.pow 2 shift : Nat) : Int))

/-! ## Comparison -/

/-- Numeric order; false as soon as one side is `nan`. -/
def less (left right : Binary64) : Bool :=
  match left.position, right.position with
  | some here, some there => here < there
  | _, _ => false

/-- Numeric order or equality; false as soon as one side is `nan`. -/
def atMost (left right : Binary64) : Bool :=
  match left.position, right.position with
  | some here, some there => here ≤ there
  | _, _ => false

/-- Numeric equality: the zeros agree and `nan` differs from itself. -/
def sameNumber (left right : Binary64) : Bool :=
  match left.position, right.position with
  | some here, some there => here == there
  | _, _ => false

def sameOptional : Option Binary64 → Option Binary64 → Bool
  | none, none => true
  | some left, some right => left.sameNumber right
  | _, _ => false

/-! ## Arithmetic -/

def addOne : Binary64 → Binary64
  | .finite negative significand shift _ =>
      let units : Int := (significand * Nat.pow 2 shift : Nat)
      ofSignedUnits ((if negative then -units else units) + one)
  | other => other

def timesNat (factor : Nat) : Binary64 → Binary64
  | .finite negative significand shift _ =>
      ofUnits negative (factor * (significand * Nat.pow 2 shift)) 1
  | other => other

/-- The rounded product of the magnitudes of two finite numbers, with a given
sign. -/
def product (negative : Bool) (left right : Binary64) : Binary64 :=
  ofUnits negative (left.magnitude * right.magnitude) one

/-- The rounded quotient of the magnitudes of two finite numbers, with a given
sign; the divisor is not zero. -/
def quotient (negative : Bool) (left right : Binary64) : Binary64 :=
  ofUnits negative (left.magnitude * one) right.magnitude

/-- The nearest number that single precision can hold: twenty-four significant
bits, no finer than `2 ^ -149`, and below `2 ^ 128`. -/
def toSingle : Binary64 → Binary64
  | .finite negative significand shift _ =>
      let units := significand * Nat.pow 2 shift
      let step := max 925 (units.log2 - 23)
      let rounded := roundHalfEven units (Nat.pow 2 step) * Nat.pow 2 step
      if rounded < Nat.pow 2 1202 then ofUnits negative rounded 1 else .infinity negative
  | other => other

end Binary64

end SchemaKeeper
