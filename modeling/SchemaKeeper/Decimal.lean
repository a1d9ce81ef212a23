import SchemaKeeper.Binary64.Basic

/-!
Contract: decimal numbers `digits * 10 ^ exponent` and their positional text.

Owns: the nearest double of a decimal and the notation without an exponent.

Does not own: which decimal stands for a double (`Binary64.Shortest`).
-/

namespace SchemaKeeper

/-- The non-negative number `digits * 10 ^ exponent`. -/
structure Decimal where
  digits : Nat
  exponent : Int
deriving DecidableEq

namespace Decimal

/-- The double nearest to `± digits * 10 ^ exponent`. Powers that can only give
an infinity or a zero are never computed: `10 ^ 310` is above every finite
double, and below `10 ^ -400` nothing is left of a number even after `log2 digits`
more places. -/
def toBinary64 (negative : Bool) (number : Decimal) : Binary64 :=
  if number.digits = 0 then
    .zero negative
  else if 310 ≤ number.exponent then
    .infinity negative
  else if number.exponent < -(400 + (number.digits.log2 : Int)) then
    .zero negative
  else
    .ofRatio negative (number.digits * Nat.pow 10 number.exponent.toNat)
      (Nat.pow 10 (-number.exponent).toNat)

/-- The decimal digits of a natural number, most significant first. -/
def digitChars (number : Nat) : List Char :=
  Nat.toDigits 10 number

/-- The natural number that digits stand for; `none` without a digit or with another
character. -/
def natural? (text : List Char) : Option Nat :=
  if text.isEmpty || !text.all Char.isDigit then none else some (Nat.ofDigitChars 10 text 0)

/-- Positional notation: all digits, with a point where the exponent puts it and
zeros to reach it. -/
def positional (number : Decimal) : List Char :=
  let written := digitChars number.digits
  if 0 ≤ number.exponent then
    written ++ List.replicate number.exponent.toNat '0'
  else
    let places := (-number.exponent).toNat
    if places < written.length then
      written.take (written.length - places) ++ '.' :: written.drop (written.length - places)
    else
      '0' :: '.' :: (List.replicate (places - written.length) '0' ++ written)

def fractionDigits (number : Decimal) : Nat :=
  (-number.exponent).toNat

end Decimal

end SchemaKeeper
