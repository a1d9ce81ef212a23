import SchemaKeeper.Binary64.Text

/-!
Contract: how wide a column has to be for a largest value.

`byteCount` is the number of whole bytes in the binary logarithm of a range, where
the logarithm is first rounded to the nearest double. `digitCount` is the least
number of decimal digits for a value, counted in doubles.

Owns: both counts, and the text of the first one.
-/

namespace SchemaKeeper.Column

/-! ## Bytes -/

/-- The number of bytes that a range needs. Ranges without a logarithm have no
count, a zero range has one below all numbers and an infinite one above all. -/
inductive ByteCount where
  | undefined
  | belowAll
  | aboveAll
  | count (bytes : Int)
deriving DecidableEq

def ByteCount.text : ByteCount → String
  | .undefined => "NaN"
  | .belowAll => "-inf"
  | .aboveAll => "inf"
  | .count bytes =>
      let digits := Decimal.digitChars bytes.natAbs
      String.ofList (if bytes < 0 then '-' :: digits else digits)

/-- How far above `2 ^ power` a number may lie, in units of `2 ^ (power - 52)`, so
that its binary logarithm still rounds to `power`: half the distance from `power`
to the next double, times the natural logarithm of two. The distance is halved
where `power` is minus a power of two. -/
def logarithmSlack (power : Int) : Nat :=
  if power = 0 then
    0
  else
    let exponent := power.natAbs.log2
    let halved := power < 0 ∧ power.natAbs = Nat.pow 2 exponent
    693147180559945 * Nat.pow 2 exponent / (Nat.pow 10 15 * if halved then 4 else 2)

/-- The least number of bytes `n` with `log2 range ≤ 8 * n` after rounding the
logarithm. Only a range just above `2 ^ (8 * n)` is affected by the rounding. -/
def byteCount : Binary64 → ByteCount
  | .nan => .undefined
  | .infinity true => .undefined
  | .infinity false => .aboveAll
  | range@(.finite negative ..) =>
      if range.magnitude = 0 then
        .belowAll
      else if negative then
        .undefined
      else
        let floorLog := range.magnitude.log2
        let power : Int := (floorLog : Int) - 1074
        let roundsDown :=
          range.magnitude * Nat.pow 2 52 ≤
            Nat.pow 2 floorLog * (Nat.pow 2 52 + logarithmSlack power)
        if power % 8 = 0 ∧ roundsDown then .count (power / 8) else .count (power / 8 + 1)

/-! ## Digits -/

/-- Counts the multiplications by ten that lead from `bound` to `target`; stops at
an infinite bound. -/
def digitCountFrom (target : Binary64) : Nat → Binary64 → Nat
  | 0, _ => 0
  | steps + 1, bound =>
      if bound.less target && bound.isFinite then
        digitCountFrom target steps (bound.timesNat 10) + 1
      else
        0

/-- The least number of digits `d` with `value + 1 ≤ 10 ^ d`, where the sum and the
powers are doubles. The powers become infinite before the steps run out. -/
def digitCount (value : Binary64) : Nat :=
  digitCountFrom value.addOne 400 (.ofInt 1)

end SchemaKeeper.Column
