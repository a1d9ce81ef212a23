import SchemaKeeper.Decimal

/-!
Contract: the decimal that stands for a double.

`shortest` gives the decimal with the fewest digits that reads back as the same
double, and of those the nearest one. It walks the grids of multiples of `10 ^ g`
from coarse to fine; the first grid with a neighbour of the number that reads
back wins. The neighbours of the number are the only candidates of a grid,
because the decimals that read back form an interval around it.

Owns: the search and the choice between two equally near candidates.
-/

namespace SchemaKeeper.Binary64

/-- Which of two equally near candidates stands for the number. -/
inductive Tie where
  | upward
  | toEven
deriving DecidableEq

/-- The exact value of a finite number: a unit is `5 ^ 1074 * 10 ^ -1074`. -/
def exactDecimal (number : Binary64) : Decimal :=
  ⟨number.magnitude * Nat.pow 5 1074, -1074⟩

/-- Whether a decimal is read as the magnitude of this number. -/
def readsAs (number : Binary64) (candidate : Decimal) : Bool :=
  (candidate.toBinary64 false).position == some (number.magnitude : Int)

/-- The neighbour of the number on the grid of multiples of `10 ^ grid` that reads
back, the nearer one if both do. -/
def gridNeighbour (tie : Tie) (number : Binary64) (grid : Int) : Option Decimal :=
  let numerator := number.magnitude * Nat.pow 10 (-grid).toNat
  let denominator := one * Nat.pow 10 grid.toNat
  let below : Decimal := ⟨numerator / denominator, grid⟩
  let above : Decimal := ⟨numerator / denominator + 1, grid⟩
  let twiceRest := 2 * (numerator % denominator)
  let preferAbove : Bool := match tie with
    | .upward => denominator ≤ twiceRest
    | .toEven => denominator < twiceRest || (twiceRest == denominator && below.digits % 2 == 1)
  match number.readsAs below, number.readsAs above with
  | true, true => if preferAbove then some above else some below
  | true, false => some below
  | false, true => some above
  | false, false => none

/-- The first hit on the grids `grid`, `grid - 1`, …; the exact value when none of
them has one. -/
def shortestFrom (tie : Tie) (number : Binary64) : Nat → Int → Decimal
  | 0, _ => number.exactDecimal
  | steps + 1, grid =>
      match gridNeighbour tie number grid with
      | some found => found
      | none => shortestFrom tie number steps (grid - 1)

/-- A power of ten above the magnitude, found from its binary logarithm. -/
def coarsestGrid (number : Binary64) : Int :=
  ((number.magnitude.log2 : Int) - 1073) * 30103 / 100000 + 1

/-- The decimal with the fewest digits that reads back as this number, nearest
first; zero for zero. -/
def shortest (tie : Tie) (number : Binary64) : Decimal :=
  if number.magnitude = 0 then ⟨0, 0⟩
  else shortestFrom tie number 20 number.coarsestGrid

end SchemaKeeper.Binary64
