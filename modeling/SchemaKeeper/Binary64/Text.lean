import SchemaKeeper.Binary64.Shortest

/-!
Contract: doubles as plain text, in messages, statements and defaults.

Writing uses the shortest digits, never an exponent and no point for whole
numbers. Reading accepts signs, a missing part on one side of the point,
exponents and the names of the infinities and of `nan` in any case, and rounds
to nearest.

Owns: both directions of the plain notation.

Does not own: numbers in JSON text.
-/

namespace SchemaKeeper.Binary64

/-! ## Writing -/

def signChars (negative : Bool) : List Char :=
  if negative then ['-'] else []

/-- The shortest decimal of a number as plain text shows it: a tie goes upward. -/
def plainDecimal (number : Binary64) : Decimal :=
  number.shortest .upward

def textChars : Binary64 → List Char
  | .nan => ['N', 'a', 'N']
  | .infinity negative => signChars negative ++ ['i', 'n', 'f']
  | number@(.finite negative ..) => signChars negative ++ number.plainDecimal.positional

/-- The plain notation: `3`, `-0`, `0.0000001`, `NaN`, `inf`. -/
def toText (number : Binary64) : String :=
  String.ofList number.textChars

/-! ## Reading -/

/-- An unsigned decimal literal: digits around an optional point, at least one
digit in all, and an optional exponent. -/
def readUnsigned (text : List Char) : Option Decimal :=
  let whole := text.takeWhile Char.isDigit
  let afterWhole := text.dropWhile Char.isDigit
  let afterPoint := match afterWhole with
    | '.' :: rest => rest
    | _ => []
  let fraction := afterPoint.takeWhile Char.isDigit
  let afterFraction := match afterWhole with
    | '.' :: rest => rest.dropWhile Char.isDigit
    | other => other
  let digits := Nat.ofDigitChars 10 (whole ++ fraction) 0
  if whole.isEmpty && fraction.isEmpty then
    none
  else
    match afterFraction with
    | [] => some ⟨digits, -(fraction.length : Int)⟩
    | mark :: rest =>
        if mark == 'e' || mark == 'E' then
          let (negative, power) := match rest with
            | '-' :: power => (true, power)
            | '+' :: power => (false, power)
            | power => (false, power)
          if power.isEmpty || !power.all Char.isDigit then
            none
          else
            let scale : Int := Nat.ofDigitChars 10 power 0
            some ⟨digits, (if negative then -scale else scale) - fraction.length⟩
        else
          none

/-- A number without its sign: a name in any case, or a decimal literal. -/
def readMagnitude (negative : Bool) (text : List Char) : Option Binary64 :=
  let name := text.map Char.toLower
  if name = ['n', 'a', 'n'] then
    some .nan
  else if name = ['i', 'n', 'f'] || name = ['i', 'n', 'f', 'i', 'n', 'i', 't', 'y'] then
    some (.infinity negative)
  else
    (readUnsigned text).map (Decimal.toBinary64 negative)

/-- Reads the plain notation; `none` for any other text. -/
def ofChars? : List Char → Option Binary64
  | '-' :: rest => readMagnitude true rest
  | '+' :: rest => readMagnitude false rest
  | text => readMagnitude false text

def ofText? (text : String) : Option Binary64 :=
  ofChars? text.toList

end SchemaKeeper.Binary64
