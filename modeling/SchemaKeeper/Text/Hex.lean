/-!
Contract: numbers and bytes in hexadecimal notation.

Numbers are written in lower case without leading zeros. Digits are read in either
case, and bytes are pairs of them.
-/

namespace SchemaKeeper.Text

/-- The lower-case hexadecimal digits of a number. -/
def hexChars (number : Nat) : List Char :=
  Nat.toDigits 16 number

def hexDigit? (character : Char) : Option Nat :=
  let code := character.toNat
  if 0x30 ≤ code ∧ code ≤ 0x39 then some (code - 0x30)
  else if 0x41 ≤ code ∧ code ≤ 0x46 then some (code - 0x41 + 10)
  else if 0x61 ≤ code ∧ code ≤ 0x66 then some (code - 0x61 + 10)
  else none

/-- The bytes that pairs of digits stand for. -/
def bytesOfHex? : List Char → Option (List UInt8)
  | [] => some []
  | [_] => none
  | high :: low :: rest => do
      let byte := 16 * (← hexDigit? high) + (← hexDigit? low)
      return .ofNat byte :: (← bytesOfHex? rest)

end SchemaKeeper.Text
