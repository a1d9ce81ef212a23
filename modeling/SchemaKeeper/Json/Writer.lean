import SchemaKeeper.Json.Basic
import SchemaKeeper.Text.Quoted

/-!
Contract: compact JSON text.

No blanks are written. Strings escape quotes, backslashes and control characters,
with two-character escapes where JSON has them.
-/

namespace SchemaKeeper.Json

/-! ## Literals -/

def signChars (negative : Bool) : List Char :=
  if negative then ['-'] else []

/-- A sign in front of an exponent, which always carries one. -/
def exponentSign (negative : Bool) : Char :=
  if negative then '-' else '+'

def Number.write (literal : Number) : List Char :=
  let fraction := match literal.fraction with
    | none => []
    | some digits => '.' :: digits
  let exponent := match literal.exponent with
    | none => []
    | some (negative, digits) => 'e' :: exponentSign negative :: digits
  signChars literal.negative ++ literal.whole ++ fraction ++ exponent

def fourHexChars (code : Nat) : List Char :=
  let digits := Text.hexChars code
  List.replicate (4 - digits.length) '0' ++ digits

def writeChar (character : Char) : List Char :=
  if character = '"' then ['\\', '"']
  else if character = '\\' then ['\\', '\\']
  else if character = '\x08' then ['\\', 'b']
  else if character = '\x0c' then ['\\', 'f']
  else if character = '\n' then ['\\', 'n']
  else if character = '\r' then ['\\', 'r']
  else if character = '\t' then ['\\', 't']
  else if character.toNat < 0x20 then '\\' :: 'u' :: fourHexChars character.toNat
  else [character]

/-- A string literal. A text without content is written as a lone surrogate. -/
def writeText : Json.Text → List Char
  | some content => '"' :: (content.toList.flatMap writeChar ++ ['"'])
  | none => '"' :: '\\' :: 'u' :: (fourHexChars 0xd800 ++ ['"'])

/-! ## Documents -/

mutual

def write : Json → List Char
  | .null => ['n', 'u', 'l', 'l']
  | .bool true => ['t', 'r', 'u', 'e']
  | .bool false => ['f', 'a', 'l', 's', 'e']
  | .number literal => literal.write
  | .quoted content => writeText content
  | .list items => '[' :: (writeItems items ++ [']'])
  | .object members => '\x7b' :: (writeMembers members ++ ['\x7d'])

def writeItems : List Json → List Char
  | [] => []
  | [item] => write item
  | item :: next :: rest => write item ++ ',' :: writeItems (next :: rest)

def writeMembers : List (Json.Text × Json) → List Char
  | [] => []
  | [(name, value)] => writeText name ++ ':' :: write value
  | (name, value) :: next :: rest =>
      writeText name ++ ':' :: (write value ++ ',' :: writeMembers (next :: rest))

end

/-- The compact text of a document. -/
def toText (document : Json) : String :=
  String.ofList document.write

end SchemaKeeper.Json
