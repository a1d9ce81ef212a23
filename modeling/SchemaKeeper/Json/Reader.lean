import SchemaKeeper.Json.Basic
import SchemaKeeper.Text.Hex

/-!
Contract: reading JSON text.

The notation is strict: blanks only between tokens, no trailing commas, no
leading zeros, no control characters in strings, and nothing after the document.
Number literals are not evaluated and nesting is not limited here, because only
parts of a document that are used have to obey those limits.

`read?` gives every reader as many steps as the text can need: each step of the
recursion but at most one per token passes a character.
-/

namespace SchemaKeeper.Json

/-! ## Literals -/

def isBlank (character : Char) : Bool :=
  character = ' ' || character = '\n' || character = '\t' || character = '\r'

def skipBlanks (text : List Char) : List Char :=
  text.dropWhile isBlank

/-- A piece of a string literal: a character, or the code unit of a `u` escape. -/
inductive TextUnit where
  | char (character : Char)
  | code (unit : Nat)
deriving DecidableEq

/-- The number written by four hexadecimal digits. -/
def fourHexDigits? (first second third fourth : Char) : Option Nat := do
  let a ← Text.hexDigit? first
  let b ← Text.hexDigit? second
  let c ← Text.hexDigit? third
  let d ← Text.hexDigit? fourth
  return ((a * 16 + b) * 16 + c) * 16 + d

def shortEscape? (character : Char) : Option Char :=
  match character with
  | '"' => some '"'
  | '\\' => some '\\'
  | '/' => some '/'
  | 'b' => some '\x08'
  | 'f' => some '\x0c'
  | 'n' => some '\n'
  | 'r' => some '\r'
  | 't' => some '\t'
  | _ => none

/-- The pieces of a string literal behind its opening quote, and the text behind
its closing quote. -/
def readUnits : List Char → Option (List TextUnit × List Char)
  | [] => none
  | '"' :: rest => some ([], rest)
  | '\\' :: 'u' :: a :: b :: c :: d :: rest => do
      let unit ← fourHexDigits? a b c d
      let (units, after) ← readUnits rest
      return (.code unit :: units, after)
  | '\\' :: escaped :: rest => do
      let character ← shortEscape? escaped
      let (units, after) ← readUnits rest
      return (.char character :: units, after)
  | character :: rest =>
      if character.toNat < 0x20 ∨ character = '\\' then
        none
      else do
        let (units, after) ← readUnits rest
        return (.char character :: units, after)

/-- The characters that pieces stand for: escapes of a high and a low surrogate
next to each other are one character, any other surrogate is none. -/
def joinUnits : List TextUnit → Option (List Char)
  | [] => some []
  | .char character :: rest => (joinUnits rest).map (character :: ·)
  | .code high :: .code low :: rest =>
      if 0xd800 ≤ high ∧ high < 0xdc00 then
        if 0xdc00 ≤ low ∧ low < 0xe000 then
          (joinUnits rest).map
            (Char.ofNat (0x10000 + (high - 0xd800) * 0x400 + (low - 0xdc00)) :: ·)
        else
          none
      else if 0xdc00 ≤ high ∧ high < 0xe000 then
        none
      else
        (joinUnits (.code low :: rest)).map (Char.ofNat high :: ·)
  | .code unit :: rest =>
      if 0xd800 ≤ unit ∧ unit < 0xe000 then none
      else (joinUnits rest).map (Char.ofNat unit :: ·)

def readText (text : List Char) : Option (Json.Text × List Char) :=
  (readUnits text).map fun (units, rest) => ((joinUnits units).map String.ofList, rest)

def readDigits (text : List Char) : Option (List Char × List Char) :=
  let digits := text.takeWhile Char.isDigit
  if digits.isEmpty then none else some (digits, text.dropWhile Char.isDigit)

def readFraction : List Char → Option (Option (List Char) × List Char)
  | '.' :: rest => (readDigits rest).map fun (digits, after) => (some digits, after)
  | text => some (none, text)

def readExponent : List Char → Option (Option (Bool × List Char) × List Char)
  | [] => some (none, [])
  | mark :: rest =>
      if mark = 'e' ∨ mark = 'E' then
        match rest with
        | '-' :: power => (readDigits power).map fun (digits, after) => (some (true, digits), after)
        | '+' :: power =>
            (readDigits power).map fun (digits, after) => (some (false, digits), after)
        | power => (readDigits power).map fun (digits, after) => (some (false, digits), after)
      else
        some (none, mark :: rest)

def readMagnitude (negative : Bool) (text : List Char) : Option (Number × List Char) := do
  let (whole, afterWhole) ← readDigits text
  if whole.head? = some '0' ∧ whole.length ≠ 1 then
    none
  else
    let (fraction, afterFraction) ← readFraction afterWhole
    let (exponent, rest) ← readExponent afterFraction
    return (⟨negative, whole, fraction, exponent⟩, rest)

def readNumber : List Char → Option (Number × List Char)
  | '-' :: rest => readMagnitude true rest
  | text => readMagnitude false text

/-! ## Documents -/

mutual

/-- A value after blanks, and the text behind it. -/
def readValue : Nat → List Char → Option (Json × List Char)
  | 0, _ => none
  | steps + 1, text =>
      match skipBlanks text with
      | 'n' :: 'u' :: 'l' :: 'l' :: rest => some (.null, rest)
      | 't' :: 'r' :: 'u' :: 'e' :: rest => some (.bool true, rest)
      | 'f' :: 'a' :: 'l' :: 's' :: 'e' :: rest => some (.bool false, rest)
      | '"' :: rest => (readText rest).map fun (content, after) => (.quoted content, after)
      | '[' :: rest =>
          match skipBlanks rest with
          | ']' :: after => some (.list [], after)
          | _ => (readItems steps rest).map fun (items, after) => (.list items, after)
      | '\x7b' :: rest =>
          match skipBlanks rest with
          | '\x7d' :: after => some (.object [], after)
          | _ => (readMembers steps rest).map fun (members, after) => (.object members, after)
      | other => (readNumber other).map fun (literal, after) => (.number literal, after)

def readItems : Nat → List Char → Option (List Json × List Char)
  | 0, _ => none
  | steps + 1, text => do
      let (item, afterItem) ← readValue steps text
      match skipBlanks afterItem with
      | ',' :: rest =>
          let (items, after) ← readItems steps rest
          return (item :: items, after)
      | ']' :: after => return ([item], after)
      | _ => none

def readMembers : Nat → List Char → Option (List (Json.Text × Json) × List Char)
  | 0, _ => none
  | steps + 1, text =>
      match skipBlanks text with
      | '"' :: afterQuote => do
          let (name, afterName) ← readText afterQuote
          match skipBlanks afterName with
          | ':' :: afterColon =>
              let (value, afterValue) ← readValue steps afterColon
              match skipBlanks afterValue with
              | ',' :: rest =>
                  let (members, after) ← readMembers steps rest
                  return ((name, value) :: members, after)
              | '\x7d' :: after => return ([(name, value)], after)
              | _ => none
          | _ => none
      | _ => none

end

/-- The document that a text holds; `none` when it is not JSON. -/
def read? (text : String) : Option Json := do
  let characters := text.toList
  let (document, rest) ← readValue (2 * characters.length + 2) characters
  if (skipBlanks rest).isEmpty then some document else none

end SchemaKeeper.Json
