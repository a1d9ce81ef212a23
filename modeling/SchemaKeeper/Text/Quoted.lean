import SchemaKeeper.Text.Hex
import SchemaKeeper.Text.Unprintable

/-!
Contract: texts inside messages.

A quoted text stands between double quotes. Quotes, backslashes and the common
control characters have two-character escapes; every other character without a
printed shape is written as its code point in braces. A single quote stands for
itself.
-/

namespace SchemaKeeper.Text

def quoteChar (character : Char) : List Char :=
  if character = '"' then ['\\', '"']
  else if character = '\\' then ['\\', '\\']
  else if character = '\n' then ['\\', 'n']
  else if character = '\r' then ['\\', 'r']
  else if character = '\t' then ['\\', 't']
  else if character = '\x00' then ['\\', '0']
  else if isUnprintable character then
    '\\' :: 'u' :: '\x7b' :: (hexChars character.toNat ++ ['\x7d'])
  else [character]

/-- A text between double quotes with its special characters escaped. -/
def quoted (text : String) : String :=
  String.ofList ('"' :: (text.toList.flatMap quoteChar ++ ['"']))

end SchemaKeeper.Text
