/-!
Contract: white space around names and keywords.

Blank characters are those with the Unicode property `White_Space`, which is more
than ASCII blanks and does not include zero-width characters.
-/

namespace SchemaKeeper.Text

def isBlank (character : Char) : Bool :=
  let code := character.toNat
  (0x09 ≤ code && code ≤ 0x0d) || code == 0x20 || code == 0x85 || code == 0xa0 ||
    code == 0x1680 || (0x2000 ≤ code && code ≤ 0x200a) || code == 0x2028 || code == 0x2029 ||
    code == 0x202f || code == 0x205f || code == 0x3000

def trimEnd (text : List Char) : List Char :=
  (text.reverse.dropWhile isBlank).reverse

def trimChars (text : List Char) : List Char :=
  trimEnd (text.dropWhile isBlank)

/-- Removes white space at both ends. -/
def trim (text : String) : String :=
  String.ofList (trimChars text.toList)

end SchemaKeeper.Text
