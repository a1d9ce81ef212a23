/-!
Contract: case folding of keywords and reported types.

Only ASCII letters have case here; every other character stands for itself.
-/

namespace SchemaKeeper.Text

def lower (text : String) : String :=
  String.ofList (text.toList.map Char.toLower)

def upper (text : String) : String :=
  String.ofList (text.toList.map Char.toUpper)

/-- Equality up to the case of ASCII letters. -/
def sameIgnoringCase (left right : String) : Bool :=
  left.toList.map Char.toLower == right.toList.map Char.toLower

end SchemaKeeper.Text
