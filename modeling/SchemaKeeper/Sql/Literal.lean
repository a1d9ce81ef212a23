import SchemaKeeper.Sql.Basic
import SchemaKeeper.Value

/-!
Contract: values as literals in statements.

Doubles that are not finite have no literal and are written as NULL. A list is
written as its items with commas between them.
-/

namespace SchemaKeeper.Value

mutual

/-- The literal of a value. -/
def literal : Value → Sql
  | .null => Sql.word "NULL"
  | .bool true => Sql.word "TRUE"
  | .bool false => Sql.word "FALSE"
  | .int value => [.token (.number (intText value))]
  | .float value => if value.isFinite then [.token (.number value.toText)] else Sql.word "NULL"
  | .text value => [.token (.string value)]
  | .list items => Sql.listed (itemLiterals items)

def itemLiterals : List Value → List Sql
  | [] => []
  | item :: rest => literal item :: itemLiterals rest

end

end SchemaKeeper.Value
