import SchemaKeeper.Error
import SchemaKeeper.Text.Blank
import SchemaKeeper.Text.Case

/-!
Contract: the words that stand for operators and combinators.

Operators are read in any case and with blanks around them; combinators exactly.
-/

namespace SchemaKeeper

def Operator.ofText (text : String) : Except FilterError Operator :=
  match all.find? fun operator => operator.sql == Text.upper (Text.trim text) with
  | some operator => .ok operator
  | none => .error (.unsupportedOperator text)

def Combinator.ofText (text : String) : Except FilterError Combinator :=
  if text = "AND" then .ok .and
  else if text = "OR" then .ok .or
  else .error (.invalidCombinator text)

end SchemaKeeper
