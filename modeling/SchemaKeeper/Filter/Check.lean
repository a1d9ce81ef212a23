import SchemaKeeper.Table.Basic

/-!
Contract: which filters a table accepts.

Every group has a member, and every predicate names a field of the table with an
operand that fits its operator. The first fault in reading order is reported; an
empty group counts at its own place.
-/

namespace SchemaKeeper.Filter

def checkOperands (table : Table) (field : String) : List Value → Except Error Unit
  | [] => .ok ()
  | value :: rest => do
      (table.checkValue field value).mapError Error.validation
      checkOperands table field rest

def checkPredicate (table : Table) (field : String) (operator : Operator) (operand : Value) :
    Except Error Unit :=
  if !table.hasField field then
    .error (.filter (.unknownField field table.name))
  else
    match operator, operand with
    | .oneOf, .list (item :: items) => checkOperands table field (item :: items)
    | .oneOf, _ => .error (.filter (.noListToChooseFrom field))
    | .between, .list [low, high] => checkOperands table field [low, high]
    | .between, _ => .error (.filter (.notTwoBounds field))
    | operator, .list _ => .error (.filter (.listOperand operator field))
    | _, scalar => checkOperands table field [scalar]

mutual

/-- Checks a filter against a table. -/
def check (table : Table) : Filter → Except Error Unit
  | .predicate field operator operand => checkPredicate table field operator operand
  | .group combinator [] => .error (.filter (.emptyGroup combinator))
  | .group _ (member :: members) => checkMembers table (member :: members)

def checkMembers (table : Table) : List Filter → Except Error Unit
  | [] => .ok ()
  | member :: rest => do
      check table member
      checkMembers table rest

end

end SchemaKeeper.Filter
