import SchemaKeeper.Binary64.Text
import SchemaKeeper.Text.Quoted

/-!
Contract: the values that records, filters and defaults hold.

A value carries its own type; whether a field accepts it is decided elsewhere.

Owns: the value type, its numeric view and its texts in messages and defaults.
-/

namespace SchemaKeeper

/-- A cell value. Lists only make sense as operands of a predicate. -/
inductive Value where
  | null
  | bool (value : Bool)
  | int (value : Int64)
  | float (value : Binary64)
  | text (value : String)
  | list (items : List Value)

namespace Value

/-! ## Equality -/

mutual

def decideEq : (left right : Value) → Decidable (left = right)
  | .null, .null => .isTrue rfl
  | .bool left, .bool right => decidable_of_iff (left = right) (by simp)
  | .int left, .int right => decidable_of_iff (left = right) (by simp)
  | .float left, .float right => decidable_of_iff (left = right) (by simp)
  | .text left, .text right => decidable_of_iff (left = right) (by simp)
  | .list left, .list right =>
      have := decideEqItems left right
      decidable_of_iff (left = right) (by simp)
  | .null, .bool _ | .null, .int _ | .null, .float _ | .null, .text _ | .null, .list _
  | .bool _, .null | .bool _, .int _ | .bool _, .float _ | .bool _, .text _ | .bool _, .list _
  | .int _, .null | .int _, .bool _ | .int _, .float _ | .int _, .text _ | .int _, .list _
  | .float _, .null | .float _, .bool _ | .float _, .int _ | .float _, .text _
  | .float _, .list _
  | .text _, .null | .text _, .bool _ | .text _, .int _ | .text _, .float _ | .text _, .list _
  | .list _, .null | .list _, .bool _ | .list _, .int _ | .list _, .float _
  | .list _, .text _ => .isFalse (by simp)

def decideEqItems : (left right : List Value) → Decidable (left = right)
  | [], [] => .isTrue rfl
  | [], _ :: _ => .isFalse (by simp)
  | _ :: _, [] => .isFalse (by simp)
  | left :: leftRest, right :: rightRest =>
      have := decideEq left right
      have := decideEqItems leftRest rightRest
      decidable_of_iff (left = right ∧ leftRest = rightRest) (by simp)

end

instance : DecidableEq Value := decideEq

/-! ## Views -/

def isNull : Value → Bool
  | .null => true
  | _ => false

def isList : Value → Bool
  | .list _ => true
  | _ => false

/-- The number that a numeric value compares as. Integers are rounded to the
nearest double. -/
def number? : Value → Option Binary64
  | .int value => some (.ofInt value.toInt)
  | .float value => some value
  | _ => none

/-- Whether the value is a number without a fractional part. -/
def isWholeNumber : Value → Bool
  | .int _ => true
  | .float value => value.isWhole
  | _ => false

/-! ## Texts -/

def typeName : Value → String
  | .null => "null"
  | .bool _ => "boolean"
  | .int _ => "integer"
  | .float _ => "float"
  | .text _ => "string"
  | .list _ => "list"

def intText (value : Int64) : String :=
  let digits := Decimal.digitChars value.toInt.natAbs
  String.ofList (if value.toInt < 0 then '-' :: digits else digits)

/-- The unquoted text of a scalar, as a server reports column defaults. Null and
lists have none. -/
def plainText? : Value → Option String
  | .null => none
  | .bool value => some (if value then "1" else "0")
  | .int value => some (intText value)
  | .float value => some value.toText
  | .text value => some value
  | .list _ => none

mutual

/-- The value as messages show it. -/
def describe : Value → String
  | .null => "NULL"
  | .bool value => if value then "true" else "false"
  | .int value => intText value
  | .float value => value.toText
  | .text value => Text.quoted value
  | .list items => "[" ++ describeItems items ++ "]"

def describeItems : List Value → String
  | [] => ""
  | [item] => describe item
  | item :: next :: rest => describe item ++ ", " ++ describeItems (next :: rest)

end

/-! ## Construction -/

def ofOption {α : Type} (convert : α → Value) : Option α → Value
  | some value => convert value
  | none => .null

def ofList {α : Type} (convert : α → Value) (values : List α) : Value :=
  .list (values.map convert)

end Value

end SchemaKeeper
