import SchemaKeeper.Filter.Check
import SchemaKeeper.Sql.Literal

/-!
Contract: filters as conditions in statements.

`toSql?` writes a tree without looking at a table and has nothing to write for a
BETWEEN without two bounds. `render` writes the trees that a table accepts, and
`isSome_toSql?_of_check` is why it never meets such a BETWEEN.
-/

namespace SchemaKeeper.Filter

/-- One predicate. Comparisons of equality with null use IS. -/
def predicateSql? (field : String) (operator : Operator) (operand : Value) : Option Sql :=
  let column := Sql.identifier field
  match operator, operand with
  | .equal, .null => some (Sql.spaced [column, Sql.words ["IS", "NULL"]])
  | .notEqual, .null => some (Sql.spaced [column, Sql.words ["IS", "NOT", "NULL"]])
  | .oneOf, .list items =>
      some (Sql.spaced [column, Sql.word "IN", Sql.enclosed (Value.list items).literal])
  | .between, .list (low :: high :: _) =>
      some (Sql.spaced [column, Sql.word "BETWEEN", low.literal, Sql.word "AND", high.literal])
  | .between, .list _ => none
  | .oneOf, scalar => some (Sql.spaced [column, Sql.word "IN", scalar.literal])
  | .between, scalar => some (Sql.spaced [column, Sql.word "BETWEEN", scalar.literal])
  | .like, operand => some (Sql.spaced [column, Sql.word "LIKE", operand.literal])
  | comparison, operand =>
      some (Sql.spaced [column, Sql.symbol comparison.sql, operand.literal])

mutual

def toSql? : Filter → Option Sql
  | .predicate field operator operand => predicateSql? field operator operand
  | .group combinator members =>
      (membersToSql? members).map fun parts =>
        Sql.enclosed
          ([Sql.Piece.space, .token (.word combinator.sql), .space].intercalate parts)

def membersToSql? : List Filter → Option (List Sql)
  | [] => some []
  | member :: rest => do
      let part ← toSql? member
      let parts ← membersToSql? rest
      return part :: parts

end

private theorem isSome_predicateSql?_of_check {table : Table} {field : String}
    {operator : Operator} {operand : Value}
    (checked : checkPredicate table field operator operand = .ok ()) :
    (predicateSql? field operator operand).isSome := by
  unfold checkPredicate at checked
  unfold predicateSql?
  repeat' split at checked
  all_goals first
    | contradiction
    | (split <;> grind)

mutual

/-- A tree that a table accepts has a condition. -/
theorem isSome_toSql?_of_check {table : Table} :
    (filter : Filter) → check table filter = .ok () → (toSql? filter).isSome
  | .predicate _ _ _, checked => by
      rw [check] at checked
      rw [toSql?]
      exact isSome_predicateSql?_of_check checked
  | .group _ [], checked => by simp [check] at checked
  | .group _ (member :: members), checked => by
      rw [check] at checked
      rw [toSql?, Option.isSome_map]
      exact isSome_membersToSql?_of_check (member :: members) checked

/-- Members that a table accepts have conditions. -/
theorem isSome_membersToSql?_of_check {table : Table} :
    (members : List Filter) → checkMembers table members = .ok () →
      (membersToSql? members).isSome
  | [], _ => by simp [membersToSql?]
  | member :: rest, checked => by
      rw [checkMembers] at checked
      cases memberChecked : check table member with
      | error => simp [memberChecked, bind, Except.bind] at checked
      | ok =>
          simp only [memberChecked, bind, Except.bind] at checked
          obtain ⟨part, written⟩ :=
            Option.isSome_iff_exists.1 (isSome_toSql?_of_check member memberChecked)
          obtain ⟨parts, restWritten⟩ :=
            Option.isSome_iff_exists.1 (isSome_membersToSql?_of_check rest checked)
          simp [membersToSql?, written, restWritten]

end

/-- The condition of a filter that the table accepts. -/
def render (table : Table) (filter : Filter) : Except Error Sql :=
  match checked : check table filter with
  | .error refusal => .error refusal
  | .ok () => .ok ((toSql? filter).get (isSome_toSql?_of_check filter checked))

end SchemaKeeper.Filter
