import SchemaKeeper.Filter.Basic
import SchemaKeeper.Sql.Reading

/-!
Contract: what a condition says, and how it is read from its text.

The form of a filter is what is left of it in a statement: literals in place of
values, tests for null in place of equality with null, and no combinator on a group
of one. The reader knows the grammar of conditions only; it takes the text apart from
left to right and keeps the groups that are still open.

Owns: literals, forms, the form of a filter, and the reader.

Does not own: how filters are written (`Filter.Rendering`).
-/

namespace SchemaKeeper

/-! ## Literals -/

inductive Literal where
  | null
  | bool (value : Bool)
  | number (text : String)
  | string (content : String)
deriving DecidableEq

def Literal.ofToken? : Sql.Token → Option Literal
  | .word "NULL" => some .null
  | .word "TRUE" => some (.bool true)
  | .word "FALSE" => some (.bool false)
  | .number text => some (.number text)
  | .string content => some (.string content)
  | _ => none

namespace Value

mutual

/-- The literals that a value is reduced to; a list has those of its items. -/
def literals : Value → List Literal
  | .null => [.null]
  | .bool value => [.bool value]
  | .int value => [.number (intText value)]
  | .float value => if value.isFinite then [.number value.toText] else [.null]
  | .text value => [.string value]
  | .list items => itemsLiterals items

def itemsLiterals : List Value → List Literal
  | [] => []
  | item :: rest => literals item ++ itemsLiterals rest

end

end Value

/-! ## Forms -/

/-- What a condition says. A group of one has no combinator. -/
inductive Form where
  | isNull (field : String)
  | isNotNull (field : String)
  | predicate (field : String) (operator : Operator) (operands : List Literal)
  | group (combinator : Option Combinator) (members : List Form)

namespace Filter

mutual

def form : Filter → Form
  | .predicate field .equal .null => .isNull field
  | .predicate field .notEqual .null => .isNotNull field
  | .predicate field operator operand => .predicate field operator operand.literals
  | .group combinator members =>
      .group (if members.length = 1 then none else some combinator) (forms members)

def forms : List Filter → List Form
  | [] => []
  | member :: rest => form member :: forms rest

end

end Filter

/-! ## Predicates -/

namespace Form

def comparisonOf? (mark : String) : Option Operator :=
  [Operator.equal, .notEqual, .greater, .less, .atLeast, .atMost].find? fun operator =>
    operator.sql == mark

def combinatorOf? (keyword : String) : Option Combinator :=
  [Combinator.and, .or].find? fun combinator => combinator.sql == keyword

/-- Reads literals with commas between them up to the closing parenthesis. -/
def readLiterals : List Sql.Token → Option (List Literal × List Sql.Token)
  | token :: .symbol "," :: rest => do
      let literal ← Literal.ofToken? token
      let (literals, after) ← readLiterals rest
      return (literal :: literals, after)
  | token :: .symbol ")" :: rest => do
      let literal ← Literal.ofToken? token
      return ([literal], rest)
  | _ => none

/-- Reads what is said of a field, behind its name. The two bounds of BETWEEN belong
to it with the AND that joins them. -/
def readPredicate (field : String) : List Sql.Token → Option (Form × List Sql.Token)
  | .word "IS" :: .word "NULL" :: rest => some (.isNull field, rest)
  | .word "IS" :: .word "NOT" :: .word "NULL" :: rest => some (.isNotNull field, rest)
  | .word "IN" :: .symbol "(" :: rest => do
      let (literals, after) ← readLiterals rest
      return (.predicate field .oneOf literals, after)
  | .word "BETWEEN" :: low :: .word "AND" :: high :: rest => do
      let least ← Literal.ofToken? low
      let greatest ← Literal.ofToken? high
      return (.predicate field .between [least, greatest], rest)
  | .word "LIKE" :: operand :: rest => do
      let pattern ← Literal.ofToken? operand
      return (.predicate field .like [pattern], rest)
  | .symbol mark :: operand :: rest => do
      let operator ← comparisonOf? mark
      let literal ← Literal.ofToken? operand
      return (.predicate field operator [literal], rest)
  | _ => none

theorem length_readLiterals_lt {tokens after : List Sql.Token} {literals : List Literal}
    (read : readLiterals tokens = some (literals, after)) : after.length < tokens.length := by
  fun_induction readLiterals tokens generalizing literals after with
  | case1 token rest inductionHypothesis =>
      simp only [bind, Option.bind_eq_some_iff, pure] at read
      obtain ⟨literal, _, ⟨others, behind⟩, othersRead, same⟩ := read
      cases same
      have := inductionHypothesis othersRead
      simp only [List.length_cons]
      omega
  | case2 token rest =>
      simp only [bind, Option.bind_eq_some_iff, pure] at read
      obtain ⟨literal, _, same⟩ := read
      cases same
      simp only [List.length_cons]
      omega
  | case3 => contradiction

/-- Reading a predicate takes at least one token. -/
theorem length_readPredicate_lt {field : String} {tokens after : List Sql.Token} {form : Form}
    (read : readPredicate field tokens = some (form, after)) : after.length < tokens.length := by
  unfold readPredicate at read
  split at read
  · cases read
    simp only [List.length_cons]
    omega
  · cases read
    simp only [List.length_cons]
    omega
  · simp only [bind, Option.bind_eq_some_iff, pure] at read
    obtain ⟨⟨literals, behind⟩, literalsRead, same⟩ := read
    cases same
    have := length_readLiterals_lt literalsRead
    simp only [List.length_cons]
    omega
  · simp only [bind, Option.bind_eq_some_iff, pure] at read
    obtain ⟨_, _, _, _, same⟩ := read
    cases same
    simp only [List.length_cons]
    omega
  · simp only [bind, Option.bind_eq_some_iff, pure] at read
    obtain ⟨_, _, same⟩ := read
    cases same
    simp only [List.length_cons]
    omega
  · simp only [bind, Option.bind_eq_some_iff, pure] at read
    obtain ⟨_, _, _, _, same⟩ := read
    cases same
    simp only [List.length_cons]
    omega
  · contradiction

/-! ## Groups -/

/-- A group whose closing parenthesis has not been read. -/
structure OpenGroup where
  combinator : Option Combinator
  members : List Form

/-- The group with a further member behind a combinator; all combinators of a group
are the same. -/
def OpenGroup.extend? (group : OpenGroup) (member : Form) (combinator : Combinator) :
    Option OpenGroup :=
  if group.combinator.all (· = combinator) then
    some ⟨some combinator, group.members ++ [member]⟩
  else
    none

mutual

/-- Reads a condition inside the open groups, the innermost first, and whatever
follows it. -/
def readInside (opened : List OpenGroup) (tokens : List Sql.Token) : Option Form :=
  match tokens with
  | .symbol "(" :: rest => readInside (⟨none, []⟩ :: opened) rest
  | .identifier field :: rest =>
      match read : readPredicate field rest with
      | none => none
      | some (form, after) =>
          have := length_readPredicate_lt read
          readBehind opened form after
  | _ => none
termination_by tokens.length

/-- Reads what follows a condition inside the open groups: the end of the text, of the
innermost group, or a further member of it. -/
def readBehind (opened : List OpenGroup) (form : Form) (tokens : List Sql.Token) :
    Option Form :=
  match opened, tokens with
  | [], [] => some form
  | innermost :: outer, .symbol ")" :: rest =>
      readBehind outer (.group innermost.combinator (innermost.members ++ [form])) rest
  | innermost :: outer, .word keyword :: rest => do
      let combinator ← combinatorOf? keyword
      let extended ← innermost.extend? form combinator
      readInside (extended :: outer) rest
  | _, _ => none
termination_by tokens.length

end

/-- Reads a whole text as one condition. -/
def ofText? (text : String) : Option Form := do
  let tokens ← Sql.readTokens text.toList
  readInside [] tokens

end Form

end SchemaKeeper
