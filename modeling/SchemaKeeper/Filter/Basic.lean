import SchemaKeeper.Record

/-!
Contract: filter trees.

A filter is a predicate on one field or a group of filters joined by AND or OR.
Nothing about a table is known here, so a tree may be malformed.

Owns: operators, combinators, trees and the usual ways to make them.
-/

namespace SchemaKeeper

/-- A comparison of a field with an operand. -/
inductive Operator where
  | equal
  | notEqual
  | greater
  | less
  | atLeast
  | atMost
  | like
  | oneOf
  | between
deriving DecidableEq

def Operator.sql : Operator → String
  | .equal => "="
  | .notEqual => "!="
  | .greater => ">"
  | .less => "<"
  | .atLeast => ">="
  | .atMost => "<="
  | .like => "LIKE"
  | .oneOf => "IN"
  | .between => "BETWEEN"

def Operator.all : List Operator :=
  [.equal, .notEqual, .greater, .less, .atLeast, .atMost, .like, .oneOf, .between]

/-- How the members of a group are joined. -/
inductive Combinator where
  | and
  | or
deriving DecidableEq

def Combinator.sql : Combinator → String
  | .and => "AND"
  | .or => "OR"

inductive Filter where
  | predicate (field : String) (operator : Operator) (operand : Value)
  | group (combinator : Combinator) (members : List Filter)

namespace Filter

/-! ## Views -/

mutual

/-- The fields that the predicates of a tree are about, in reading order. -/
def fields : Filter → List String
  | .predicate field _ _ => [field]
  | .group _ members => memberFields members

def memberFields : List Filter → List String
  | [] => []
  | member :: rest => fields member ++ memberFields rest

end

/-! ## Construction -/

def isNull (field : String) : Filter :=
  .predicate field .equal .null

def isNotNull (field : String) : Filter :=
  .predicate field .notEqual .null

def like (field pattern : String) : Filter :=
  .predicate field .like (.text pattern)

def oneOf (field : String) (values : List Value) : Filter :=
  .predicate field .oneOf (.list values)

def between (field : String) (low high : Value) : Filter :=
  .predicate field .between (.list [low, high])

/-- Every entry of a record holds, in the record's order. -/
def allEqual (record : Record) : Filter :=
  .group .and (record.entries.map fun entry => .predicate entry.1 .equal entry.2)

end Filter

end SchemaKeeper
