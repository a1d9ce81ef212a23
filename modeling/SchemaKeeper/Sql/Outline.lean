import SchemaKeeper.Filter.Rendering
import SchemaKeeper.Sql.Statement

/-!
Contract: which tokens a statement has to come to, and what its shape is.

A draft is a statement whose condition is still a filter. Its outline lists the tokens
that are meant, one by one: every name is one identifier, every text one string, every
other scalar the token of its literal, and the rest are fixed keywords, marks, type
names and sizes. The shape of a draft is what is left of it when the contents of names,
texts and numbers are forgotten.

Owns: drafts, outlines, kinds of tokens and shapes.

Does not own: spaces and quoting (`Sql.Statement`), reading text back (`Sql.Reading`).
-/

namespace SchemaKeeper

/-! ## Drafts -/

/-- A statement before its condition is written. -/
inductive Draft where
  | create (creation : Creation)
  | alter (table : String) (operations : List Operation)
  | select (table : String) (fields : Option (List String)) (filter : Option Filter)
      (limit : Option Nat)
  | insert (table : String) (row : Row) (returning : Bool)
  | upsert (table : String) (row : Row) (updated : List String) (returning : Bool)
  | update (table : String) (assignments : Row) (filter : Filter)
  | delete (table : String) (filter : Filter)

/-- The statement of a draft. Its filter is rendered for a declaration, whatever table
the statement is about. -/
def Draft.write (declared : Table) : Draft → Except Error Statement
  | .create creation => .ok (.create creation)
  | .alter table operations => .ok (.alter table operations)
  | .select table fields none limit => .ok (.select table fields none limit)
  | .select table fields (some filter) limit =>
      (filter.render declared).map fun condition => .select table fields (some condition) limit
  | .insert table row returning => .ok (.insert table row returning)
  | .upsert table row updated returning => .ok (.upsert table row updated returning)
  | .update table assignments filter => (filter.render declared).map (.update table assignments)
  | .delete table filter => (filter.render declared).map (.delete table)

/-! ## Outlines -/

namespace Sql

/-- The tokens that a piece of SQL is meant to come to. -/
abbrev Outline := List Token

namespace Outline

def words (texts : List String) : Outline :=
  texts.map .word

def listed (parts : List Outline) : Outline :=
  [Token.symbol ","].intercalate parts

def enclosed (part : Outline) : Outline :=
  .symbol "(" :: part ++ [.symbol ")"]

def names (all : List String) : Outline :=
  listed (all.map fun name => [.identifier name])

end Outline

end Sql

open Sql

mutual

def Value.outline : Value → Outline
  | .null => [.word "NULL"]
  | .bool true => [.word "TRUE"]
  | .bool false => [.word "FALSE"]
  | .int value => [.number (intText value)]
  | .float value => if value.isFinite then [.number value.toText] else [.word "NULL"]
  | .text value => [.string value]
  | .list items => Outline.listed (itemOutlines items)

def Value.itemOutlines : List Value → List Outline
  | [] => []
  | item :: rest => item.outline :: itemOutlines rest

end

mutual

def Filter.outline : Filter → Outline
  | .predicate field .equal .null => .identifier field :: Outline.words ["IS", "NULL"]
  | .predicate field .notEqual .null => .identifier field :: Outline.words ["IS", "NOT", "NULL"]
  | .predicate field .oneOf operand =>
      [.identifier field, .word "IN"] ++ Outline.enclosed operand.outline
  | .predicate field .between (.list [low, high]) =>
      [.identifier field, .word "BETWEEN"] ++ low.outline ++ [.word "AND"] ++ high.outline
  | .predicate field .between operand => [.identifier field, .word "BETWEEN"] ++ operand.outline
  | .predicate field .like operand => [.identifier field, .word "LIKE"] ++ operand.outline
  | .predicate field comparison operand =>
      [.identifier field, .symbol comparison.sql] ++ operand.outline
  | .group combinator members =>
      Outline.enclosed ([Token.word combinator.sql].intercalate (memberOutlines members))

def Filter.memberOutlines : List Filter → List Outline
  | [] => []
  | member :: rest => member.outline :: memberOutlines rest

end

def TypeSize.outline : TypeSize → Outline
  | .none => []
  | .length size => Outline.enclosed [.number (toString size)]
  | .decimal precision scale =>
      Outline.enclosed [.number (toString precision), .symbol ",", .number (toString scale)]

def Column.outline (name : String) (column : Column) : Outline :=
  let unsigned := if column.unsigned then ["UNSIGNED"] else []
  let notNull := if column.nullable then [] else ["NOT", "NULL"]
  let default := match column.default with
    | none => []
    | some value => .word "DEFAULT" :: value.outline
  let autoIncrement := if column.autoIncrement then ["AUTO_INCREMENT"] else []
  [.identifier name, .word column.type.keyword] ++ column.size.outline ++
    Outline.words unsigned ++ Outline.words notNull ++ default ++ Outline.words autoIncrement

/-- The tokens of what happens to a reference on an event. -/
def ReferentialAction.outline (event : String) : Option ReferentialAction → Outline
  | none => []
  | some action => Outline.words ["ON", event] ++ Outline.words action.keywords

/-- The tokens of the constraint of a column. -/
def ReferenceTarget.outline (name : String) (target : ReferenceTarget) : Outline :=
  [.word "CONSTRAINT", .identifier name, .word "FOREIGN", .word "KEY"] ++
    Outline.enclosed [.identifier name] ++ [.word "REFERENCES", .identifier target.table] ++
    Outline.enclosed [.identifier target.field] ++
    ReferentialAction.outline "DELETE" target.onDelete ++
    ReferentialAction.outline "UPDATE" target.onUpdate

namespace Sql.Outline

def primaryKey (fields : List String) : Outline :=
  words ["PRIMARY", "KEY"] ++ enclosed (names fields)

def uniqueIndex (name : String) : Outline :=
  words ["UNIQUE", "INDEX"] ++ [.identifier name] ++ enclosed [.identifier name]

def row (entries : Row) : Outline :=
  enclosed (names (entries.map (·.1))) ++ [.word "VALUES"] ++
    enclosed (listed (entries.map fun entry => entry.2.outline))

def returning (asked : Bool) : Outline :=
  if asked then [.word "RETURNING", .symbol "*"] else []

end Sql.Outline

def Operation.outline : Operation → Outline
  | .dropPrimaryKey => Outline.words ["DROP", "PRIMARY", "KEY"]
  | .addPrimaryKey fields => [.word "ADD"] ++ Outline.primaryKey fields
  | .dropColumn name => Outline.words ["DROP", "COLUMN"] ++ [.identifier name]
  | .addColumn name column => Outline.words ["ADD", "COLUMN"] ++ column.outline name
  | .changeColumn name column =>
      Outline.words ["CHANGE", "COLUMN"] ++ [.identifier name] ++ column.outline name
  | .dropUniqueIndex name => Outline.words ["DROP", "INDEX"] ++ [.identifier name]
  | .addUniqueIndex name => [.word "ADD"] ++ Outline.uniqueIndex name
  | .dropForeignKey name => Outline.words ["DROP", "FOREIGN", "KEY"] ++ [.identifier name]
  | .addForeignKey name target => [.word "ADD"] ++ target.outline name

/-- The tokens of the parts of a creation: columns, keys, indexes and constraints. -/
def Creation.parts (creation : Creation) : List Outline :=
  creation.columns.map (fun entry => entry.2.outline entry.1) ++
    (if creation.primaryKey.isEmpty then [] else [Outline.primaryKey creation.primaryKey]) ++
    creation.unique.map Outline.uniqueIndex ++
    creation.foreignKeys.map fun entry => entry.2.outline entry.1

def Draft.outline : Draft → Outline
  | .create creation =>
      Outline.words ["CREATE", "TABLE"] ++ [.identifier creation.name] ++
        Outline.enclosed (Outline.listed creation.parts)
  | .alter table operations =>
      Outline.words ["ALTER", "TABLE"] ++ [.identifier table] ++
        Outline.listed (operations.map Operation.outline)
  | .select table fields filter limit =>
      [.word "SELECT"] ++ (fields.map Outline.names).getD [.symbol "*"] ++
        [.word "FROM", .identifier table] ++
        (filter.map fun filter => .word "WHERE" :: filter.outline).getD [] ++
        (limit.map fun count => [.word "LIMIT", .number (toString count)]).getD []
  | .insert table entries returning =>
      Outline.words ["INSERT", "INTO"] ++ [.identifier table] ++ Outline.row entries ++
        Outline.returning returning
  | .upsert table entries [] returning =>
      Outline.words ["INSERT", "IGNORE", "INTO"] ++ [.identifier table] ++ Outline.row entries ++
        Outline.returning returning
  | .upsert table entries (first :: others) returning =>
      Outline.words ["INSERT", "INTO"] ++ [.identifier table] ++ Outline.row entries ++
        Outline.words ["ON", "DUPLICATE", "KEY", "UPDATE"] ++
        Outline.listed ((first :: others).map fun name =>
          [.identifier name, .symbol "=", .word "VALUES"] ++ Outline.enclosed [.identifier name]) ++
        Outline.returning returning
  | .update table assignments filter =>
      [.word "UPDATE", .identifier table, .word "SET"] ++
        Outline.listed (assignments.map fun entry =>
          [.identifier entry.1, .symbol "="] ++ entry.2.outline) ++
        [.word "WHERE"] ++ filter.outline
  | .delete table filter =>
      Outline.words ["DELETE", "FROM"] ++ [.identifier table, .word "WHERE"] ++ filter.outline

/-! ## Kinds and shapes -/

/-- What is left of a token when the contents of names, texts and numbers are
forgotten. -/
inductive Sql.TokenKind where
  | word (text : String)
  | symbol (text : String)
  | identifier
  | string
  | number
deriving DecidableEq

@[simp] def Sql.Token.kind : Token → TokenKind
  | .word text => .word text
  | .symbol text => .symbol text
  | .identifier _ => .identifier
  | .string _ => .string
  | .number _ => .number

mutual

/-- A value of the same type without its content. Doubles with a literal and doubles
without one stay apart. -/
def Value.shape : Value → Value
  | .null => .null
  | .bool value => .bool value
  | .int _ => .int 0
  | .float value => .float (if value.isFinite then .zero false else .nan)
  | .text _ => .text ""
  | .list items => .list (itemShapes items)

def Value.itemShapes : List Value → List Value
  | [] => []
  | item :: rest => item.shape :: itemShapes rest

end

mutual

def Filter.shape : Filter → Filter
  | .predicate _ operator operand => .predicate "" operator operand.shape
  | .group combinator members => .group combinator (memberShapes members)

def Filter.memberShapes : List Filter → List Filter
  | [] => []
  | member :: rest => member.shape :: memberShapes rest

end

def Sql.nameShapes (names : List String) : List String :=
  names.map fun _ => ""

def ReferenceTarget.shape (target : ReferenceTarget) : ReferenceTarget :=
  { target with table := "", field := "" }

def Column.shape (column : Column) : Column :=
  { column with
    default := column.default.map Value.shape
    reference := column.reference.map ReferenceTarget.shape }

def Operation.shape : Operation → Operation
  | .dropPrimaryKey => .dropPrimaryKey
  | .addPrimaryKey fields => .addPrimaryKey (nameShapes fields)
  | .dropColumn _ => .dropColumn ""
  | .addColumn _ column => .addColumn "" column.shape
  | .changeColumn _ column => .changeColumn "" column.shape
  | .dropUniqueIndex _ => .dropUniqueIndex ""
  | .addUniqueIndex _ => .addUniqueIndex ""
  | .dropForeignKey _ => .dropForeignKey ""
  | .addForeignKey _ target => .addForeignKey "" target.shape

def Creation.shape (creation : Creation) : Creation where
  name := ""
  columns := creation.columns.map fun entry => ("", entry.2.shape)
  primaryKey := nameShapes creation.primaryKey
  unique := nameShapes creation.unique
  foreignKeys := creation.foreignKeys.map fun entry => ("", entry.2.shape)

def Row.shape (row : Row) : Row :=
  row.map fun entry => ("", entry.2.shape)

def Draft.shape : Draft → Draft
  | .create creation => .create creation.shape
  | .alter _ operations => .alter "" (operations.map Operation.shape)
  | .select _ fields filter limit =>
      .select "" (fields.map nameShapes) (filter.map Filter.shape) (limit.map fun _ => 0)
  | .insert _ row returning => .insert "" (Row.shape row) returning
  | .upsert _ row updated returning => .upsert "" (Row.shape row) (nameShapes updated) returning
  | .update _ assignments filter => .update "" (Row.shape assignments) filter.shape
  | .delete _ filter => .delete "" filter.shape

end SchemaKeeper
