import SchemaKeeper.Plan.Basic

/-!
Contract: the statements that are sent to a MariaDB server.

A statement is data: a plan's creation or operations, or a request on rows with
its condition already written. `Statement.sql` writes it.

Owns: statements and their SQL.
-/

namespace SchemaKeeper

/-! ## Definitions -/

def Sql.dialectName : String := "mariadb"

/-- A constraint named after its column. -/
def ReferenceTarget.constraint (name : String) (target : ReferenceTarget) : Sql :=
  let column := Sql.identifier name
  let onDelete := match target.onDelete with
    | none => []
    | some action => [Sql.words ["ON", "DELETE"], Sql.words action.keywords]
  let onUpdate := match target.onUpdate with
    | none => []
    | some action => [Sql.words ["ON", "UPDATE"], Sql.words action.keywords]
  Sql.spaced
    ([Sql.word "CONSTRAINT", column, Sql.words ["FOREIGN", "KEY"], Sql.enclosed column,
      Sql.word "REFERENCES", Sql.identifier target.table,
      Sql.enclosed (Sql.identifier target.field)] ++ onDelete ++ onUpdate)

def Sql.uniqueIndex (name : String) : Sql :=
  Sql.spaced
    [Sql.words ["UNIQUE", "INDEX"], Sql.identifier name, Sql.enclosed (Sql.identifier name)]

def Sql.primaryKey (names : List String) : Sql :=
  Sql.spaced [Sql.words ["PRIMARY", "KEY"], Sql.enclosed (Sql.identifiers names)]

/-- An operation as a clause of a statement that alters a table. -/
def Operation.clause : Operation → Sql
  | .dropPrimaryKey => Sql.words ["DROP", "PRIMARY", "KEY"]
  | .addPrimaryKey fields => Sql.spaced [Sql.word "ADD", Sql.primaryKey fields]
  | .dropColumn name => Sql.spaced [Sql.words ["DROP", "COLUMN"], Sql.identifier name]
  | .addColumn name column => Sql.spaced [Sql.words ["ADD", "COLUMN"], column.definition name]
  | .changeColumn name column =>
      Sql.spaced [Sql.words ["CHANGE", "COLUMN"], Sql.identifier name, column.definition name]
  | .dropUniqueIndex name => Sql.spaced [Sql.words ["DROP", "INDEX"], Sql.identifier name]
  | .addUniqueIndex name => Sql.spaced [Sql.word "ADD", Sql.uniqueIndex name]
  | .dropForeignKey name =>
      Sql.spaced [Sql.words ["DROP", "FOREIGN", "KEY"], Sql.identifier name]
  | .addForeignKey name target => Sql.spaced [Sql.word "ADD", target.constraint name]

/-! ## Statements -/

/-- The values of columns in their order. -/
abbrev Row := List (String × Value)

/-- A statement. A selection without fields reads every column; an upsert without
fields to update leaves an existing row alone. -/
inductive Statement where
  | create (creation : Creation)
  | alter (table : String) (operations : List Operation)
  | select (table : String) (fields : Option (List String)) (condition : Option Sql)
      (limit : Option Nat)
  | insert (table : String) (row : Row) (returning : Bool)
  | upsert (table : String) (row : Row) (updated : List String) (returning : Bool)
  | update (table : String) (assignments : Row) (condition : Sql)
  | delete (table : String) (condition : Sql)
  | verbatim (text : String)
deriving DecidableEq

namespace Statement

/-- The columns and values of a row, as an insertion lists them. -/
def rowSql (row : Row) : List Sql :=
  [Sql.enclosed (Sql.identifiers (row.map (·.1))), Sql.word "VALUES",
    Sql.enclosed (Sql.listed (row.map fun entry => entry.2.literal))]

/-- The clause that asks for the stored row. -/
def returningSql (returning : Bool) : List Sql :=
  if returning then [Sql.spaced [Sql.word "RETURNING", Sql.symbol "*"]] else []

def sql : Statement → Sql
  | .create creation =>
      let columns := creation.columns.map fun entry => entry.2.definition entry.1
      let primaryKey :=
        if creation.primaryKey.isEmpty then [] else [Sql.primaryKey creation.primaryKey]
      let unique := creation.unique.map Sql.uniqueIndex
      let foreignKeys := creation.foreignKeys.map fun entry => entry.2.constraint entry.1
      Sql.spaced
        [Sql.words ["CREATE", "TABLE"], Sql.identifier creation.name,
          Sql.enclosed (Sql.listed (columns ++ primaryKey ++ unique ++ foreignKeys))]
  | .alter table operations =>
      Sql.spaced
        [Sql.words ["ALTER", "TABLE"], Sql.identifier table,
          Sql.listed (operations.map Operation.clause)]
  | .select table fields condition limit =>
      let columns := match fields with
        | none => Sql.symbol "*"
        | some names => Sql.identifiers names
      let whereClause := match condition with
        | none => []
        | some condition => [Sql.word "WHERE", condition]
      let limitClause := match limit with
        | none => []
        | some count => [Sql.word "LIMIT", Sql.natural count]
      Sql.spaced
        ([Sql.word "SELECT", columns, Sql.word "FROM", Sql.identifier table] ++ whereClause ++
          limitClause)
  | .insert table row returning =>
      Sql.spaced
        ([Sql.words ["INSERT", "INTO"], Sql.identifier table] ++ rowSql row ++
          returningSql returning)
  | .upsert table row updated returning =>
      let verb := if updated.isEmpty then ["INSERT", "IGNORE", "INTO"] else ["INSERT", "INTO"]
      let updates := updated.map fun name =>
        Sql.spaced
          [Sql.identifier name, Sql.symbol "=",
            Sql.word "VALUES" ++ Sql.enclosed (Sql.identifier name)]
      let onDuplicate :=
        if updated.isEmpty then []
        else [Sql.words ["ON", "DUPLICATE", "KEY", "UPDATE"], Sql.listed updates]
      Sql.spaced
        ([Sql.words verb, Sql.identifier table] ++ rowSql row ++ onDuplicate ++
          returningSql returning)
  | .update table assignments condition =>
      let clauses := assignments.map fun entry =>
        Sql.spaced [Sql.identifier entry.1, Sql.symbol "=", entry.2.literal]
      Sql.spaced
        [Sql.word "UPDATE", Sql.identifier table, Sql.word "SET", Sql.listed clauses,
          Sql.word "WHERE", condition]
  | .delete table condition =>
      Sql.spaced
        [Sql.words ["DELETE", "FROM"], Sql.identifier table, Sql.word "WHERE", condition]
  | .verbatim text => Sql.verbatim text

def text (statement : Statement) : String :=
  statement.sql.text

end Statement

/-- The statement that carries out a plan; none if there is nothing to do. -/
def Plan.statement? : Plan → Option Statement
  | .create creation => some (.create creation)
  | .alter _ [] => none
  | .alter table (operation :: operations) => some (.alter table (operation :: operations))

end SchemaKeeper
