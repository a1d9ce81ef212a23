import SchemaKeeper.MariaDb.Server
import SchemaKeeper.PhysicalTable

/-!
Contract: a server that keeps tables and carries out plans on them.

It lets everybody in and knows each table by its columns, keys and constraints. A plan
that does not fit a table fails and leaves the table as it is. Rows are not kept.

Owns: the tables, and how they are reported.
-/

namespace SchemaKeeper.MariaDb

def ColumnReport.ofLive (column : LiveColumn) : ColumnReport where
  name := column.name
  type := column.type
  nullable := if column.nullable then "YES" else "NO"
  key := (column.key.map KeyKind.report).getD ""
  default := column.default
  extra := column.extra

/-- A server with its tables by name; those without columns do not exist. -/
structure Catalogue where
  table : String → PhysicalTable

namespace Catalogue

def empty : Catalogue := ⟨fun _ => .missing⟩

def withTable (catalogue : Catalogue) (name : String) (table : PhysicalTable) : Catalogue :=
  ⟨fun other => if other = name then table else catalogue.table other⟩

/-- Carries out a plan on its table; a table that refuses the plan stays as it is. -/
def carryOut (plan : Plan) : Question Catalogue Nat := fun catalogue =>
  match (catalogue.table plan.table).apply plan with
  | .ok table => (some 0, catalogue.withTable plan.table table)
  | .error _ => (none, catalogue)

instance : Server Catalogue where
  login := pure ()
  logout := pure ()
  version := pure "10.11.6-MariaDB"
  columns name := return ((← get).table name).describe.map ColumnReport.ofLive
  foreignKeys name := return ((← get).table name).foreign
  execute
    | .create creation => carryOut (.create creation)
    | .alter table operations => carryOut (.alter table operations)
    | _ => return 0
  fetch _ := return ⟨[], []⟩

end Catalogue

end SchemaKeeper.MariaDb
