import SchemaKeeper.Proofs.Comparison
import SchemaKeeper.Proofs.Declarations
import SchemaKeeper.Proofs.Phases

/-!
Contract: the effect of the operations that a description leads to.

The phases of a plan act on different parts of the table, and each one still finds
the part that it was planned for. So the operations for a description turn the
described table into one that can be written down at once.

Owns: the tables that a creation and an alteration give, and that operations give
the latter.

Does not own: what these tables have in common with a declaration (`Realization`).
-/

namespace SchemaKeeper

namespace PhysicalTable

/-! ## The table after a plan -/

/-- The table that a creation gives. -/
def created (declared : Table) (columns : List (String × Column)) : PhysicalTable where
  columns := columns.map fun entry => liveColumn entry.1 entry.2
  primary := declared.primaryKey
  unique := declared.uniqueFields
  foreign := declared.references.map (·.1)

/-- The table that the operations for its own description give. -/
def altered (table : PhysicalTable) (declared : Table) (columns : List (String × Column)) :
    PhysicalTable where
  columns := aligned columns table.describe table.columns
  primary :=
    if Plan.sameMembers declared.primaryKey (Plan.keyedNames .primary table.describe) then
      table.primary
    else
      declared.primaryKey
  unique := table.unique.filter (· ∈ declared.uniqueFields) ++
    declared.uniqueFields.filter (· ∉ table.unique)
  foreign := ((declared.references.filter fun entry => entry.1 ∉ table.foreign) ++
    declared.references.filter fun entry => entry.1 ∈ table.foreign).map (·.1)

section Plans

variable {table : PhysicalTable} {declared : Table} {columns : List (String × Column)}

theorem mem_keyedNames_primary (coherent : table.Coherent) (name : String) :
    name ∈ Plan.keyedNames .primary table.describe ↔ name ∈ table.primary := by
  rw [keyedNames_primary, mem_filter_columnNames coherent.primaryColumn]

theorem mem_keyedNames_unique (coherent : table.Coherent) (name : String) :
    name ∈ Plan.keyedNames .unique table.describe ↔ name ∈ table.unique := by
  rw [keyedNames_unique coherent, mem_filter_columnNames coherent.uniqueColumn]

/-- Whichever key an alteration leaves, its members are the declared ones. -/
theorem mem_primary_altered (coherent : table.Coherent) (name : String) :
    name ∈ (table.altered declared columns).primary ↔ name ∈ declared.primaryKey := by
  unfold altered
  by_cases same : Plan.sameMembers declared.primaryKey
      (Plan.keyedNames .primary table.describe) = true
  · simp only [if_pos same]
    rw [(Plan.sameMembers_iff _ _).1 same name, mem_keyedNames_primary coherent]
  · simp only [if_neg same]

private theorem notMem_droppedColumns (mapped : declared.columns = .ok columns)
    {live : List LiveColumn} {name : String} (field : name ∈ declared.fields.map (·.1)) :
    name ∉ Plan.droppedColumns columns live := by
  rw [Plan.mem_droppedColumns_iff, Table.columnNames mapped]
  exact fun dropped => dropped.2 field

/-- The key and column phases: a declared key survives, since its columns do. -/
private theorem applyOperations_throughColumns (coherent : table.Coherent)
    (mapped : declared.columns = .ok columns) :
    table.applyOperations
        (Plan.primaryKeyPhase declared.primaryKey (Plan.keyedNames .primary table.describe) ++
          ((Plan.droppedColumns columns table.describe).map .dropColumn ++
            Plan.addPhase columns table.describe ++ Plan.changePhase columns table.describe)) =
      .ok { table.altered declared columns with
        unique := table.unique.filter (· ∉ Plan.droppedColumns columns table.describe)
        foreign := table.foreign } := by
  have key : table.applyOperations
      (Plan.primaryKeyPhase declared.primaryKey (Plan.keyedNames .primary table.describe)) =
        .ok { table with primary := (table.altered declared columns).primary } :=
    applyOperations_primaryKeyPhase (mem_keyedNames_primary coherent)
  have survives : (table.altered declared columns).primary.filter
      (· ∉ Plan.droppedColumns columns table.describe) =
        (table.altered declared columns).primary := by
    rw [List.filter_eq_self]
    intro name member
    rw [decide_eq_true_eq]
    exact notMem_droppedColumns mapped
      (declared.fieldName_of_mem_primaryKey ((mem_primary_altered coherent name).1 member))
  have aligns := @applyOperations_columnPhases
    { table with primary := (table.altered declared columns).primary } columns _
    (Table.nodup_columnNames mapped) (names_describe table) coherent.columns
  rw [applyOperations_append key, aligns, survives]
  rfl

private theorem applyOperations_indexes (coherent : table.Coherent)
    (mapped : declared.columns = .ok columns) {start : PhysicalTable}
    (surviving : start.unique =
      table.unique.filter (· ∉ Plan.droppedColumns columns table.describe)) :
    start.applyOperations (Plan.uniquePhase declared.uniqueFields
        (Plan.keyedNames .unique table.describe) (Plan.droppedColumns columns table.describe)) =
      .ok { start with unique := (table.altered declared columns).unique } := by
  have describedDistinct : (Plan.keyedNames .unique table.describe).Nodup := by
    rw [keyedNames_unique coherent]
    exact coherent.columns.filter _
  have keeps : start.unique.filter (· ∈ declared.uniqueFields) =
      table.unique.filter (· ∈ declared.uniqueFields) := by
    rw [surviving, List.filter_filter]
    apply List.filter_congr
    intro name _
    by_cases unique : name ∈ declared.uniqueFields
    · simp [unique,
        notMem_droppedColumns mapped (declared.fieldName_of_mem_uniqueFields unique)]
    · simp [unique]
  rw [applyOperations_uniquePhase declared.nodup_uniqueFields describedDistinct
    fun name => by simp [surviving, mem_keyedNames_unique coherent], keeps]
  simp only [mem_keyedNames_unique coherent]
  rfl

private theorem applyOperations_constraints (coherent : table.Coherent)
    (mapped : declared.columns = .ok columns) {start : PhysicalTable}
    (untouched : start.foreign = table.foreign) :
    start.applyOperations (Plan.foreignKeyPhase (Column.references columns)
        ((table.describe.filter (·.foreignKey)).map (·.name))) =
      .ok { start with foreign := (table.altered declared columns).foreign } := by
  have members := mem_filter_columnNames coherent.foreignColumn
  rw [Table.references_columns mapped, foreignNames_describe,
    applyOperations_foreignKeyPhase declared.nodup_references (coherent.columns.filter _)
      fun name => by rw [untouched, members]]
  simp only [members]
  rfl

/-- The operations for a description turn the described table into the altered one:
none of them is refused. -/
theorem applyOperations_operationsFor (coherent : table.Coherent)
    (mapped : declared.columns = .ok columns) :
    table.applyOperations (declared.operationsFor columns table.describe) =
      .ok (table.altered declared columns) := by
  have phases : declared.operationsFor columns table.describe =
      Plan.primaryKeyPhase declared.primaryKey (Plan.keyedNames .primary table.describe) ++
          ((Plan.droppedColumns columns table.describe).map .dropColumn ++
            Plan.addPhase columns table.describe ++ Plan.changePhase columns table.describe) ++
        (Plan.uniquePhase declared.uniqueFields (Plan.keyedNames .unique table.describe)
            (Plan.droppedColumns columns table.describe) ++
          Plan.foreignKeyPhase (Column.references columns)
            ((table.describe.filter (·.foreignKey)).map (·.name))) := by
    simp [Table.operationsFor]
  rw [phases, applyOperations_append (applyOperations_throughColumns coherent mapped),
    applyOperations_append (applyOperations_indexes coherent mapped rfl)]
  exact applyOperations_constraints coherent mapped rfl

end Plans

end PhysicalTable

end SchemaKeeper
