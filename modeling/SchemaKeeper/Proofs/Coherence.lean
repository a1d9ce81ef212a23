import SchemaKeeper.PhysicalTable.Evolution
import SchemaKeeper.Proofs.Operations

/-!
Contract: the invariant of physical tables, and what their descriptions show.

A coherent table names every column once, and its keys, indexes and constraints
stand on its columns. In such a table a description gives the lists back: a key
shows on the columns of the primary key, and a unique index wherever there is one,
since no column has both.

Owns: coherence, the tables that have it from the start, and the names that a
description shows for each key.
-/

namespace SchemaKeeper

namespace PhysicalTable

/-- The keys and constraints of a table stand on its columns. -/
structure Coherent (table : PhysicalTable) : Prop where
  columns : table.columnNames.Nodup
  primary : table.primary.Nodup
  unique : table.unique.Nodup
  foreign : table.foreign.Nodup
  primaryColumn : ∀ name ∈ table.primary, name ∈ table.columnNames
  uniqueColumn : ∀ name ∈ table.unique, name ∈ table.columnNames
  foreignColumn : ∀ name ∈ table.foreign, name ∈ table.columnNames
  disjoint : ∀ name ∈ table.primary, name ∉ table.unique

/-! ## Initial tables -/

theorem coherent_missing : Coherent missing where
  columns := .nil
  primary := .nil
  unique := .nil
  foreign := .nil
  primaryColumn := by simp [missing]
  uniqueColumn := by simp [missing]
  foreignColumn := by simp [missing]
  disjoint := by simp [missing]

theorem columnNames_ofLive (live : List LiveColumn) :
    (ofLive live).columnNames = live.map (·.name) := by
  simp [columnNames, ofLive, Function.comp_def]

/-- A described column has one key, so no name is in two lists at once. -/
theorem coherent_ofLive {live : List LiveColumn} (distinct : (live.map (·.name)).Nodup) :
    Coherent (ofLive live) := by
  have nodupFiltered : ∀ keep : LiveColumn → Bool, ((live.filter keep).map (·.name)).Nodup :=
    fun keep => (List.filter_sublist.map _).nodup distinct
  have named : ∀ keep : LiveColumn → Bool, ∀ name ∈ (live.filter keep).map (·.name),
      name ∈ live.map (·.name) :=
    fun keep name member => (List.filter_sublist.map _).subset member
  refine ⟨?_, nodupFiltered _, nodupFiltered _, nodupFiltered _, ?_, ?_, ?_, ?_⟩
  · rw [columnNames_ofLive]
    exact distinct
  · rw [columnNames_ofLive]
    exact named _
  · rw [columnNames_ofLive]
    exact named _
  · rw [columnNames_ofLive]
    exact named _
  · intro name inPrimary inUnique
    obtain ⟨left, leftMember, leftName⟩ := List.mem_map.1 inPrimary
    obtain ⟨right, rightMember, rightName⟩ := List.mem_map.1 inUnique
    rw [List.mem_filter] at leftMember rightMember
    have same : left = right :=
      List.inj_on_of_nodup_map distinct leftMember.1 rightMember.1 (leftName.trans rightName.symm)
    subst same
    have primaryKey : left.key = some .primary := by simpa using leftMember.2
    have uniqueKey : left.key = some .unique := by simpa using rightMember.2
    rw [primaryKey] at uniqueKey
    contradiction

theorem Initial.coherent {table : PhysicalTable} (initial : table.Initial) : table.Coherent := by
  cases initial with
  | missing => exact coherent_missing
  | described live distinct => exact coherent_ofLive distinct

/-! ## Descriptions -/

def described (table : PhysicalTable) (column : LiveColumn) : LiveColumn :=
  { column with
    key := table.keyOf column.name
    foreignKey := table.foreign.contains column.name }

theorem describe_eq_map (table : PhysicalTable) :
    table.describe = table.columns.map table.described :=
  rfl

@[simp] theorem columnAgrees_described (table : PhysicalTable) (definition : Column)
    (column : LiveColumn) :
    Plan.columnAgrees definition (table.described column) = Plan.columnAgrees definition column :=
  rfl

@[simp] theorem names_describe (table : PhysicalTable) :
    table.describe.map (·.name) = table.columnNames := by
  simp [describe_eq_map, described, columnNames, Function.comp_def]

private theorem names_filter_describe (table : PhysicalTable) {keep : LiveColumn → Bool}
    {wanted : String → Bool}
    (agree : ∀ column, keep (table.described column) = wanted column.name) :
    (table.describe.filter keep).map (·.name) = table.columnNames.filter wanted := by
  rw [describe_eq_map, List.filter_map, List.map_map, columnNames, List.filter_map]
  have sameFilter : table.columns.filter (keep ∘ table.described) =
      table.columns.filter (wanted ∘ (·.name)) :=
    List.filter_congr fun column _ => agree column
  rw [sameFilter]
  rfl

theorem keyedNames_primary (table : PhysicalTable) :
    Plan.keyedNames .primary table.describe = table.columnNames.filter (· ∈ table.primary) := by
  apply names_filter_describe
  intro column
  by_cases primary : column.name ∈ table.primary
  · simp [described, keyOf, primary]
  · by_cases unique : column.name ∈ table.unique <;>
      by_cases foreign : column.name ∈ table.foreign <;>
        simp [described, keyOf, primary, unique, foreign]

theorem keyedNames_unique {table : PhysicalTable} (coherent : table.Coherent) :
    Plan.keyedNames .unique table.describe = table.columnNames.filter (· ∈ table.unique) := by
  apply names_filter_describe
  intro column
  by_cases primary : column.name ∈ table.primary
  · simp [described, keyOf, primary, coherent.disjoint _ primary]
  · by_cases unique : column.name ∈ table.unique <;>
      by_cases foreign : column.name ∈ table.foreign <;>
        simp [described, keyOf, primary, unique, foreign]

theorem foreignNames_describe (table : PhysicalTable) :
    (table.describe.filter (·.foreignKey)).map (·.name) =
      table.columnNames.filter (· ∈ table.foreign) := by
  apply names_filter_describe
  intro column
  simp [described]

/-- In a coherent table the described members of a key are its members. -/
theorem mem_filter_columnNames {table : PhysicalTable} {names : List String}
    (onColumns : ∀ name ∈ names, name ∈ table.columnNames) (name : String) :
    name ∈ table.columnNames.filter (· ∈ names) ↔ name ∈ names := by
  simp only [List.mem_filter, decide_eq_true_eq]
  exact ⟨fun member => member.2, fun member => ⟨onColumns name member, member⟩⟩

end PhysicalTable

namespace Plan

/-- Where names are distinct, looking a column up finds the one of that name. -/
theorem describedColumn?_eq_some_iff {live : List LiveColumn}
    (distinct : (live.map (·.name)).Nodup) (name : String) (found : LiveColumn) :
    describedColumn? live name = some found ↔ found ∈ live ∧ found.name = name := by
  unfold describedColumn?
  constructor
  · intro selected
    exact ⟨by simpa using List.mem_of_find?_eq_some selected,
      by simpa using List.find?_some selected⟩
  · rintro ⟨member, rfl⟩
    cases selected : live.reverse.find? (fun other => other.name == found.name) with
    | none =>
        rw [List.find?_eq_none] at selected
        have mismatch := selected found (by simpa using member)
        simp at mismatch
    | some other =>
        have otherNamed : other.name = found.name := by simpa using List.find?_some selected
        have otherMember : other ∈ live := by simpa using List.mem_of_find?_eq_some selected
        exact congrArg some (List.inj_on_of_nodup_map distinct otherMember member otherNamed)

theorem describedColumn?_eq_none_iff (live : List LiveColumn) (name : String) :
    describedColumn? live name = none ↔ name ∉ live.map (·.name) := by
  unfold describedColumn?
  rw [List.find?_eq_none]
  simp only [List.mem_reverse, List.mem_map, beq_iff_eq, not_exists, not_and]

end Plan

/-- In a coherent table every column finds its own description. -/
theorem PhysicalTable.Coherent.describedColumn? {table : PhysicalTable}
    (coherent : table.Coherent) {column : LiveColumn} (member : column ∈ table.columns) :
    Plan.describedColumn? table.describe column.name = some (table.described column) := by
  have distinct : (table.describe.map (·.name)).Nodup := by
    rw [names_describe]
    exact coherent.columns
  rw [Plan.describedColumn?_eq_some_iff distinct]
  exact ⟨List.mem_map_of_mem member, rfl⟩

end SchemaKeeper
