import SchemaKeeper.Proofs.Reconciliation

/-!
Contract: plans fit the tables that they were made for.

The plan for a description is carried out on the table that was described without a
refusal, and the table afterwards realizes the declaration: it has the declared
columns, keys, indexes and constraints and no others. A table that realizes a
declaration is coherent, so the next description finds a coherent table again,
whatever the declarations are.

Owns: realized declarations, the step that reaches them, and runs of steps.
-/

namespace SchemaKeeper

namespace PhysicalTable

/-- A table is as declared. Its columns either were made from their definitions or
agreed with them before. -/
structure Realizes (table : PhysicalTable) (declared : Table)
    (columns : List (String × Column)) : Prop where
  coherent : table.Coherent
  names : ∀ name, name ∈ table.columnNames ↔ name ∈ declared.fields.map (·.1)
  primary : ∀ name, name ∈ table.primary ↔ name ∈ declared.primaryKey
  unique : ∀ name, name ∈ table.unique ↔ name ∈ declared.uniqueFields
  foreign : ∀ name, name ∈ table.foreign ↔ name ∈ declared.references.map (·.1)
  defined : ∀ column ∈ table.columns, ∀ definition, (column.name, definition) ∈ columns →
    Plan.columnAgrees definition column = true ∨ column = liveColumn column.name definition

section Steps

variable {table : PhysicalTable} {declared : Table} {columns : List (String × Column)}

/-! ## Realized declarations -/

/-- Names that match a declaration's keys and references make a table coherent. -/
private theorem coherent_of_names {after : PhysicalTable}
    (distinct : after.columnNames.Nodup) (primaryDistinct : after.primary.Nodup)
    (uniqueDistinct : after.unique.Nodup) (foreignDistinct : after.foreign.Nodup)
    (names : ∀ name, name ∈ after.columnNames ↔ name ∈ declared.fields.map (·.1))
    (primary : ∀ name, name ∈ after.primary ↔ name ∈ declared.primaryKey)
    (unique : ∀ name, name ∈ after.unique ↔ name ∈ declared.uniqueFields)
    (foreign : ∀ name, name ∈ after.foreign ↔ name ∈ declared.references.map (·.1)) :
    after.Coherent where
  columns := distinct
  primary := primaryDistinct
  unique := uniqueDistinct
  foreign := foreignDistinct
  primaryColumn := fun name member =>
    (names name).2 (declared.fieldName_of_mem_primaryKey ((primary name).1 member))
  uniqueColumn := fun name member =>
    (names name).2 (declared.fieldName_of_mem_uniqueFields ((unique name).1 member))
  foreignColumn := fun name member => by
    obtain ⟨field, fieldMember, _⟩ := (declared.mem_references_iff name).1
      ((foreign name).1 member)
    exact (names name).2 (List.mem_map_of_mem fieldMember)
  disjoint := fun name inPrimary inUnique =>
    declared.notMem_uniqueFields_of_mem_primaryKey ((primary name).1 inPrimary)
      ((unique name).1 inUnique)

theorem columnNames_created (mapped : declared.columns = .ok columns) :
    (created declared columns).columnNames = declared.fields.map (·.1) := by
  rw [← Table.columnNames mapped]
  simp [columnNames, created, liveColumn, Function.comp_def]

theorem realizes_created (mapped : declared.columns = .ok columns) :
    (created declared columns).Realizes declared columns := by
  have names : ∀ name, name ∈ (created declared columns).columnNames ↔
      name ∈ declared.fields.map (·.1) := fun name => by rw [columnNames_created mapped]
  refine ⟨?_, names, fun _ => Iff.rfl, fun _ => Iff.rfl, fun _ => Iff.rfl, ?_⟩
  · refine coherent_of_names ?_ declared.nodup_primaryKey declared.nodup_uniqueFields
      declared.nodup_references names (fun _ => Iff.rfl) (fun _ => Iff.rfl) (fun _ => Iff.rfl)
    rw [columnNames_created mapped]
    exact declared.nodup_fieldNames
  · intro column member definition listed
    rcases List.mem_map.1 member with ⟨entry, entryMember, rfl⟩
    have same := List.inj_on_of_nodup_map (Table.nodup_columnNames mapped) entryMember listed rfl
    right
    rw [same]
    rfl

/-- A column that a plan does not change agrees with its definition. -/
private theorem columnAgrees_of_unchanged (coherent : table.Coherent) {column : LiveColumn}
    (member : column ∈ table.columns) {definition : Column}
    (listed : (column.name, definition) ∈ columns)
    (unchanged : (column.name, definition) ∉ Plan.changedColumns columns table.describe) :
    Plan.columnAgrees definition column = true := by
  by_contra differs
  apply unchanged
  rw [Plan.changedColumns, List.mem_filter]
  refine ⟨listed, ?_⟩
  rw [coherent.describedColumn? member, Option.any_some, columnAgrees_described]
  simpa using differs

/-- A redefined column is as defined; one that was left alone agrees already, unless
it has just been added. -/
private theorem defined_aligned (coherent : table.Coherent)
    (mapped : declared.columns = .ok columns) {column : LiveColumn}
    (member : column ∈ aligned columns table.describe table.columns) {definition : Column}
    (listed : (column.name, definition) ∈ columns) :
    Plan.columnAgrees definition column = true ∨ column = liveColumn column.name definition := by
  have unique : ∀ other, (column.name, other) ∈ columns → other = definition :=
    fun other otherListed => congrArg Prod.snd
      (List.inj_on_of_nodup_map (Table.nodup_columnNames mapped) otherListed listed rfl)
  rcases List.mem_map.1 member with ⟨original, originalMember, rfl⟩
  rw [redefined_name] at listed unique ⊢
  unfold redefined
  cases found : (Plan.changedColumns columns table.describe).lookup original.name with
  | some replacement =>
      right
      rcases List.lookup_eq_some_iff.1 found with ⟨before, behind, split, _⟩
      have changed : (original.name, replacement) ∈
          Plan.changedColumns columns table.describe := by simp [split]
      rw [unique replacement (List.mem_filter.1 changed).1]
  | none =>
      have unchanged : (original.name, definition) ∉
          Plan.changedColumns columns table.describe := fun changed => by
        simpa using List.lookup_eq_none_iff.1 found _ changed
      rcases List.mem_append.1 originalMember with survivor | added
      · left
        exact columnAgrees_of_unchanged coherent (List.mem_filter.1 survivor).1 listed unchanged
      · right
        rcases List.mem_map.1 added with ⟨entry, entryMember, rfl⟩
        rw [← unique entry.2 (List.mem_filter.1 entryMember).1]
        rfl

/-- The surviving columns stay in their order, and new ones follow as declared. -/
theorem columnNames_altered (mapped : declared.columns = .ok columns) :
    (table.altered declared columns).columnNames =
      table.columnNames.filter (· ∈ declared.fields.map (·.1)) ++
        (declared.fields.map (·.1)).filter (· ∉ table.columnNames) := by
  show (aligned columns table.describe table.columns).map (·.name) = _
  rw [names_aligned, names_extended, Table.columnNames mapped, names_describe]
  rfl

theorem realizes_altered (coherent : table.Coherent) (mapped : declared.columns = .ok columns) :
    (table.altered declared columns).Realizes declared columns := by
  have names : ∀ name, name ∈ (table.altered declared columns).columnNames ↔
      name ∈ declared.fields.map (·.1) := by
    intro name
    rw [columnNames_altered mapped, List.mem_append, List.mem_filter, List.mem_filter,
      decide_eq_true_eq, decide_eq_true_eq]
    by_cases present : name ∈ table.columnNames <;> simp [present]
  have unique : ∀ name, name ∈ (table.altered declared columns).unique ↔
      name ∈ declared.uniqueFields := by
    intro name
    show name ∈ table.unique.filter _ ++ declared.uniqueFields.filter _ ↔ _
    rw [List.mem_append, List.mem_filter, List.mem_filter, decide_eq_true_eq, decide_eq_true_eq]
    by_cases present : name ∈ table.unique <;> simp [present]
  have foreign : (table.altered declared columns).foreign.Perm
      (declared.references.map (·.1)) := by
    have parts := perm_filter_append
      (fun entry : String × ReferenceTarget => decide (entry.1 ∈ table.foreign))
      declared.references
    simp only [← decide_not] at parts
    exact parts.map _
  have primary : ∀ name, name ∈ (table.altered declared columns).primary ↔
      name ∈ declared.primaryKey := mem_primary_altered coherent
  refine ⟨coherent_of_names ?_ ?_ ?_
    (foreign.nodup_iff.2 declared.nodup_references) names primary unique
    (fun _ => foreign.mem_iff), names, primary, unique, fun _ => foreign.mem_iff,
    fun column member definition => defined_aligned coherent mapped member⟩
  · rw [columnNames_altered mapped]
    refine (coherent.columns.filter _).append (declared.nodup_fieldNames.filter _) ?_
    intro name survives comes
    simp only [List.mem_filter, decide_eq_true_eq] at survives comes
    exact comes.2 survives.1
  · show (if _ then table.primary else declared.primaryKey).Nodup
    split
    · exact coherent.primary
    · exact declared.nodup_primaryKey
  · refine (coherent.unique.filter _).append (declared.nodup_uniqueFields.filter _) ?_
    intro name kept added
    simp only [List.mem_filter, decide_eq_true_eq] at kept added
    exact added.2 kept.1

/-! ## Steps -/

theorem planFor_nil (mapped : declared.columns = .ok columns) :
    declared.planFor [] = .ok (.create ⟨declared.name, columns, declared.primaryKey,
      declared.uniqueFields, declared.references⟩) := by
  rw [← Table.references_columns mapped]
  simp [Table.planFor, Table.creation, mapped, bind, Except.bind, pure, Except.pure]

theorem planFor_eq_alter (mapped : declared.columns = .ok columns) {live : List LiveColumn}
    (nonempty : live ≠ []) (typed : ∀ column ∈ live, Text.trim column.type ≠ "") :
    declared.planFor live = .ok (.alter declared.name (declared.operationsFor columns live)) := by
  have noneUntyped : live.find? (fun column => Text.trim column.type == "") = none := by
    rw [List.find?_eq_none]
    simpa using typed
  have present : live.isEmpty = false := by simpa using nonempty
  simp [Table.planFor, present, noneUntyped, mapped, bind, Except.bind, pure, Except.pure]

/-- A column without a type keeps any plan from being made. -/
theorem planFor_eq_error {live : List LiveColumn} {column : LiveColumn}
    (untyped : live.find? (fun other => Text.trim other.type == "") = some column) :
    declared.planFor live = .error (.untypedColumn declared.name column.name) := by
  have present : live.isEmpty = false := by
    rw [List.isEmpty_eq_false_iff]
    exact List.ne_nil_of_mem (List.mem_of_find?_eq_some untyped)
  rw [Table.planFor, present, untyped]
  rfl

/-- Every plan creates a missing table or alters an existing one, all of whose columns
have a type. -/
theorem planFor_cases (mapped : declared.columns = .ok columns) {live : List LiveColumn}
    {plan : Plan} (planned : declared.planFor live = .ok plan) :
    (live = [] ∧ plan = .create ⟨declared.name, columns, declared.primaryKey,
      declared.uniqueFields, declared.references⟩) ∨
    (live ≠ [] ∧ (∀ column ∈ live, Text.trim column.type ≠ "") ∧
      plan = .alter declared.name (declared.operationsFor columns live)) := by
  cases untyped : live.find? (fun other => Text.trim other.type == "") with
  | some column =>
      rw [planFor_eq_error untyped] at planned
      contradiction
  | none =>
      have typed : ∀ column ∈ live, Text.trim column.type ≠ "" := by
        simpa using List.find?_eq_none.1 untyped
      by_cases missing : live = []
      · subst missing
        rw [planFor_nil mapped] at planned
        cases planned
        exact .inl ⟨rfl, rfl⟩
      · rw [planFor_eq_alter mapped missing typed] at planned
        cases planned
        exact .inr ⟨missing, typed, rfl⟩

/-- A table carries out the operations for its own description. -/
theorem apply_operationsFor (coherent : table.Coherent) (mapped : declared.columns = .ok columns)
    (name : String) :
    table.apply (.alter name (declared.operationsFor columns table.describe)) =
      .ok (table.altered declared columns) := by
  have after := (realizes_altered coherent mapped).coherent
  have noneStranded : (table.altered declared columns).foreign.find?
      (fun name => !(table.altered declared columns).hasColumn name) = none := by
    rw [List.find?_eq_none]
    intro name member
    simpa using after.foreignColumn name member
  rw [apply, applyOperations_operationsFor coherent mapped]
  simp only [bind, Except.bind, noneStranded]
  rfl

/-- A table carries out the plan for its own description, and realizes the
declaration afterwards. -/
theorem apply_planFor (coherent : table.Coherent) (mapped : declared.columns = .ok columns)
    {plan : Plan} (planned : declared.planFor table.describe = .ok plan) :
    ∃ after, table.apply plan = .ok after ∧ after.Realizes declared columns ∧
      after.columnNames = table.columnNames.filter (· ∈ declared.fields.map (·.1)) ++
        (declared.fields.map (·.1)).filter (· ∉ table.columnNames) := by
  rcases planFor_cases mapped planned with ⟨missing, rfl⟩ | ⟨_, _, rfl⟩
  · have noColumns : table.columns = [] := by simpa [describe_eq_map] using missing
    refine ⟨created declared columns, ?_, realizes_created mapped, ?_⟩
    · simp [apply, noColumns, created]
    · rw [columnNames_created mapped]
      simp [columnNames, noColumns]
  · exact ⟨table.altered declared columns, apply_operationsFor coherent mapped _,
      realizes_altered coherent mapped, columnNames_altered mapped⟩

theorem reconcile_ok (coherent : table.Coherent) (declared : Table) :
    ∃ after, table.reconcile declared = .ok after ∧ after.Coherent := by
  rcases declared.exists_columns with ⟨columns, mapped⟩
  unfold reconcile
  cases planned : declared.planFor table.describe with
  | error refusal => exact ⟨table, rfl, coherent⟩
  | ok plan =>
      rcases apply_planFor coherent mapped planned with ⟨after, applied, realizes, _⟩
      exact ⟨after, applied, realizes.coherent⟩

end Steps

/-! ## Runs -/

theorem reconcileAll_ok {table : PhysicalTable} (coherent : table.Coherent)
    (declarations : List Table) :
    ∃ after, table.reconcileAll declarations = .ok after ∧ after.Coherent := by
  induction declarations generalizing table with
  | nil => exact ⟨table, rfl, coherent⟩
  | cons declared rest inductionHypothesis =>
      rcases reconcile_ok coherent declared with ⟨next, stepped, nextCoherent⟩
      rcases inductionHypothesis nextCoherent with ⟨after, ran, afterCoherent⟩
      refine ⟨after, ?_, afterCoherent⟩
      rw [reconcileAll, stepped]
      exact ran

/-- No plan for a table's own description is ever refused. Whatever a table starts
from and whatever is declared in turn, the run goes through, the table stays coherent,
and any plan that a further declaration leads to can be carried out. -/
theorem evolution_never_refused {start : PhysicalTable} (initial : start.Initial)
    (declarations : List Table) :
    ∃ table, start.reconcileAll declarations = .ok table ∧ table.Coherent ∧
      ∀ (declared : Table) (plan : Plan), declared.planFor table.describe = .ok plan →
        ∃ after, table.apply plan = .ok after := by
  rcases reconcileAll_ok initial.coherent declarations with ⟨table, ran, coherent⟩
  refine ⟨table, ran, coherent, ?_⟩
  intro declared plan planned
  rcases declared.exists_columns with ⟨columns, mapped⟩
  rcases apply_planFor coherent mapped planned with ⟨after, applied, _⟩
  exact ⟨after, applied⟩

def invoices : Table where
  name := "invoices"
  fields := [
    ("id", {
      kind := .unsignedInt
      maxSize := some (.ofInt 4294967295)
      primaryKey := true
      autoIncrement := true }),
    ("code", { kind := .string, maxSize := some (.ofInt 20), unique := true }),
    ("customer", {
      kind := .unsignedInt
      maxSize := some (.ofInt 65535)
      reference := some {
        target := ⟨"customers", "id", some .cascade, none⟩
        shape := some ⟨.unsignedInt, some (.ofInt 65535), none⟩ } }),
    ("state", {
      kind := .string
      maxSize := some (.ofInt 10)
      default := some (.text "open") })]
  accepted := by decide +kernel

/-- Invoices that are known by their code alone. -/
def plainInvoices : Table where
  name := "invoices"
  fields := [
    ("code", { kind := .string, maxSize := some (.ofInt 20), primaryKey := true }),
    ("state", { kind := .string, maxSize := some (.ofInt 10), unique := true })]
  accepted := by decide +kernel

/-- A table from before either declaration: its key, index and constraint stand on
other columns. -/
def oldInvoices : List LiveColumn :=
  [⟨"code", "VARCHAR(20)", true, some .primary, true, none, ""⟩,
    ⟨"remark", "text", true, some .unique, true, some "-", ""⟩,
    ⟨"customer", "int(5) unsigned", false, some .unique, false, none, ""⟩]

/-- Both declarations in turn reach the old table and one that does not exist. -/
theorem invoices_evolve :
    (∃ table, (ofLive oldInvoices).reconcileAll [invoices, plainInvoices, invoices] = .ok table ∧
      table.Coherent) ∧
    ∃ table, missing.reconcileAll [plainInvoices, invoices] = .ok table ∧ table.Coherent := by
  obtain ⟨evolved, ran, coherent, _⟩ :=
    evolution_never_refused (.described oldInvoices (by decide))
      [invoices, plainInvoices, invoices]
  obtain ⟨grown, grew, grownCoherent, _⟩ :=
    evolution_never_refused .missing [plainInvoices, invoices]
  exact ⟨⟨evolved, ran, coherent⟩, ⟨grown, grew, grownCoherent⟩⟩

end PhysicalTable

end SchemaKeeper
