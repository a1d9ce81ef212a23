import SchemaKeeper.Proofs.Convergence

/-!
Contract: what is left to do after a plan.

The next plan for the same declaration makes the constraints anew, which every plan
does. It changes exactly the columns whose default reads as `nan`, since that number
never equals itself, and does nothing else. So plans settle exactly for declarations
without such a default.

Owns: the operations for the table that a plan gave, and when there are none.
-/

namespace SchemaKeeper

/-- Operations that only make the given constraints anew: each one is dropped, in any
order, before they are added with their targets. -/
def Operation.Renew (references : List (String × ReferenceTarget))
    (operations : List Operation) : Prop :=
  ∃ dropped : List String, dropped.Perm (references.map (·.1)) ∧
    operations = dropped.map .dropForeignKey ++
      references.map fun entry => .addForeignKey entry.1 entry.2

/-- Without constraints there is nothing to make anew. -/
theorem Operation.renew_nil_iff (operations : List Operation) :
    Renew [] operations ↔ operations = [] := by
  constructor
  · rintro ⟨dropped, sameNames, rfl⟩
    rw [List.map_nil, List.perm_nil] at sameNames
    rw [sameNames]
    rfl
  · rintro rfl
    exact ⟨[], .nil, rfl⟩

namespace PhysicalTable

section Operations

variable {table : PhysicalTable} {declared : Table} {columns : List (String × Column)}

private theorem Realizes.primaryKeyPhase (realizes : table.Realizes declared columns) :
    Plan.primaryKeyPhase declared.primaryKey (Plan.keyedNames .primary table.describe) = [] := by
  rw [Plan.primaryKeyPhase_eq_nil_iff]
  intro name
  rw [mem_keyedNames_primary realizes.coherent, realizes.primary]

private theorem Realizes.droppedColumns (realizes : table.Realizes declared columns)
    (mapped : declared.columns = .ok columns) :
    Plan.droppedColumns columns table.describe = [] := by
  rw [Plan.droppedColumns_eq_nil_iff, names_describe, Table.columnNames mapped]
  intro name
  exact (realizes.names name).1

/-- The columns to be changed are those whose default reads as `nan`. -/
private theorem Realizes.changedColumns (realizes : table.Realizes declared columns)
    (mapped : declared.columns = .ok columns) :
    Plan.changedColumns columns table.describe =
      columns.filter fun entry => Value.ReadsAsNaN entry.2.default := by
  unfold Plan.changedColumns
  apply List.filter_congr
  intro entry listed
  have present : entry.1 ∈ table.columnNames := by
    rw [realizes.names, ← Table.columnNames mapped]
    exact List.mem_map_of_mem listed
  rcases List.mem_map.1 present with ⟨column, member, sameName⟩
  rcases entry with ⟨name, definition⟩
  subst sameName
  rw [realizes.coherent.describedColumn? member, Option.any_some, columnAgrees_described]
  by_cases isNaN : Value.ReadsAsNaN definition.default
  · simp [isNaN, Plan.columnAgrees_of_readsAsNaN isNaN]
  · have agrees : Plan.columnAgrees definition column = true := by
      rcases realizes.defined column member definition listed with agrees | same
      · exact agrees
      · rw [same]
        exact Plan.columnAgrees_liveColumn _ isNaN
    simp [isNaN, agrees]

private theorem Realizes.uniquePhase (realizes : table.Realizes declared columns)
    (dropped : List String) :
    Plan.uniquePhase declared.uniqueFields (Plan.keyedNames .unique table.describe) dropped =
      [] := by
  have members : ∀ name, name ∈ Plan.keyedNames .unique table.describe ↔
      name ∈ declared.uniqueFields := by
    intro name
    rw [mem_keyedNames_unique realizes.coherent, realizes.unique]
  rw [Plan.uniquePhase_eq_nil_iff]
  constructor
  · intro name described
    exact .inl ((members name).1 described)
  · intro name
    exact (members name).2

/-- Between the same names nothing is removed and nothing is new. -/
private theorem foreignKeyPhase_of_same {references : List (String × ReferenceTarget)}
    {described : List String}
    (same : ∀ name, name ∈ described ↔ name ∈ references.map (·.1)) :
    Plan.foreignKeyPhase references described =
      described.map .dropForeignKey ++
        references.map fun entry => .addForeignKey entry.1 entry.2 := by
  have everyDescribed : ∀ name ∈ described, (references.map (·.1)).contains name = true := by
    intro name member
    rw [List.contains_iff_mem]
    exact (same name).1 member
  have everyDeclared : ∀ entry ∈ references, described.contains entry.1 = true := by
    intro entry member
    rw [List.contains_iff_mem]
    exact (same entry.1).2 (List.mem_map_of_mem member)
  have noneRemoved : (described.filter fun name => !(references.map (·.1)).contains name) =
      [] := by
    rw [List.filter_eq_nil_iff]
    intro name member
    simp only [everyDescribed name member, Bool.not_true, Bool.false_eq_true, not_false_eq_true]
  have noneAdded : (references.filter fun entry => !described.contains entry.1) = [] := by
    rw [List.filter_eq_nil_iff]
    intro entry member
    simp only [everyDeclared entry member, Bool.not_true, Bool.false_eq_true, not_false_eq_true]
  unfold Plan.foreignKeyPhase
  dsimp only
  rw [noneRemoved, noneAdded, List.filter_eq_self.2 everyDescribed,
    List.filter_eq_self.2 everyDeclared, List.nil_append, List.nil_append]

private theorem Realizes.foreignKeyPhase (realizes : table.Realizes declared columns) :
    Operation.Renew declared.references (Plan.foreignKeyPhase declared.references
      ((table.describe.filter (·.foreignKey)).map (·.name))) := by
  have members : ∀ name, name ∈ (table.describe.filter (·.foreignKey)).map (·.name) ↔
      name ∈ declared.references.map (·.1) := by
    intro name
    rw [foreignNames_describe, mem_filter_columnNames realizes.coherent.foreignColumn,
      realizes.foreign]
  refine ⟨_, ?_, foreignKeyPhase_of_same members⟩
  rw [List.perm_ext_iff_of_nodup _ declared.nodup_references]
  · exact members
  · rw [foreignNames_describe]
    exact realizes.coherent.columns.filter _

/-- What a further plan does: it changes the columns whose default reads as `nan` and
makes the constraints anew. -/
theorem Realizes.operationsFor (realizes : table.Realizes declared columns)
    (mapped : declared.columns = .ok columns) :
    ∃ renewed, Operation.Renew declared.references renewed ∧
      declared.operationsFor columns table.describe =
        ((columns.filter fun entry => Value.ReadsAsNaN entry.2.default).map fun entry =>
          .changeColumn entry.1 entry.2) ++ renewed := by
  refine ⟨_, realizes.foreignKeyPhase, ?_⟩
  unfold Table.operationsFor
  dsimp only
  rw [realizes.primaryKeyPhase, realizes.droppedColumns mapped, Plan.addPhase_eq_map,
    realizes.noneMissing mapped, Plan.changePhase_eq_map, realizes.changedColumns mapped,
    realizes.uniquePhase, Table.references_columns mapped]
  simp only [List.map_nil, List.nil_append, List.append_nil]

/-- A further plan only makes the constraints anew unless there is a default that
reads as `nan`. -/
theorem Realizes.renew_iff (realizes : table.Realizes declared columns)
    (mapped : declared.columns = .ok columns) :
    Operation.Renew declared.references (declared.operationsFor columns table.describe) ↔
      ∀ entry ∈ declared.fields, ¬Value.ReadsAsNaN entry.2.default := by
  rcases realizes.operationsFor mapped with ⟨renewed, renews, operations⟩
  rw [operations]
  constructor
  · rintro ⟨dropped, _, same⟩ ⟨name, field⟩ listed isNaN
    obtain ⟨definition, columnListed, fieldMapped⟩ :=
      Table.exists_column_of_field mapped listed
    rw [← (Column.attributes_of_ofField fieldMapped).2.2.1] at isNaN
    have changed : (name, definition) ∈
        columns.filter fun entry => Value.ReadsAsNaN entry.2.default := by
      rw [List.mem_filter, decide_eq_true_eq]
      exact ⟨columnListed, isNaN⟩
    have changes : Operation.changeColumn name definition ∈
        ((columns.filter fun entry => Value.ReadsAsNaN entry.2.default).map fun entry =>
          .changeColumn entry.1 entry.2) ++ renewed :=
      List.mem_append_left _ (List.mem_map.2 ⟨_, changed, rfl⟩)
    rw [same] at changes
    simp at changes
  · intro ordered
    have noneChanged : (columns.filter fun entry => Value.ReadsAsNaN entry.2.default) = [] := by
      rw [List.filter_eq_nil_iff]
      intro entry listed
      rcases Table.exists_field_of_column mapped listed with ⟨field, fieldListed, fieldMapped⟩
      rw [decide_eq_true_eq, (Column.attributes_of_ofField fieldMapped).2.2.1]
      exact ordered _ fieldListed
    rw [noneChanged]
    exact renews

end Operations

/-! ## Settled declarations -/

/-- Plans settle exactly for declarations without a default that reads as `nan`: then
the next plan only makes the constraints anew, and is empty if there are none. -/
theorem plan_settles_iff {start : PhysicalTable} (initial : start.Initial)
    (history : List Table) (declared : Table) :
    ∃ before, start.reconcileAll history = .ok before ∧
      ∀ plan, declared.planFor before.describe = .ok plan →
        ∃ after operations, before.apply plan = .ok after ∧
          declared.planFor after.describe = .ok (.alter declared.name operations) ∧
          (Operation.Renew declared.references operations ↔
            ∀ entry ∈ declared.fields, ¬Value.ReadsAsNaN entry.2.default) ∧
          (declared.references = [] → ((Plan.alter declared.name operations).isEmpty = true ↔
            ∀ entry ∈ declared.fields, ¬Value.ReadsAsNaN entry.2.default)) := by
  rcases reconcileAll_ok initial.coherent history with ⟨before, ran, coherent⟩
  refine ⟨before, ran, ?_⟩
  intro plan planned
  rcases declared.exists_columns with ⟨columns, mapped⟩
  rcases apply_planFor coherent mapped planned with ⟨after, applied, realizes, _⟩
  have settles := realizes.renew_iff mapped
  refine ⟨after, _, applied, realizes.planFor mapped, settles, ?_⟩
  intro noReferences
  rw [noReferences, Operation.renew_nil_iff] at settles
  rw [← settles, Plan.isEmpty, List.isEmpty_iff]

/-- Invoices settle once they have been created. -/
theorem invoices_settle :
    ∃ creation after operations, invoices.planFor missing.describe = .ok creation ∧
      missing.apply creation = .ok after ∧
      invoices.planFor after.describe = .ok (.alter "invoices" operations) ∧
      Operation.Renew invoices.references operations := by
  rcases invoices.exists_columns with ⟨columns, mapped⟩
  rcases plan_settles_iff .missing [] invoices with ⟨before, ran, settles⟩
  cases ran
  have planned := planFor_nil mapped
  rcases settles _ planned with ⟨after, operations, applied, next, renews, _⟩
  exact ⟨_, after, operations, planned, applied, next, renews.2 (by decide +kernel)⟩

/-- Labels whose code is unknown until it is given. -/
def labels : Table where
  name := "labels"
  fields := [
    ("code", { kind := .string, maxSize := some (.ofInt 20), default := some (.text "nan") })]
  accepted := by decide +kernel

/-- Labels have no constraint, and the plan after their creation changes a column. -/
theorem labels_never_settle :
    labels.references = [] ∧
    ∃ creation after operations, labels.planFor missing.describe = .ok creation ∧
      missing.apply creation = .ok after ∧
      labels.planFor after.describe = .ok (.alter "labels" operations) ∧
      (Plan.alter "labels" operations).isEmpty = false := by
  rcases labels.exists_columns with ⟨columns, mapped⟩
  have realizes := realizes_created mapped
  refine ⟨rfl, _, _, _, planFor_nil mapped, rfl, realizes.planFor mapped, ?_⟩
  rw [Plan.isEmpty, Bool.eq_false_iff, Ne, List.isEmpty_iff]
  intro settled
  have ordered := (realizes.renew_iff mapped).1 (settled ▸ ⟨[], .nil, rfl⟩)
  have unknown : ∃ entry ∈ labels.fields, Value.ReadsAsNaN entry.2.default := by decide +kernel
  rcases unknown with ⟨entry, listed, isNaN⟩
  exact ordered entry listed isNaN

end PhysicalTable

end SchemaKeeper
