import Mathlib.Data.List.Nodup
import SchemaKeeper.PhysicalTable

/-!
Contract: what operations of one kind do to a table in a row.

A plan lists the operations of each kind together, so the effect of a plan is the
effect of a few such rows. Each statement here asks for just the state that keeps
the table from refusing, and gives the whole table afterwards.

Owns: the effect of rows of operations, kind by kind.

Does not own: which operations a plan has.
-/

namespace SchemaKeeper.PhysicalTable

/-! ## Rows -/

theorem applyOperations_append {table middle : PhysicalTable} {first : List Operation}
    (reached : table.applyOperations first = .ok middle) (second : List Operation) :
    table.applyOperations (first ++ second) = middle.applyOperations second := by
  induction first generalizing table with
  | nil =>
      cases reached
      rfl
  | cons operation rest inductionHypothesis =>
      rw [applyOperations] at reached
      rw [List.cons_append, applyOperations]
      cases changed : table.applyOperation operation with
      | error refusal =>
          rw [changed] at reached
          contradiction
      | ok next =>
          rw [changed] at reached
          exact inductionHypothesis reached

theorem applyOperations_cons {table next : PhysicalTable} {operation : Operation}
    (changed : table.applyOperation operation = .ok next) (rest : List Operation) :
    table.applyOperations (operation :: rest) = next.applyOperations rest := by
  rw [applyOperations, changed]
  rfl

def columnNames (table : PhysicalTable) : List String :=
  table.columns.map (·.name)

@[simp] theorem hasColumn_iff (table : PhysicalTable) (name : String) :
    table.hasColumn name = true ↔ name ∈ table.columnNames := by
  simp [hasColumn, columnNames]

private theorem filter_notMem_cons (names rest : List String) (name : String) :
    (names.filter (· != name)).filter (· ∉ rest) = names.filter (· ∉ name :: rest) := by
  rw [List.filter_filter]
  apply List.filter_congr
  intro other _
  simp [Bool.and_comm, bne, Bool.beq_eq_decide_eq]

/-! ## Columns -/

/-- Dropping columns takes them and their keys away; constraints stay. -/
theorem applyOperations_dropColumn {table : PhysicalTable} {names : List String}
    (distinct : names.Nodup) (present : ∀ name ∈ names, name ∈ table.columnNames) :
    table.applyOperations (names.map .dropColumn) = .ok { table with
      columns := table.columns.filter fun column => column.name ∉ names
      primary := table.primary.filter (· ∉ names)
      unique := table.unique.filter (· ∉ names) } := by
  induction names generalizing table with
  | nil => simp [applyOperations]
  | cons name rest inductionHypothesis =>
      rcases List.nodup_cons.1 distinct with ⟨fresh, restDistinct⟩
      have here : table.hasColumn name = true :=
        (hasColumn_iff table name).2 (present name (by simp))
      rw [List.map_cons, applyOperations_cons (by rw [applyOperation, if_pos here])]
      rw [inductionHypothesis restDistinct]
      · congr 2
        · rw [List.filter_filter]
          apply List.filter_congr
          intro column _
          simp [Bool.and_comm, bne, Bool.beq_eq_decide_eq]
        · exact filter_notMem_cons _ _ _
        · exact filter_notMem_cons _ _ _
      · intro other member
        have otherPresent := present other (List.mem_cons_of_mem name member)
        have different : other ≠ name := fun same => fresh (same ▸ member)
        rcases List.mem_map.1 otherPresent with ⟨column, columnMember, rfl⟩
        exact List.mem_map.2 ⟨column, by simp [columnMember, different], rfl⟩

/-- Adding columns puts them behind the others. -/
theorem applyOperations_addColumn {table : PhysicalTable} {entries : List (String × Column)}
    (distinct : (entries.map (·.1)).Nodup)
    (absent : ∀ entry ∈ entries, entry.1 ∉ table.columnNames) :
    table.applyOperations (entries.map fun entry => .addColumn entry.1 entry.2) =
      .ok { table with
        columns := table.columns ++ entries.map fun entry => liveColumn entry.1 entry.2 } := by
  induction entries generalizing table with
  | nil => simp [applyOperations]
  | cons entry rest inductionHypothesis =>
      rw [List.map_cons, List.nodup_cons] at distinct
      have free : ¬table.hasColumn entry.1 = true := by
        rw [hasColumn_iff]
        exact absent entry (by simp)
      rw [List.map_cons, applyOperations_cons (by rw [applyOperation, if_neg free])]
      rw [inductionHypothesis distinct.2]
      · simp
      · intro other member
        have different : other.1 ≠ entry.1 := fun same =>
          distinct.1 (same ▸ List.mem_map_of_mem member)
        have otherAbsent := absent other (List.mem_cons_of_mem entry member)
        simpa [columnNames, liveColumn, different] using otherAbsent

/-- A column after the columns of a list were redefined. -/
def redefined (entries : List (String × Column)) (column : LiveColumn) : LiveColumn :=
  match entries.lookup column.name with
  | some definition => liveColumn column.name definition
  | none => column

@[simp] theorem redefined_name (entries : List (String × Column)) (column : LiveColumn) :
    (redefined entries column).name = column.name := by
  unfold redefined
  split <;> rfl

/-- Where names are distinct, replacing the first column of a name replaces it
wherever it stands. -/
theorem replaceColumn_eq_map {name : String} {replacement : LiveColumn}
    {columns : List LiveColumn} (distinct : (columns.map (·.name)).Nodup) :
    replaceColumn name replacement columns =
      columns.map fun column => if column.name = name then replacement else column := by
  induction columns with
  | nil => rfl
  | cons column rest inductionHypothesis =>
      rw [List.map_cons, List.nodup_cons] at distinct
      rw [replaceColumn, List.map_cons]
      by_cases same : column.name = name
      · have others : ∀ other ∈ rest, other.name ≠ name := fun other member otherSame =>
          distinct.1 (same.trans otherSame.symm ▸ List.mem_map_of_mem member)
        have untouched :
            rest.map (fun other => if other.name = name then replacement else other) =
              rest.map id :=
          List.map_congr_left fun other member => if_neg (others other member)
        rw [if_pos same, if_pos same, untouched, List.map_id]
      · rw [if_neg same, if_neg same, inductionHypothesis distinct.2]

private theorem names_replaceColumn {columns : List LiveColumn}
    (distinct : (columns.map (·.name)).Nodup) (name : String) (definition : Column) :
    (replaceColumn name (liveColumn name definition) columns).map (·.name) =
      columns.map (·.name) := by
  rw [replaceColumn_eq_map distinct, List.map_map]
  apply List.map_congr_left
  intro column _
  rw [Function.comp_apply]
  split
  next same => exact same.symm
  next => rfl

/-- Changing columns redefines them where they stand. -/
theorem applyOperations_changeColumn {table : PhysicalTable} {entries : List (String × Column)}
    (tableDistinct : table.columnNames.Nodup) (distinct : (entries.map (·.1)).Nodup)
    (present : ∀ entry ∈ entries, entry.1 ∈ table.columnNames) :
    table.applyOperations (entries.map fun entry => .changeColumn entry.1 entry.2) =
      .ok { table with columns := table.columns.map (redefined entries) } := by
  induction entries generalizing table with
  | nil =>
      have unchanged : redefined [] = id := by
        funext column
        rfl
      simp [applyOperations, unchanged]
  | cons entry rest inductionHypothesis =>
      rw [List.map_cons, List.nodup_cons] at distinct
      have here : table.hasColumn entry.1 = true :=
        (hasColumn_iff table entry.1).2 (present entry (by simp))
      rw [List.map_cons, applyOperations_cons (by rw [applyOperation, if_pos here])]
      have sameNames := names_replaceColumn tableDistinct entry.1 entry.2
      rw [inductionHypothesis (by rw [columnNames, sameNames]; exact tableDistinct) distinct.2
        (fun other member => by
          rw [columnNames, sameNames]
          exact present other (List.mem_cons_of_mem entry member))]
      congr 2
      rw [replaceColumn_eq_map tableDistinct, List.map_map]
      apply List.map_congr_left
      intro column _
      rw [Function.comp_apply]
      rcases entry with ⟨name, definition⟩
      by_cases same : column.name = name
      · have unlisted : rest.lookup name = none := by
          rw [List.lookup_eq_none_iff]
          intro other member
          have different : name ≠ other.1 := fun equal =>
            distinct.1 (List.mem_map.2 ⟨other, member, equal.symm⟩)
          simpa using different
        rw [if_pos same]
        simp [redefined, liveColumn, same, unlisted]
      · rw [if_neg same]
        have different : (column.name == name) = false := by simpa using same
        simp [redefined, List.lookup_cons, different]

/-! ## Indexes and constraints -/

theorem applyOperations_dropUniqueIndex {table : PhysicalTable} {names : List String}
    (distinct : names.Nodup) (present : ∀ name ∈ names, name ∈ table.unique) :
    table.applyOperations (names.map .dropUniqueIndex) =
      .ok { table with unique := table.unique.filter (· ∉ names) } := by
  induction names generalizing table with
  | nil => simp [applyOperations]
  | cons name rest inductionHypothesis =>
      rcases List.nodup_cons.1 distinct with ⟨fresh, restDistinct⟩
      have here : table.unique.contains name = true := by simpa using present name (by simp)
      rw [List.map_cons, applyOperations_cons (by rw [applyOperation, if_pos here])]
      rw [inductionHypothesis restDistinct]
      · rw [filter_notMem_cons]
      · intro other member
        have different : other ≠ name := fun same => fresh (same ▸ member)
        simp [present other (List.mem_cons_of_mem name member), different]

theorem applyOperations_addUniqueIndex {table : PhysicalTable} {names : List String}
    (distinct : names.Nodup) (absent : ∀ name ∈ names, name ∉ table.unique) :
    table.applyOperations (names.map .addUniqueIndex) =
      .ok { table with unique := table.unique ++ names } := by
  induction names generalizing table with
  | nil => simp [applyOperations]
  | cons name rest inductionHypothesis =>
      rcases List.nodup_cons.1 distinct with ⟨fresh, restDistinct⟩
      have free : ¬table.unique.contains name = true := by simpa using absent name (by simp)
      rw [List.map_cons, applyOperations_cons (by rw [applyOperation, if_neg free])]
      rw [inductionHypothesis restDistinct]
      · simp
      · intro other member
        have different : other ≠ name := fun same => fresh (same ▸ member)
        simp [absent other (List.mem_cons_of_mem name member), different]

theorem applyOperations_dropForeignKey {table : PhysicalTable} {names : List String}
    (distinct : names.Nodup) (present : ∀ name ∈ names, name ∈ table.foreign) :
    table.applyOperations (names.map .dropForeignKey) =
      .ok { table with foreign := table.foreign.filter (· ∉ names) } := by
  induction names generalizing table with
  | nil => simp [applyOperations]
  | cons name rest inductionHypothesis =>
      rcases List.nodup_cons.1 distinct with ⟨fresh, restDistinct⟩
      have here : table.foreign.contains name = true := by simpa using present name (by simp)
      rw [List.map_cons, applyOperations_cons (by rw [applyOperation, if_pos here])]
      rw [inductionHypothesis restDistinct]
      · rw [filter_notMem_cons]
      · intro other member
        have different : other ≠ name := fun same => fresh (same ▸ member)
        simp [present other (List.mem_cons_of_mem name member), different]

theorem applyOperations_addForeignKey {table : PhysicalTable}
    {entries : List (String × ReferenceTarget)} (distinct : (entries.map (·.1)).Nodup)
    (absent : ∀ entry ∈ entries, entry.1 ∉ table.foreign) :
    table.applyOperations (entries.map fun entry => .addForeignKey entry.1 entry.2) =
      .ok { table with foreign := table.foreign ++ entries.map (·.1) } := by
  induction entries generalizing table with
  | nil => simp [applyOperations]
  | cons entry rest inductionHypothesis =>
      rw [List.map_cons, List.nodup_cons] at distinct
      have free : ¬table.foreign.contains entry.1 = true := by
        simpa using absent entry (by simp)
      rw [List.map_cons, applyOperations_cons (by rw [applyOperation, if_neg free])]
      rw [inductionHypothesis distinct.2]
      · simp
      · intro other member
        have different : other.1 ≠ entry.1 := fun same =>
          distinct.1 (same ▸ List.mem_map_of_mem member)
        simp [absent other (List.mem_cons_of_mem entry member), different]

end SchemaKeeper.PhysicalTable
