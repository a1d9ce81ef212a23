import SchemaKeeper.Proofs.Coherence

/-!
Contract: what each phase of a plan does to the table that it was made for.

A phase compares declared names with described ones and acts on the difference, so
its operations fit the table as long as the described names are still those of the
table when the phase begins.

Owns: when a phase has nothing to do, the effect of the key, index and constraint phases, and
of the phases that bring the columns in line.
-/

namespace SchemaKeeper

namespace Plan

theorem sameMembers_iff (left right : List String) :
    sameMembers left right = true ↔ ∀ name, name ∈ left ↔ name ∈ right := by
  simp only [sameMembers, Bool.and_eq_true, List.all_eq_true, List.contains_iff_mem]
  exact ⟨fun both name => ⟨both.1 name, both.2 name⟩,
    fun same => ⟨fun name => (same name).1, fun name => (same name).2⟩⟩

def changedColumns (columns : List (String × Column)) (live : List LiveColumn) :
    List (String × Column) :=
  columns.filter fun entry =>
    (describedColumn? live entry.1).any fun described => !columnAgrees entry.2 described

theorem nodup_changedColumns {columns : List (String × Column)}
    (distinct : (columns.map (·.1)).Nodup) (live : List LiveColumn) :
    ((changedColumns columns live).map (·.1)).Nodup :=
  (List.filter_sublist.map _).nodup distinct

theorem changePhase_eq_map (columns : List (String × Column)) (live : List LiveColumn) :
    changePhase columns live =
      (changedColumns columns live).map fun entry => .changeColumn entry.1 entry.2 :=
  rfl

theorem mem_droppedColumns_iff (columns : List (String × Column)) (live : List LiveColumn)
    (name : String) :
    name ∈ droppedColumns columns live ↔
      name ∈ live.map (·.name) ∧ name ∉ columns.map (·.1) := by
  simp only [droppedColumns, List.mem_filter, List.contains_eq_mem, Bool.not_eq_true',
    decide_eq_false_iff_not]

theorem addPhase_eq_map (columns : List (String × Column)) (live : List LiveColumn) :
    addPhase columns live =
      (columns.filter fun entry => entry.1 ∉ live.map (·.name)).map
        fun entry => .addColumn entry.1 entry.2 := by
  unfold addPhase
  congr 1
  apply List.filter_congr
  intro entry _
  rw [Bool.eq_iff_iff, Option.isNone_iff_eq_none, describedColumn?_eq_none_iff,
    decide_eq_true_eq]

theorem primaryKeyPhase_eq_nil_iff (declared described : List String) :
    primaryKeyPhase declared described = [] ↔ ∀ name, name ∈ declared ↔ name ∈ described := by
  rw [← sameMembers_iff]
  unfold primaryKeyPhase
  by_cases same : sameMembers declared described = true
  · rw [if_pos same]
    exact iff_of_true rfl same
  · rw [if_neg same]
    refine iff_of_false ?_ same
    -- Lists that are both empty have the same members, so one of them is not.
    intro none
    apply same
    rw [sameMembers_iff]
    cases declared with
    | cons => simp at none
    | nil =>
        cases described with
        | cons => simp at none
        | nil => simp

theorem droppedColumns_eq_nil_iff (columns : List (String × Column)) (live : List LiveColumn) :
    droppedColumns columns live = [] ↔
      ∀ name ∈ live.map (·.name), name ∈ columns.map (·.1) := by
  rw [List.eq_nil_iff_forall_not_mem]
  simp only [mem_droppedColumns_iff, not_and, not_not]

theorem addPhase_eq_nil_iff (columns : List (String × Column)) (live : List LiveColumn) :
    addPhase columns live = [] ↔ ∀ name ∈ columns.map (·.1), name ∈ live.map (·.name) := by
  rw [addPhase_eq_map, List.map_eq_nil_iff, List.filter_eq_nil_iff, List.forall_mem_map]
  simp only [decide_eq_true_eq, not_not]

theorem uniquePhase_eq_nil_iff (declared described dropped : List String) :
    uniquePhase declared described dropped = [] ↔
      (∀ name ∈ described, name ∈ declared ∨ name ∈ dropped) ∧
        ∀ name ∈ declared, name ∈ described := by
  unfold uniquePhase
  rw [List.append_eq_nil_iff, List.map_eq_nil_iff, List.map_eq_nil_iff, List.filter_eq_nil_iff,
    List.filter_eq_nil_iff]
  simp only [List.contains_eq_mem, Bool.and_eq_true, Bool.not_eq_true', decide_eq_false_iff_not,
    not_and_or, not_not]

end Plan

namespace PhysicalTable

/-! ## Columns -/

/-- The columns of a table after those that are not declared went and those that were
missing came. -/
def extended (columns : List (String × Column)) (live present : List LiveColumn) :
    List LiveColumn :=
  present.filter (fun column => column.name ∈ columns.map (·.1)) ++
    (columns.filter fun entry => entry.1 ∉ live.map (·.name)).map
      fun entry => liveColumn entry.1 entry.2

/-- The surviving columns stay in their order, and new ones follow as declared. -/
theorem names_extended (columns : List (String × Column)) (live present : List LiveColumn) :
    (extended columns live present).map (·.name) =
      (present.map (·.name)).filter (· ∈ columns.map (·.1)) ++
        (columns.map (·.1)).filter (· ∉ live.map (·.name)) := by
  unfold extended
  rw [List.map_append, List.filter_map, List.filter_map, List.map_map]
  rfl

theorem nodup_extended {columns : List (String × Column)} {live present : List LiveColumn}
    (columnsDistinct : (columns.map (·.1)).Nodup)
    (described : live.map (·.name) = present.map (·.name))
    (distinct : (present.map (·.name)).Nodup) :
    ((extended columns live present).map (·.name)).Nodup := by
  rw [names_extended, described]
  refine (distinct.filter _).append (columnsDistinct.filter _) ?_
  intro name survives comes
  simp only [List.mem_filter, decide_eq_true_eq] at survives comes
  exact comes.2 survives.1

/-- The columns of a table after a whole plan: aligned with the declared ones. -/
def aligned (columns : List (String × Column)) (live present : List LiveColumn) :
    List LiveColumn :=
  (extended columns live present).map (redefined (Plan.changedColumns columns live))

theorem names_aligned (columns : List (String × Column)) (live present : List LiveColumn) :
    (aligned columns live present).map (·.name) =
      (extended columns live present).map (·.name) := by
  unfold aligned
  rw [List.map_map]
  apply List.map_congr_left
  intro column _
  exact redefined_name _ column

private theorem applyOperations_dropPhase {table : PhysicalTable}
    {columns : List (String × Column)} {live : List LiveColumn}
    (described : live.map (·.name) = table.columnNames) (distinct : table.columnNames.Nodup) :
    table.applyOperations ((Plan.droppedColumns columns live).map .dropColumn) =
      .ok { table with
        columns := table.columns.filter fun column => column.name ∈ columns.map (·.1)
        primary := table.primary.filter (· ∉ Plan.droppedColumns columns live)
        unique := table.unique.filter (· ∉ Plan.droppedColumns columns live) } := by
  rw [applyOperations_dropColumn]
  · congr 2
    apply List.filter_congr
    intro column member
    have named : column.name ∈ live.map (·.name) := by
      rw [described]
      exact List.mem_map_of_mem member
    simp only [Plan.mem_droppedColumns_iff, named]
    simp
  · exact (described ▸ distinct).filter _
  · intro name member
    rw [← described]
    exact ((Plan.mem_droppedColumns_iff columns live name).1 member).1

/-- The column phases align the columns of the table that was described. -/
theorem applyOperations_columnPhases {table : PhysicalTable} {columns : List (String × Column)}
    {live : List LiveColumn} (columnsDistinct : (columns.map (·.1)).Nodup)
    (described : live.map (·.name) = table.columnNames) (distinct : table.columnNames.Nodup) :
    table.applyOperations ((Plan.droppedColumns columns live).map .dropColumn ++
        Plan.addPhase columns live ++ Plan.changePhase columns live) =
      .ok { table with
        columns := aligned columns live table.columns
        primary := table.primary.filter (· ∉ Plan.droppedColumns columns live)
        unique := table.unique.filter (· ∉ Plan.droppedColumns columns live) } := by
  have added (start : PhysicalTable)
      (survivors : start.columns =
        table.columns.filter fun column => column.name ∈ columns.map (·.1)) :
      start.applyOperations (Plan.addPhase columns live) =
        .ok { start with columns := extended columns live table.columns } := by
    rw [Plan.addPhase_eq_map, applyOperations_addColumn
      ((List.filter_sublist.map _).nodup columnsDistinct), survivors]
    · rfl
    · intro entry member present
      have undescribed := (List.mem_filter.1 member).2
      rw [decide_eq_true_eq, described] at undescribed
      rw [columnNames, survivors] at present
      rcases List.mem_map.1 present with ⟨column, columnMember, same⟩
      exact undescribed (List.mem_map.2 ⟨column, (List.mem_filter.1 columnMember).1, same⟩)
  have changed (start : PhysicalTable)
      (present : start.columns = extended columns live table.columns) :
      start.applyOperations (Plan.changePhase columns live) =
        .ok { start with columns := aligned columns live table.columns } := by
    rw [Plan.changePhase_eq_map,
      applyOperations_changeColumn _ (Plan.nodup_changedColumns columnsDistinct live), present]
    · rfl
    · intro entry member
      have listed := List.mem_filter.1 member
      have survives : entry.1 ∈ table.columnNames := by
        rw [← described]
        by_contra undescribed
        have absent := (Plan.describedColumn?_eq_none_iff live entry.1).2 undescribed
        simp [absent] at listed
      rw [columnNames, present, names_extended, List.mem_append, List.mem_filter]
      exact Or.inl ⟨survives, by simpa using ⟨_, listed.1⟩⟩
    · rw [columnNames, present]
      exact nodup_extended columnsDistinct described distinct
  rw [List.append_assoc, applyOperations_append (applyOperations_dropPhase described distinct),
    applyOperations_append (added _ rfl), changed _ rfl]

/-! ## Keys, indexes and constraints -/

/-- The primary key phase leaves a key with the same members alone and puts the
declared one in the place of any other. -/
theorem applyOperations_primaryKeyPhase {table : PhysicalTable} {declared described : List String}
    (members : ∀ name, name ∈ described ↔ name ∈ table.primary) :
    table.applyOperations (Plan.primaryKeyPhase declared described) =
      .ok { table with
        primary := if Plan.sameMembers declared described then table.primary else declared } := by
  unfold Plan.primaryKeyPhase
  by_cases same : Plan.sameMembers declared described = true
  · rw [if_pos same, if_pos same]
    rfl
  · rw [if_neg same, if_neg same]
    have empties : described = [] ↔ table.primary = [] := by
      simp only [List.eq_nil_iff_forall_not_mem, members]
    have dropped : table.applyOperations (if described.isEmpty then [] else [.dropPrimaryKey]) =
        .ok { table with primary := [] } := by
      by_cases none : table.primary = []
      · rw [if_pos (List.isEmpty_iff.2 (empties.2 none))]
        rw [applyOperations, ← none]
      · have present : ¬described.isEmpty = true := by
          rw [List.isEmpty_iff, empties]
          exact none
        rw [if_neg present, applyOperations_cons
          (by rw [applyOperation, if_neg (by rw [List.isEmpty_iff]; exact none)])]
        rfl
    rw [applyOperations_append dropped]
    by_cases none : declared = []
    · subst none
      rfl
    · rw [if_neg (by rw [List.isEmpty_iff]; exact none)]
      rfl

/-- The unique phase leaves an index on the declared names. The names that it drops
no longer are dropped columns, which took their index with them. -/
theorem applyOperations_uniquePhase {table : PhysicalTable}
    {declared described dropped : List String} (declaredDistinct : declared.Nodup)
    (describedDistinct : described.Nodup)
    (members : ∀ name, name ∈ table.unique ↔ name ∈ described ∧ name ∉ dropped) :
    table.applyOperations (Plan.uniquePhase declared described dropped) =
      .ok { table with unique :=
        table.unique.filter (· ∈ declared) ++ declared.filter (· ∉ described) } := by
  unfold Plan.uniquePhase
  have stale : table.applyOperations ((described.filter fun name =>
      !declared.contains name && !dropped.contains name).map .dropUniqueIndex) =
        .ok { table with unique := table.unique.filter (· ∈ declared) } := by
    rw [applyOperations_dropUniqueIndex (describedDistinct.filter _)]
    · congr 2
      apply List.filter_congr
      intro name member
      have both := (members name).1 member
      simp [both.1, both.2]
    · intro name member
      simp only [List.mem_filter, List.contains_eq_mem, Bool.and_eq_true,
        Bool.not_eq_true', decide_eq_false_iff_not] at member
      exact (members name).2 ⟨member.1, member.2.2⟩
  have missing : (declared.filter fun name => !described.contains name) =
      declared.filter (· ∉ described) := by
    apply List.filter_congr
    intro name _
    simp
  rw [applyOperations_append stale, missing,
    applyOperations_addUniqueIndex (declaredDistinct.filter _)]
  intro name member present
  simp only [List.mem_filter, decide_eq_true_eq] at member present
  exact member.2 ((members name).1 present.1).1

/-- Both parts of a list, those left out in front, are the list in another order. -/
theorem perm_filter_append {α : Type} (keep : α → Bool) (items : List α) :
    (items.filter (fun item => !keep item) ++ items.filter keep).Perm items :=
  List.perm_append_comm.trans (List.filter_append_perm keep items)

/-- The foreign key phase leaves the declared constraints, the new ones in front. -/
theorem applyOperations_foreignKeyPhase {table : PhysicalTable}
    {declared : List (String × ReferenceTarget)} {described : List String}
    (declaredDistinct : (declared.map (·.1)).Nodup) (describedDistinct : described.Nodup)
    (members : ∀ name, name ∈ table.foreign ↔ name ∈ described) :
    table.applyOperations (Plan.foreignKeyPhase declared described) =
      .ok { table with foreign :=
        ((declared.filter fun entry => entry.1 ∉ described) ++
          (declared.filter fun entry => entry.1 ∈ described)).map (·.1) } := by
  unfold Plan.foreignKeyPhase
  have dropsAll := perm_filter_append (fun name => (declared.map (·.1)).contains name) described
  have dropped := @applyOperations_dropForeignKey table _
    (dropsAll.nodup_iff.2 describedDistinct)
    fun name member => (members name).2 (dropsAll.mem_iff.1 member)
  have noneLeft : table.foreign.filter (· ∉ described.filter
      (fun name => !(declared.map (·.1)).contains name) ++
        described.filter fun name => (declared.map (·.1)).contains name) = [] := by
    rw [List.filter_eq_nil_iff]
    intro name member
    rw [decide_eq_true_eq, not_not]
    exact dropsAll.mem_iff.2 ((members name).1 member)
  rw [noneLeft] at dropped
  have addsAll := perm_filter_append (fun entry : String × ReferenceTarget =>
    described.contains entry.1) declared
  have added := @applyOperations_addForeignKey { table with foreign := [] } _
    ((addsAll.map (·.1)).nodup_iff.2 declaredDistinct) (by simp)
  rw [applyOperations_append dropped, added]
  simp

end PhysicalTable

end SchemaKeeper
