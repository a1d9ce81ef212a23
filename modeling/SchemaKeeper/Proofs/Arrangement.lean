import SchemaKeeper.Proofs.Realization

/-!
Contract: which operations a plan has, and in which order.

A plan is nine rows of operations, one for each phase, and an operation only ever stands in
the row of its own phase. So what holds within every row, and of operations of different
phases, holds along the whole plan.

Owns: the phases, the rows of a plan, the columns that go and come, and the order of the
constraints.

Does not own: what the operations do to a table (`Phases`, `Reconciliation`).
-/

namespace SchemaKeeper

/-! ## Phases -/

namespace Operation

/-- The place of an operation's phase in a plan. -/
def phase : Operation → Nat
  | .dropPrimaryKey => 0
  | .addPrimaryKey _ => 1
  | .dropColumn _ => 2
  | .addColumn .. => 3
  | .changeColumn .. => 4
  | .dropUniqueIndex _ => 5
  | .addUniqueIndex _ => 6
  | .dropForeignKey _ => 7
  | .addForeignKey .. => 8

def phaseCount : Nat := 9

theorem phase_lt (operation : Operation) : operation.phase < phaseCount := by
  cases operation <;> simp [phase, phaseCount]

/-- The column that an operation is about; the primary key is the table's own. -/
def subject? : Operation → Option String
  | .dropPrimaryKey | .addPrimaryKey _ => none
  | .dropColumn name | .addColumn name _ | .changeColumn name _ => some name
  | .dropUniqueIndex name | .addUniqueIndex name => some name
  | .dropForeignKey name | .addForeignKey name _ => some name

end Operation

namespace Plan

/-! ## Rows -/

def constrainedNames (live : List LiveColumn) : List String :=
  (live.filter (·.foreignKey)).map (·.name)

section Rows

variable (declared : Table) (columns : List (String × Column)) (live : List LiveColumn)

/-- The operations of one phase. -/
def row : Nat → List Operation
  | 0 =>
      if sameMembers declared.primaryKey (keyedNames .primary live) ∨
          (keyedNames .primary live).isEmpty then []
      else [.dropPrimaryKey]
  | 1 =>
      if sameMembers declared.primaryKey (keyedNames .primary live) ∨
          declared.primaryKey.isEmpty then []
      else [.addPrimaryKey declared.primaryKey]
  | 2 => (droppedColumns columns live).map .dropColumn
  | 3 => addPhase columns live
  | 4 => changePhase columns live
  | 5 =>
      ((keyedNames .unique live).filter fun name =>
        !declared.uniqueFields.contains name &&
          !(droppedColumns columns live).contains name).map .dropUniqueIndex
  | 6 =>
      (declared.uniqueFields.filter fun name =>
        !(keyedNames .unique live).contains name).map .addUniqueIndex
  | 7 =>
      ((constrainedNames live).filter (fun name =>
          !((Column.references columns).map (·.1)).contains name) ++
        (constrainedNames live).filter fun name =>
          ((Column.references columns).map (·.1)).contains name).map .dropForeignKey
  | 8 =>
      ((Column.references columns).filter (fun entry =>
          !(constrainedNames live).contains entry.1) ++
        (Column.references columns).filter fun entry =>
          (constrainedNames live).contains entry.1).map fun entry =>
            .addForeignKey entry.1 entry.2
  | _ => []

/-- A plan is its rows, one behind the other. -/
theorem operationsFor_eq_rows :
    declared.operationsFor columns live =
      (List.range Operation.phaseCount).flatMap (row declared columns live) := by
  have key : primaryKeyPhase declared.primaryKey (keyedNames .primary live) =
      row declared columns live 0 ++ row declared columns live 1 := by
    unfold primaryKeyPhase row
    cases sameMembers declared.primaryKey (keyedNames .primary live) <;> simp
  rw [Table.operationsFor, key]
  simp [Operation.phaseCount, List.range_succ, row, uniquePhase, foreignKeyPhase,
    constrainedNames]

private theorem phase_of_mem_map {α : Type} {make : α → Operation} {items : List α}
    {operation : Operation} (member : operation ∈ items.map make) {index : Nat}
    (phased : ∀ item, (make item).phase = index) : operation.phase = index := by
  obtain ⟨item, _, rfl⟩ := List.mem_map.1 member
  exact phased item

/-- Only operations of its phase stand in a row. -/
theorem phase_of_mem_row {index : Nat} {operation : Operation}
    (member : operation ∈ row declared columns live index) : operation.phase = index := by
  unfold row at member
  split at member
  · split at member
    · contradiction
    · rw [List.mem_singleton.1 member]
      rfl
  · split at member
    · contradiction
    · rw [List.mem_singleton.1 member]
      rfl
  · exact phase_of_mem_map member fun _ => rfl
  · exact phase_of_mem_map member fun _ => rfl
  · exact phase_of_mem_map member fun _ => rfl
  · exact phase_of_mem_map member fun _ => rfl
  · exact phase_of_mem_map member fun _ => rfl
  · exact phase_of_mem_map member fun _ => rfl
  · exact phase_of_mem_map member fun _ => rfl
  · contradiction

/-- An operation is part of a plan if it stands in the row of its phase. -/
theorem mem_operationsFor_iff (operation : Operation) :
    operation ∈ declared.operationsFor columns live ↔
      operation ∈ row declared columns live operation.phase := by
  rw [operationsFor_eq_rows, List.mem_flatMap]
  constructor
  · rintro ⟨index, _, member⟩
    rwa [phase_of_mem_row declared columns live member]
  · exact fun member => ⟨_, List.mem_range.2 operation.phase_lt, member⟩

/-- What holds within each row and of operations of different phases holds along a plan. -/
theorem pairwise_operationsFor {related : Operation → Operation → Prop}
    (within : ∀ index, (row declared columns live index).Pairwise related)
    (across : ∀ earlier later : Operation, earlier.phase < later.phase → related earlier later) :
    (declared.operationsFor columns live).Pairwise related := by
  rw [operationsFor_eq_rows, List.pairwise_flatMap]
  refine ⟨fun index _ => within index, List.pairwise_lt_range.imp ?_⟩
  intro first second less earlier earlierMember later laterMember
  apply across
  rwa [phase_of_mem_row declared columns live earlierMember,
    phase_of_mem_row declared columns live laterMember]

end Rows

/-! ## Names -/

section Names

variable {declared : Table} {columns : List (String × Column)} {live : List LiveColumn}

private theorem nodup_subjects {α : Type} {make : α → Operation} (name : α → String)
    {items : List α} (distinct : (items.map name).Nodup)
    (named : ∀ item, (make item).subject? = some (name item)) :
    ((items.map make).map (·.subject?)).Nodup := by
  have subjects : (items.map make).map (·.subject?) = (items.map name).map some := by
    simp [Function.comp_def, named]
  rw [subjects]
  exact distinct.map fun _ _ => Option.some.inj

/-- The two parts that a phase moves apart have no name twice. -/
private theorem nodup_parts {α : Type} {name : α → String} {items : List α}
    (distinct : (items.map name).Nodup) (later : α → Bool) :
    ((items.filter (fun item => !later item) ++ items.filter later).map name).Nodup :=
  ((PhysicalTable.perm_filter_append later items).map name).nodup_iff.2 distinct

/-- No name is repeated in a row. -/
theorem nodup_row (mapped : declared.columns = .ok columns)
    (distinct : (live.map (·.name)).Nodup) (index : Nat) :
    ((row declared columns live index).map (·.subject?)).Nodup := by
  have columnsDistinct := Table.nodup_columnNames mapped
  have referencesDistinct : ((Column.references columns).map (·.1)).Nodup := by
    rw [Table.references_columns mapped]
    exact declared.nodup_references
  have someDistinct (keep : LiveColumn → Bool) : ((live.filter keep).map (·.name)).Nodup :=
    (List.filter_sublist.map _).nodup distinct
  unfold row
  split
  · split <;> simp
  · split <;> simp
  · exact nodup_subjects id ((List.map_id _).symm ▸ distinct.filter _) fun _ => rfl
  · exact nodup_subjects _ ((List.filter_sublist.map _).nodup columnsDistinct) fun _ => rfl
  · exact nodup_subjects _ ((List.filter_sublist.map _).nodup columnsDistinct) fun _ => rfl
  · exact nodup_subjects id ((List.map_id _).symm ▸ (someDistinct _).filter _) fun _ => rfl
  · exact nodup_subjects id ((List.map_id _).symm ▸ declared.nodup_uniqueFields.filter _)
      fun _ => rfl
  · exact nodup_subjects id (nodup_parts ((List.map_id _).symm ▸ someDistinct _) _) fun _ => rfl
  · exact nodup_subjects _ (nodup_parts referencesDistinct _) fun _ => rfl
  · exact List.nodup_nil

/-! ## Columns -/

theorem mem_dropColumn_iff (mapped : declared.columns = .ok columns) (name : String) :
    .dropColumn name ∈ declared.operationsFor columns live ↔
      name ∈ live.map (·.name) ∧ name ∉ declared.fields.map (·.1) := by
  rw [mem_operationsFor_iff, ← Table.columnNames mapped, ← mem_droppedColumns_iff]
  simp [Operation.phase, row]

theorem exists_mem_addColumn_iff (mapped : declared.columns = .ok columns) (name : String) :
    (∃ column, .addColumn name column ∈ declared.operationsFor columns live) ↔
      name ∈ declared.fields.map (·.1) ∧ name ∉ live.map (·.name) := by
  simp only [mem_operationsFor_iff, Operation.phase, row, addPhase_eq_map,
    ← Table.columnNames mapped]
  constructor
  · rintro ⟨column, member⟩
    obtain ⟨entry, listed, same⟩ := List.mem_map.1 member
    cases same
    rw [List.mem_filter, decide_eq_true_eq] at listed
    exact ⟨List.mem_map_of_mem listed.1, listed.2⟩
  · rintro ⟨listed, undescribed⟩
    obtain ⟨entry, member, rfl⟩ := List.mem_map.1 listed
    exact ⟨entry.2, List.mem_map_of_mem
      (List.mem_filter.2 ⟨member, decide_eq_true undescribed⟩)⟩

/-- A dropped column takes its index with it. -/
theorem notMem_dropColumn_of_dropUniqueIndex {name : String}
    (member : .dropUniqueIndex name ∈ declared.operationsFor columns live) :
    .dropColumn name ∉ declared.operationsFor columns live := by
  rw [mem_operationsFor_iff] at member ⊢
  simp only [Operation.phase, row, List.mem_map, Operation.dropUniqueIndex.injEq,
    exists_eq_right, List.mem_filter, Bool.and_eq_true, Bool.not_eq_true',
    List.contains_eq_mem, decide_eq_false_iff_not] at member
  simpa [Operation.phase, row] using member.2.2

/-! ## Constraints -/

/-- Of two parts one behind the other, the first has no member of a kind and the second has
only such members: none of the kind stands in front of one that is not. -/
private theorem pairwise_parts {α : Type} (items : List α) (later : α → Bool) :
    (items.filter (fun item => !later item) ++ items.filter later).Pairwise
      fun first second => later first = true → later second = true := by
  have allLater : (items.filter later).Pairwise
      fun first second => later first = true → later second = true :=
    List.pairwise_of_forall_mem_list fun _ _ second member _ => (List.mem_filter.1 member).2
  have noneLater : (items.filter fun item => !later item).Pairwise
      fun first second => later first = true → later second = true := by
    refine List.pairwise_of_forall_mem_list fun first member _ _ isLater => ?_
    simp [isLater] at member
  refine List.pairwise_append.2 ⟨noneLater, allLater, fun first _ second member _ => ?_⟩
  exact (List.mem_filter.1 member).2

/-- Constraints that go for good are dropped before those that are made anew. -/
theorem pairwise_dropForeignKey (mapped : declared.columns = .ok columns) :
    (declared.operationsFor columns live).Pairwise fun earlier later =>
      ∀ first second, earlier = .dropForeignKey first → later = .dropForeignKey second →
        first ∈ declared.references.map (·.1) → second ∈ declared.references.map (·.1) := by
  refine pairwise_operationsFor declared columns live (fun index => ?_) ?_
  · by_cases own : index = 7
    · subst own
      rw [← Table.references_columns mapped]
      refine List.pairwise_map.2 ((pairwise_parts _ _).imp ?_)
      rintro first second ordered _ _ ⟨⟩ ⟨⟩
      simpa [List.contains_iff_mem] using ordered
    · refine List.pairwise_of_forall_mem_list ?_
      rintro earlier member _ _ first _ rfl
      exact absurd (phase_of_mem_row declared columns live member).symm own
  · rintro _ _ less first second rfl rfl
    exact absurd less (Nat.lt_irrefl _)

/-- Constraints of new references are added before those that are made anew. -/
theorem pairwise_addForeignKey :
    (declared.operationsFor columns live).Pairwise fun earlier later =>
      ∀ first firstTarget second secondTarget,
        earlier = .addForeignKey first firstTarget → later = .addForeignKey second secondTarget →
          first ∈ constrainedNames live → second ∈ constrainedNames live := by
  refine pairwise_operationsFor declared columns live (fun index => ?_) ?_
  · by_cases own : index = 8
    · subst own
      refine List.pairwise_map.2 ((pairwise_parts _ _).imp ?_)
      rintro first second ordered _ _ _ _ ⟨⟩ ⟨⟩
      simpa [List.contains_iff_mem] using ordered
    · refine List.pairwise_of_forall_mem_list ?_
      rintro earlier member _ _ first _ _ _ rfl
      exact absurd (phase_of_mem_row declared columns live member).symm own
  · rintro _ _ less first _ second _ rfl rfl
    exact absurd less (Nat.lt_irrefl _)

end Names

/-! ## Plans -/

/-- The operations of a plan between a declaration and a description: which columns go and
come, and what stands in front of what. -/
structure Arranged (declared : Table) (live : List LiveColumn) (operations : List Operation) :
    Prop where
  /-- The phases follow one another. -/
  phases : operations.Pairwise fun earlier later => earlier.phase ≤ later.phase
  /-- No phase has two operations on one name, or on the primary key. -/
  unrepeated : (operations.map fun operation => (operation.phase, operation.subject?)).Nodup
  dropped : ∀ name, .dropColumn name ∈ operations ↔
    name ∈ live.map (·.name) ∧ name ∉ declared.fields.map (·.1)
  added : ∀ name, (∃ column, .addColumn name column ∈ operations) ↔
    name ∈ declared.fields.map (·.1) ∧ name ∉ live.map (·.name)
  /-- A column on both sides stays. -/
  kept : ∀ name ∈ live.map (·.name), name ∈ declared.fields.map (·.1) →
    .dropColumn name ∉ operations ∧ ∀ column, .addColumn name column ∉ operations
  indexes : ∀ name, .dropUniqueIndex name ∈ operations → .dropColumn name ∉ operations
  /-- Drops without a declared reference come first. -/
  removals : operations.Pairwise fun earlier later =>
    ∀ first second, earlier = .dropForeignKey first → later = .dropForeignKey second →
      first ∈ declared.references.map (·.1) → second ∈ declared.references.map (·.1)
  /-- Additions without a described constraint come first. -/
  additions : operations.Pairwise fun earlier later =>
    ∀ first firstTarget second secondTarget,
      earlier = .addForeignKey first firstTarget → later = .addForeignKey second secondTarget →
        first ∈ constrainedNames live → second ∈ constrainedNames live

theorem arranged_operationsFor {declared : Table} {columns : List (String × Column)}
    (mapped : declared.columns = .ok columns) {live : List LiveColumn}
    (distinct : (live.map (·.name)).Nodup) :
    Arranged declared live (declared.operationsFor columns live) where
  phases := by
    refine pairwise_operationsFor declared columns live (fun index => ?_) fun _ _ => Nat.le_of_lt
    refine List.pairwise_of_forall_mem_list fun earlier earlierMember later laterMember => ?_
    exact Nat.le_of_eq ((phase_of_mem_row declared columns live earlierMember).trans
      (phase_of_mem_row declared columns live laterMember).symm)
  unrepeated := by
    refine List.pairwise_map.2 (pairwise_operationsFor declared columns live ?_ ?_)
    · intro index
      refine (List.pairwise_map.1 (nodup_row mapped distinct index)).imp ?_
      exact fun different same => different (congrArg Prod.snd same)
    · exact fun _ _ less same => Nat.ne_of_lt less (congrArg Prod.fst same)
  dropped := mem_dropColumn_iff mapped
  added := exists_mem_addColumn_iff mapped
  kept name described field :=
    ⟨fun drops => ((mem_dropColumn_iff mapped name).1 drops).2 field,
      fun column adds => ((exists_mem_addColumn_iff mapped name).1 ⟨column, adds⟩).2 described⟩
  indexes _ := notMem_dropColumn_of_dropUniqueIndex
  removals := pairwise_dropForeignKey mapped
  additions := pairwise_addForeignKey

/-- A described table always has a plan, and its operations are arranged: in their phases,
without repetition, dropping and adding just the columns that one side lacks. -/
theorem planFor_arranged (declared : Table) {live : List LiveColumn} (nonempty : live ≠ [])
    (distinct : (live.map (·.name)).Nodup)
    (typed : ∀ column ∈ live, Text.trim column.type ≠ "") :
    ∃ operations, declared.planFor live = .ok (.alter declared.name operations) ∧
      Arranged declared live operations := by
  obtain ⟨columns, mapped⟩ := declared.exists_columns
  exact ⟨_, PhysicalTable.planFor_eq_alter mapped nonempty typed,
    arranged_operationsFor mapped distinct⟩

/-- The old invoices lose their remark with its index, and their other key, index and
constraint move. -/
theorem oldInvoices_arranged :
    PhysicalTable.oldInvoices ≠ [] ∧ (PhysicalTable.oldInvoices.map (·.name)).Nodup ∧
      (∀ column ∈ PhysicalTable.oldInvoices, Text.trim column.type ≠ "") ∧
      ∃ operations, PhysicalTable.invoices.planFor PhysicalTable.oldInvoices =
          .ok (.alter "invoices" operations) ∧
        Arranged PhysicalTable.invoices PhysicalTable.oldInvoices operations :=
  have typed : ∀ column ∈ PhysicalTable.oldInvoices, Text.trim column.type ≠ "" := by decide
  ⟨by decide, by decide, typed, planFor_arranged _ (by decide) (by decide) typed⟩

end Plan

end SchemaKeeper
