import SchemaKeeper.Proofs.Planning

/-!
Contract: the order in which a description lists its columns does not count.

A plan asks a description which columns it has, what they are like and which of them carry a key,
an index or a constraint. None of these answers depends on the order. Only what is removed is
listed as the description lists it; what is put in place comes as it is declared.

The tables after two such plans have the same columns in some order, and each of their lists has
the members that are declared, so their descriptions are the same up to order as well.

Owns: plans that differ in the order of their removals, and the plans for one description in
two orders.
-/

namespace SchemaKeeper

/-! ## Operations -/

namespace Operation

/-- The operation puts something declared in place. -/
def establishes : Operation → Bool
  | .addPrimaryKey _ | .addColumn _ _ | .changeColumn _ _ | .addUniqueIndex _
  | .addForeignKey _ _ => true
  | .dropPrimaryKey | .dropColumn _ | .dropUniqueIndex _ | .dropForeignKey _ => false

/-- The operations are the same, each as often, and those that put something in place come in
the same order. -/
structure Rearranged (left right : List Operation) : Prop where
  same : left.Perm right
  ordered : left.filter establishes = right.filter establishes

namespace Rearranged

theorem refl (operations : List Operation) : Rearranged operations operations :=
  ⟨.refl operations, rfl⟩

theorem append {left right leftRest rightRest : List Operation} (first : Rearranged left right)
    (rest : Rearranged leftRest rightRest) :
    Rearranged (left ++ leftRest) (right ++ rightRest) where
  same := first.same.append rest.same
  ordered := by rw [List.filter_append, List.filter_append, first.ordered, rest.ordered]

/-- Removals may come in any order. -/
theorem removals {remove : String → Operation} (removes : ∀ name, (remove name).establishes = false)
    {left right : List String} (reordered : left.Perm right) :
    Rearranged (left.map remove) (right.map remove) where
  same := reordered.map remove
  ordered := by
    have none (names : List String) : (names.map remove).filter establishes = [] := by
      simp [List.filter_eq_nil_iff, removes]
    rw [none, none]

end Rearranged

end Operation

/-- The plans are the same up to the order of their removals. -/
inductive Plan.Rearranged : Plan → Plan → Prop where
  | create (creation : Creation) : Rearranged (.create creation) (.create creation)
  | alter (table : String) {left right : List Operation}
      (operations : Operation.Rearranged left right) :
      Rearranged (.alter table left) (.alter table right)

/-! ## Phases -/

namespace Plan

theorem primaryKeyPhase_perm (declared : List String) {left right : List String}
    (reordered : left.Perm right) :
    primaryKeyPhase declared left = primaryKeyPhase declared right := by
  have members : sameMembers declared left = sameMembers declared right := by
    rw [Bool.eq_iff_iff, sameMembers_iff, sameMembers_iff]
    simp only [reordered.mem_iff]
  rw [primaryKeyPhase, primaryKeyPhase, members, reordered.isEmpty_eq]

theorem uniquePhase_perm (declared : List String) {left right leftDropped rightDropped : List String}
    (reordered : left.Perm right) (droppedReordered : leftDropped.Perm rightDropped) :
    Operation.Rearranged (uniquePhase declared left leftDropped)
      (uniquePhase declared right rightDropped) := by
  unfold uniquePhase
  simp only [List.contains_eq_mem, droppedReordered.mem_iff, reordered.mem_iff]
  exact .append (.removals (fun _ => rfl) (reordered.filter _)) (.refl _)

theorem foreignKeyPhase_perm (declared : List (String × ReferenceTarget)) {left right : List String}
    (reordered : left.Perm right) :
    Operation.Rearranged (foreignKeyPhase declared left) (foreignKeyPhase declared right) := by
  unfold foreignKeyPhase
  dsimp only
  simp only [List.contains_eq_mem, reordered.mem_iff]
  exact .append
    (.removals (fun _ => rfl) ((reordered.filter _).append (reordered.filter _))) (.refl _)

section Descriptions

variable {left right : List LiveColumn} (distinct : (left.map (·.name)).Nodup)
  (reordered : left.Perm right) (columns : List (String × Column))

include distinct reordered

theorem describedColumn?_perm : describedColumn? left = describedColumn? right := by
  have rightDistinct := (reordered.map (·.name)).nodup_iff.1 distinct
  funext name
  apply Option.ext
  intro column
  simp only [describedColumn?_eq_some_iff distinct, describedColumn?_eq_some_iff rightDistinct,
    reordered.mem_iff]

theorem changedColumns_perm : changedColumns columns left = changedColumns columns right := by
  rw [changedColumns, changedColumns, describedColumn?_perm distinct reordered]

/-- The operations for a description in another order are the same, up to their removals. -/
theorem operationsFor_perm (declared : Table) :
    Operation.Rearranged (declared.operationsFor columns left)
      (declared.operationsFor columns right) := by
  have named (keep : LiveColumn → Bool) :
      ((left.filter keep).map (·.name)).Perm ((right.filter keep).map (·.name)) :=
    (reordered.filter keep).map (·.name)
  have dropped : (droppedColumns columns left).Perm (droppedColumns columns right) :=
    (reordered.map LiveColumn.name).filter _
  have key : primaryKeyPhase declared.primaryKey (keyedNames .primary left) =
      primaryKeyPhase declared.primaryKey (keyedNames .primary right) :=
    primaryKeyPhase_perm declared.primaryKey (named _)
  have added : addPhase columns left = addPhase columns right := by
    rw [addPhase, addPhase, describedColumn?_perm distinct reordered]
  have changed : changePhase columns left = changePhase columns right := by
    rw [changePhase_eq_map, changePhase_eq_map, changedColumns_perm distinct reordered]
  unfold Table.operationsFor
  dsimp only
  rw [key, added, changed]
  exact .append (.append (.append (.append (.append (.refl _) (.removals (fun _ => rfl) dropped))
    (.refl _)) (.refl _)) (uniquePhase_perm declared.uniqueFields (named _) dropped))
    (foreignKeyPhase_perm _ (named _))

end Descriptions

end Plan

/-! ## Descriptions -/

/-- The column as a description of its own table shows it: without an index that is neither the
primary key, nor unique, nor that of a constraint. -/
def LiveColumn.shown (column : LiveColumn) : LiveColumn :=
  { column with
    key := match column.key with
      | some .primary => some .primary
      | some .unique => some .unique
      | _ => if column.foreignKey then some .multiple else none }

theorem LiveColumn.shown_key_iff {kind : KeyKind} (planned : kind ≠ .multiple)
    (column : LiveColumn) : column.shown.key = some kind ↔ column.key = some kind := by
  unfold shown
  cases column.key with
  | none => cases column.foreignKey <;> simp [planned.symm]
  | some shownKind =>
      cases shownKind with
      | primary => rfl
      | unique => rfl
      | multiple => cases column.foreignKey <;> simp [planned.symm]

namespace Plan

theorem describedColumn?_shown (live : List LiveColumn) (name : String) :
    describedColumn? (live.map LiveColumn.shown) name =
      (describedColumn? live name).map LiveColumn.shown := by
  rw [describedColumn?, ← List.map_reverse, List.find?_map]
  rfl

theorem changedColumns_shown (columns : List (String × Column)) (live : List LiveColumn) :
    changedColumns columns (live.map LiveColumn.shown) = changedColumns columns live := by
  unfold changedColumns
  apply List.filter_congr
  intro entry _
  rw [describedColumn?_shown, Option.any_map]
  rfl

/-- A plan does not look at the indexes that are not shown. -/
theorem operationsFor_shown (declared : Table) (columns : List (String × Column))
    (live : List LiveColumn) :
    declared.operationsFor columns (live.map LiveColumn.shown) =
      declared.operationsFor columns live := by
  have names : (live.map LiveColumn.shown).map (·.name) = live.map (·.name) := by
    rw [List.map_map]
    rfl
  have named {keep : LiveColumn → Bool} (same : ∀ column, keep column.shown = keep column) :
      ((live.map LiveColumn.shown).filter keep).map (·.name) = (live.filter keep).map (·.name) := by
    have filters : live.filter (keep ∘ LiveColumn.shown) = live.filter keep :=
      List.filter_congr fun column _ => same column
    rw [List.filter_map, List.map_map, filters]
    rfl
  have keyed {kind : KeyKind} (planned : kind ≠ .multiple) :
      keyedNames kind (live.map LiveColumn.shown) = keyedNames kind live :=
    named fun column => decide_eq_decide.2 (column.shown_key_iff planned)
  have constrained : ((live.map LiveColumn.shown).filter (·.foreignKey)).map (·.name) =
      (live.filter (·.foreignKey)).map (·.name) := named fun _ => rfl
  have dropped : droppedColumns columns (live.map LiveColumn.shown) =
      droppedColumns columns live := by
    rw [droppedColumns, names, droppedColumns]
  have added : addPhase columns (live.map LiveColumn.shown) = addPhase columns live := by
    rw [addPhase_eq_map, names, addPhase_eq_map]
  have changed : changePhase columns (live.map LiveColumn.shown) = changePhase columns live := by
    rw [changePhase_eq_map, changedColumns_shown, changePhase_eq_map]
  unfold Table.operationsFor
  dsimp only
  rw [keyed (by decide), keyed (by decide), constrained, dropped, added, changed]

end Plan

namespace PhysicalTable

/-- A table that is taken from a description shows it again, but for the other indexes. -/
theorem describe_ofLive {live : List LiveColumn} (distinct : (live.map (·.name)).Nodup) :
    (ofLive live).describe = live.map LiveColumn.shown := by
  rw [describe_eq_map, ofLive, List.map_map]
  apply List.map_congr_left
  intro column listed
  have marked (keep : LiveColumn → Bool) :
      ((live.filter keep).map (·.name)).contains column.name = keep column := by
    rw [Bool.eq_iff_iff, List.contains_iff_mem, List.mem_map]
    constructor
    · rintro ⟨other, kept, sameName⟩
      obtain ⟨otherListed, keeps⟩ := List.mem_filter.1 kept
      rwa [← List.inj_on_of_nodup_map distinct otherListed listed sameName]
    · intro keeps
      exact ⟨column, List.mem_filter.2 ⟨listed, keeps⟩, rfl⟩
  simp only [Function.comp_apply, described, keyOf, marked, decide_eq_true_eq, LiveColumn.shown]
  cases column.key with
  | none => rfl
  | some kind => cases kind <;> rfl

/-- The columns in another order and lists with the same members show in a description only by
its order. -/
theorem describe_perm {left right : PhysicalTable} (columns : left.columns.Perm right.columns)
    (primary : ∀ name, name ∈ left.primary ↔ name ∈ right.primary)
    (unique : ∀ name, name ∈ left.unique ↔ name ∈ right.unique)
    (foreign : ∀ name, name ∈ left.foreign ↔ name ∈ right.foreign) :
    left.describe.Perm right.describe := by
  have same : left.described = right.described := by
    funext column
    simp only [described, keyOf, List.contains_eq_mem, primary, unique, foreign]
  rw [describe_eq_map, describe_eq_map, same]
  exact columns.map right.described

/-! ## Tables -/

section Tables

variable {columns : List (String × Column)} {left right : List LiveColumn}

theorem aligned_perm (distinct : (left.map (·.name)).Nodup) (reordered : left.Perm right)
    {leftPresent rightPresent : List LiveColumn} (presentReordered : leftPresent.Perm rightPresent) :
    (aligned columns left leftPresent).Perm (aligned columns right rightPresent) := by
  have names (name : String) : name ∈ left.map (·.name) ↔ name ∈ right.map (·.name) :=
    (reordered.map LiveColumn.name).mem_iff
  have extension :
      (extended columns left leftPresent).Perm (extended columns right rightPresent) := by
    unfold extended
    simp only [names]
    exact (presentReordered.filter _).append (.refl _)
  rw [aligned, aligned, Plan.changedColumns_perm distinct reordered]
  exact extension.map _

/-- Both tables are as declared, so only the order of their columns can differ. -/
theorem describe_altered_perm {declared : Table} (mapped : declared.columns = .ok columns)
    (distinct : (left.map (·.name)).Nodup) (reordered : left.Perm right) :
    ((ofLive left).altered declared columns).describe.Perm
      ((ofLive right).altered declared columns).describe := by
  have rightDistinct := (reordered.map (·.name)).nodup_iff.1 distinct
  have shownDistinct : (((ofLive left).describe).map (·.name)).Nodup := by
    rw [names_describe]
    exact (coherent_ofLive distinct).columns
  have shownReordered : (ofLive left).describe.Perm (ofLive right).describe := by
    rw [describe_ofLive distinct, describe_ofLive rightDistinct]
    exact reordered.map _
  have here := realizes_altered (coherent_ofLive distinct) mapped
  have there := realizes_altered (coherent_ofLive rightDistinct) mapped
  exact describe_perm (aligned_perm shownDistinct shownReordered (reordered.map _))
    (fun name => (here.primary name).trans (there.primary name).symm)
    (fun name => (here.unique name).trans (there.unique name).symm)
    (fun name => (here.foreign name).trans (there.foreign name).symm)

/-- A table carries out the operations for the description that it is taken from. -/
theorem apply_operationsFor_ofLive {declared : Table} (mapped : declared.columns = .ok columns)
    {live : List LiveColumn} (distinct : (live.map (·.name)).Nodup) (name : String) :
    (ofLive live).apply (.alter name (declared.operationsFor columns live)) =
      .ok ((ofLive live).altered declared columns) := by
  have applied := apply_operationsFor (coherent_ofLive distinct) mapped name
  rwa [describe_ofLive distinct, Plan.operationsFor_shown] at applied

end Tables

end PhysicalTable

/-- A table plans for two orders of a description alike. Either neither can be compared, or the
plans are the same up to the order of their removals, both are carried out, and the descriptions
afterwards are the same up to their order. -/
theorem plans_ignore_order (declared : Table) {left right : List LiveColumn}
    (distinct : (left.map (·.name)).Nodup) (reordered : left.Perm right) :
    (∃ leftCause rightCause,
      declared.planFor left = .error leftCause ∧ declared.planFor right = .error rightCause) ∨
    ∃ leftPlan rightPlan leftAfter rightAfter,
      declared.planFor left = .ok leftPlan ∧ declared.planFor right = .ok rightPlan ∧
      leftPlan.Rearranged rightPlan ∧
      (PhysicalTable.ofLive left).apply leftPlan = .ok leftAfter ∧
      (PhysicalTable.ofLive right).apply rightPlan = .ok rightAfter ∧
      leftAfter.describe.Perm rightAfter.describe := by
  obtain ⟨columns, mapped⟩ := declared.exists_columns
  have rightDistinct := (reordered.map (·.name)).nodup_iff.1 distinct
  by_cases untyped : ∃ column ∈ left, Text.trim column.type = ""
  · left
    have rightUntyped : ∃ column ∈ right, Text.trim column.type = "" := by
      simpa only [reordered.mem_iff] using untyped
    obtain ⟨leftCause, leftFailed⟩ := Table.exists_planFor_error_iff.2 untyped
    obtain ⟨rightCause, rightFailed⟩ := Table.exists_planFor_error_iff.2 rightUntyped
    exact ⟨leftCause, rightCause, leftFailed, rightFailed⟩
  · right
    have leftTyped : ∀ column ∈ left, Text.trim column.type ≠ "" := fun column listed blank =>
      untyped ⟨column, listed, blank⟩
    have rightTyped : ∀ column ∈ right, Text.trim column.type ≠ "" := fun column listed =>
      leftTyped column (reordered.mem_iff.2 listed)
    by_cases missing : left = []
    · subst missing
      obtain rfl : right = [] := reordered.nil_eq.symm
      have planned := PhysicalTable.planFor_nil mapped
      exact ⟨_, _, _, _, planned, planned, .create _, rfl, rfl, .refl _⟩
    · have rightPresent : right ≠ [] := fun none => missing (none ▸ reordered).eq_nil
      exact ⟨_, _, _, _, PhysicalTable.planFor_eq_alter mapped missing leftTyped,
        PhysicalTable.planFor_eq_alter mapped rightPresent rightTyped,
        .alter _ (Plan.operationsFor_perm distinct reordered columns declared),
        PhysicalTable.apply_operationsFor_ofLive mapped distinct _,
        PhysicalTable.apply_operationsFor_ofLive mapped rightDistinct _,
        PhysicalTable.describe_altered_perm mapped distinct reordered⟩

/-- In either order the old invoices become plain ones. The two columns that go are dropped in a
different order. -/
theorem oldInvoices_reversed :
    (PhysicalTable.oldInvoices.map (·.name)).Nodup ∧
    PhysicalTable.oldInvoices.Perm PhysicalTable.oldInvoices.reverse ∧
    ∃ plan reversed, PhysicalTable.plainInvoices.planFor PhysicalTable.oldInvoices = .ok plan ∧
      PhysicalTable.plainInvoices.planFor PhysicalTable.oldInvoices.reverse = .ok reversed ∧
      plan.Rearranged reversed ∧ plan ≠ reversed := by
  have distinct : (PhysicalTable.oldInvoices.map (·.name)).Nodup := by decide
  have reordered : PhysicalTable.oldInvoices.Perm PhysicalTable.oldInvoices.reverse :=
    (List.reverse_perm _).symm
  have typed : ¬∃ column ∈ PhysicalTable.oldInvoices, Text.trim column.type = "" := by decide
  have different : PhysicalTable.plainInvoices.planFor PhysicalTable.oldInvoices ≠
      PhysicalTable.plainInvoices.planFor PhysicalTable.oldInvoices.reverse := by
    decide +kernel
  refine ⟨distinct, reordered, ?_⟩
  rcases plans_ignore_order PhysicalTable.plainInvoices distinct reordered with
    ⟨_, _, failed, _⟩ | ⟨plan, reversed, _, _, here, there, same, _⟩
  · exact absurd (Table.exists_planFor_error_iff.1 ⟨_, failed⟩) typed
  · refine ⟨plan, reversed, here, there, same, fun equal => different ?_⟩
    rw [here, there, equal]

end SchemaKeeper
