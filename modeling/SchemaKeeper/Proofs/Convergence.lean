import SchemaKeeper.Proofs.Realization

/-!
Contract: tables converge to their declarations, whatever came before.

After a step the description shows the declared fields and nothing else. Creating
the table anew would have shown the same, except for the order of the columns and
for texts that mean the same. A further step with the declaration shows no change.

Owns: what a described column shows of a field, descriptions that differ in form
only, and convergence of one step after any run.

Does not own: which operations the further step consists of (`Idempotence`).
-/

namespace SchemaKeeper

/-! ## Descriptions of fields -/

/-- Two texts of defaults mean the same: both are absent, they read as equal numbers,
or they are equal up to case. -/
inductive SameDefault : Option String → Option String → Prop where
  | absent : SameDefault none none
  | numbers {left right : String} {leftNumber rightNumber : Binary64}
      (leftRead : Binary64.ofText? left = some leftNumber)
      (rightRead : Binary64.ofText? right = some rightNumber)
      (same : leftNumber.sameNumber rightNumber = true) : SameDefault (some left) (some right)
  | texts {left right : String} (same : Text.sameIgnoringCase left right = true) :
      SameDefault (some left) (some right)

theorem SameDefault.refl (default : Option String) : SameDefault default default := by
  cases default with
  | none => exact .absent
  | some text => exact .texts (Text.sameIgnoringCase_self text)

theorem SameDefault.of_defaultsAgree {default : Option Value} {described : Option String}
    (agree : Plan.defaultsAgree default described = true) :
    SameDefault (default.bind Value.plainText?) described := by
  unfold Plan.defaultsAgree at agree
  cases declared : default.bind Value.plainText? with
  | none =>
      rw [declared] at agree
      cases described with
      | none => exact .absent
      | some text => contradiction
  | some here =>
      rw [declared] at agree
      cases described with
      | none => contradiction
      | some there =>
          dsimp only at agree
          split at agree
          next leftRead rightRead => exact .numbers leftRead rightRead agree
          next => exact .texts agree

/-- The key that a description shows for a field. -/
def Field.describedKey (field : Field) : Option KeyKind :=
  if field.primaryKey then some .primary
  else if field.unique then some .unique
  else if field.reference.isSome then some .multiple
  else none

namespace LiveColumn

/-- A column is as defined, leaving keys aside. -/
structure Fits (live : LiveColumn) (definition : Column) : Prop where
  type : Text.sameIgnoringCase (Text.trim live.type) definition.describedType = true
  nullable : live.nullable = definition.nullable
  autoIncrement : live.isAutoIncrement = definition.autoIncrement
  default : SameDefault (definition.default.bind Value.plainText?) live.default

theorem fits_of_columnAgrees {live : LiveColumn} {definition : Column}
    (agrees : Plan.columnAgrees definition live = true) : live.Fits definition := by
  unfold Plan.columnAgrees at agrees
  simp only [Bool.and_eq_true, beq_iff_eq] at agrees
  obtain ⟨⟨⟨sameType, sameNullable⟩, sameNumbering⟩, sameDefault⟩ := agrees
  refine ⟨?_, sameNullable.symm, sameNumbering.symm, .of_defaultsAgree sameDefault⟩
  rw [Text.sameIgnoringCase_iff] at sameType ⊢
  exact sameType.symm

/-- Any column fits when it has just been written, also one that never agrees. -/
theorem fits_liveColumn (name : String) (definition : Column) :
    (PhysicalTable.liveColumn name definition).Fits definition where
  type := by
    rw [PhysicalTable.liveColumn, definition.trim_describedType]
    exact Text.sameIgnoringCase_self _
  nullable := rfl
  autoIncrement := PhysicalTable.isAutoIncrement_liveColumn name definition
  default := .refl _

/-- A described column is as its field needs. -/
structure Shows (live : LiveColumn) (field : Field) : Prop where
  type : ∃ column, Column.ofField field = .ok column ∧
    Text.sameIgnoringCase (Text.trim live.type) column.describedType = true
  nullable : live.nullable = field.nullable
  autoIncrement : live.isAutoIncrement = field.autoIncrement
  key : live.key = field.describedKey
  foreignKey : live.foreignKey = field.reference.isSome
  default : SameDefault (field.default.bind Value.plainText?) live.default

/-- Two described columns differ in form only. -/
structure Alike (left right : LiveColumn) : Prop where
  name : left.name = right.name
  type : Text.sameIgnoringCase (Text.trim left.type) (Text.trim right.type) = true
  nullable : left.nullable = right.nullable
  autoIncrement : left.isAutoIncrement = right.isAutoIncrement
  key : left.key = right.key
  foreignKey : left.foreignKey = right.foreignKey
  default : SameDefault left.default right.default

/-- Columns that show one field are alike if one of them has the very text of the
default. Texts that mean the same as a third need not mean the same. -/
theorem Shows.alike {left right : LiveColumn} {field : Field} (leftShows : left.Shows field)
    (rightShows : right.Shows field) (sameName : left.name = right.name)
    (exactDefault : left.default = field.default.bind Value.plainText?) : left.Alike right where
  name := sameName
  type := by
    rcases leftShows.type with ⟨column, mapped, leftType⟩
    rcases rightShows.type with ⟨other, otherMapped, rightType⟩
    rw [mapped] at otherMapped
    cases otherMapped
    rw [Text.sameIgnoringCase_iff] at leftType rightType ⊢
    exact leftType.trans rightType.symm
  nullable := leftShows.nullable.trans rightShows.nullable.symm
  autoIncrement := leftShows.autoIncrement.trans rightShows.autoIncrement.symm
  key := leftShows.key.trans rightShows.key.symm
  foreignKey := leftShows.foreignKey.trans rightShows.foreignKey.symm
  default := by
    rw [exactDefault]
    exact rightShows.default

end LiveColumn

/-- Two descriptions have the same columns, in any order and up to form. -/
structure SameUpToOrder (left right : List LiveColumn) : Prop where
  names : (left.map (·.name)).Perm (right.map (·.name))
  alike : ∀ column ∈ left, ∀ other ∈ right, column.name = other.name → column.Alike other

namespace PhysicalTable

section Descriptions

variable {table : PhysicalTable} {declared : Table} {columns : List (String × Column)}

/-! ## Realized declarations -/

private theorem Realizes.keys (realizes : table.Realizes declared columns) {name : String}
    {field : Field} (listed : (name, field) ∈ declared.fields) :
    table.keyOf name = field.describedKey ∧
      table.foreign.contains name = field.reference.isSome := by
  have primary : table.primary.contains name = field.primaryKey := by
    rw [Bool.eq_iff_iff, List.contains_iff_mem, realizes.primary, declared.mem_primaryKey_iff,
      declared.exists_field_iff listed]
  have unique : table.unique.contains name = (field.unique && !field.primaryKey) := by
    rw [Bool.eq_iff_iff, List.contains_iff_mem, realizes.unique, declared.mem_uniqueFields_iff,
      declared.exists_field_iff listed, Bool.and_eq_true, Bool.not_eq_true']
  have foreign : table.foreign.contains name = field.reference.isSome := by
    rw [Bool.eq_iff_iff, List.contains_iff_mem, realizes.foreign, declared.mem_references_iff,
      declared.exists_field_iff listed]
  refine ⟨?_, foreign⟩
  unfold keyOf Field.describedKey
  rw [primary, unique, foreign]
  cases field.primaryKey <;> simp

theorem Realizes.fits (realizes : table.Realizes declared columns) {column : LiveColumn}
    (member : column ∈ table.columns) {definition : Column}
    (listed : (column.name, definition) ∈ columns) : column.Fits definition := by
  rcases realizes.defined column member definition listed with agrees | same
  · exact LiveColumn.fits_of_columnAgrees agrees
  · rw [same]
    exact LiveColumn.fits_liveColumn _ _

/-- Every described column shows a field. -/
theorem Realizes.exists_shown (realizes : table.Realizes declared columns)
    (mapped : declared.columns = .ok columns) {live : LiveColumn}
    (member : live ∈ table.describe) :
    ∃ field, (live.name, field) ∈ declared.fields ∧ live.Shows field := by
  rcases List.mem_map.1 member with ⟨column, columnMember, rfl⟩
  have named : column.name ∈ declared.fields.map (·.1) := by
    rw [← realizes.names]
    exact List.mem_map_of_mem columnMember
  rcases List.mem_map.1 named with ⟨⟨_, field⟩, listed, rfl⟩
  rcases Table.exists_column_of_field mapped listed with ⟨definition, inColumns, fieldMapped⟩
  rcases Column.attributes_of_ofField fieldMapped with ⟨nullable, autoIncrement, default, _⟩
  rcases realizes.keys listed with ⟨key, foreignKey⟩
  have fits := realizes.fits columnMember inColumns
  refine ⟨field, listed, ⟨definition, fieldMapped, fits.type⟩, fits.nullable.trans nullable,
    fits.autoIncrement.trans autoIncrement, key, foreignKey, ?_⟩
  rw [← default]
  exact fits.default

/-- Creating a table and any other way to realize the declaration show the same. -/
theorem Realizes.sameUpToOrder (realizes : table.Realizes declared columns)
    (mapped : declared.columns = .ok columns) :
    SameUpToOrder (created declared columns).describe table.describe where
  names := by
    have createdRealizes := realizes_created mapped
    rw [names_describe, names_describe,
      List.perm_ext_iff_of_nodup createdRealizes.coherent.columns realizes.coherent.columns]
    intro name
    rw [createdRealizes.names, realizes.names]
  alike := by
    intro live member other otherMember sameName
    rcases (realizes_created mapped).exists_shown mapped member with ⟨field, listed, liveShows⟩
    rcases realizes.exists_shown mapped otherMember with ⟨otherField, otherListed, otherShows⟩
    rw [← sameName] at otherListed
    rw [declared.field_unique otherListed listed] at otherShows
    refine liveShows.alike otherShows sameName ?_
    rcases List.mem_map.1 member with ⟨column, columnMember, rfl⟩
    rcases List.mem_map.1 columnMember with ⟨⟨name, definition⟩, entryListed, rfl⟩
    rcases Table.exists_field_of_column mapped entryListed with ⟨own, ownListed, ownMapped⟩
    rw [declared.field_unique listed ownListed,
      ← (Column.attributes_of_ofField ownMapped).2.2.1]
    rfl

/-! ## Further steps -/

theorem Realizes.noneMissing (realizes : table.Realizes declared columns)
    (mapped : declared.columns = .ok columns) :
    (columns.filter fun entry => entry.1 ∉ table.describe.map (·.name)) = [] := by
  rw [List.filter_eq_nil_iff]
  intro entry member
  rw [decide_eq_true_eq, not_not, names_describe, realizes.names, ← Table.columnNames mapped]
  exact List.mem_map_of_mem member

/-- A column that an alteration would redefine has just been made so. -/
private theorem Realizes.redefined_eq_self (realizes : table.Realizes declared columns)
    {column : LiveColumn} (member : column ∈ table.columns) :
    redefined (Plan.changedColumns columns table.describe) column = column := by
  unfold redefined
  cases found : (Plan.changedColumns columns table.describe).lookup column.name with
  | none => rfl
  | some definition =>
      rcases List.lookup_eq_some_iff.1 found with ⟨before, behind, split, _⟩
      have changed : (column.name, definition) ∈
          Plan.changedColumns columns table.describe := by simp [split]
      rw [Plan.changedColumns, List.mem_filter] at changed
      rcases changed with ⟨listed, differs⟩
      rw [realizes.coherent.describedColumn? member, Option.any_some,
        columnAgrees_described] at differs
      rcases realizes.defined column member definition listed with agrees | same
      · rw [agrees] at differs
        contradiction
      · exact same.symm

/-- An alteration by the declaration that a table realizes does not show. -/
theorem Realizes.describe_altered (realizes : table.Realizes declared columns)
    (mapped : declared.columns = .ok columns) :
    (table.altered declared columns).describe = table.describe := by
  have named : ∀ name ∈ table.columnNames, name ∈ columns.map (·.1) := by
    intro name member
    rw [Table.columnNames mapped]
    exact (realizes.names name).1 member
  have kept : table.columns.filter (fun column => column.name ∈ columns.map (·.1)) =
      table.columns := by
    rw [List.filter_eq_self]
    intro column member
    rw [decide_eq_true_eq]
    exact named column.name (List.mem_map_of_mem member)
  have sameColumns : (table.altered declared columns).columns = table.columns := by
    show (extended columns table.describe table.columns).map _ = _
    rw [extended, kept, realizes.noneMissing mapped, List.map_nil, List.append_nil]
    calc table.columns.map (redefined (Plan.changedColumns columns table.describe))
        = table.columns.map id :=
          List.map_congr_left fun column member => realizes.redefined_eq_self member
      _ = table.columns := List.map_id _
  have again := realizes_altered realizes.coherent mapped
  rw [describe_eq_map, describe_eq_map, sameColumns]
  apply List.map_congr_left
  intro column member
  obtain ⟨⟨_, definition⟩, listed, rfl⟩ :=
    List.mem_map.1 (named column.name (List.mem_map_of_mem member))
  rcases Table.exists_field_of_column mapped listed with ⟨field, fieldListed, _⟩
  unfold described
  rw [(again.keys fieldListed).1, (again.keys fieldListed).2, (realizes.keys fieldListed).1,
    (realizes.keys fieldListed).2]

/-- The next plan for the declaration that a table realizes is an alteration: its
description is not empty, and every described column has a type. -/
theorem Realizes.planFor (realizes : table.Realizes declared columns)
    (mapped : declared.columns = .ok columns) :
    declared.planFor table.describe =
      .ok (.alter declared.name (declared.operationsFor columns table.describe)) := by
  apply planFor_eq_alter mapped
  · intro empty
    have noNames : table.columnNames = [] := by rw [← names_describe, empty, List.map_nil]
    cases fields : declared.fields with
    | nil => exact declared.fields_ne_nil fields
    | cons entry rest =>
        have present := (realizes.names entry.1).2 (by simp [fields])
        rw [noNames] at present
        contradiction
  · intro live member
    rcases realizes.exists_shown mapped member with ⟨field, _, shows⟩
    rcases shows.type with ⟨definition, _, sameType⟩
    intro blank
    rw [Text.sameIgnoringCase_iff, blank] at sameType
    have empty : definition.describedType.toList = [] := by simpa using sameType.symm
    exact definition.describedType_ne_empty (String.toList_eq_nil_iff.1 empty)

end Descriptions

/-! ## Convergence -/

/-- A table shows a declaration: its columns are the declared fields, those that were
there before in their old order and the others as declared, each as its field needs. -/
structure Converged (before : PhysicalTable) (declared : Table) (after : PhysicalTable) :
    Prop where
  distinct : (after.describe.map (·.name)).Nodup
  fields : (after.describe.map (·.name)).Perm (declared.fields.map (·.1))
  order : after.describe.map (·.name) =
    (before.describe.map (·.name)).filter (· ∈ declared.fields.map (·.1)) ++
      (declared.fields.map (·.1)).filter (· ∉ before.describe.map (·.name))
  shown : ∀ live ∈ after.describe,
    ∃ field, (live.name, field) ∈ declared.fields ∧ live.Shows field
  asCreated : ∃ creation fresh, declared.planFor [] = .ok (.create creation) ∧
    missing.apply (.create creation) = .ok fresh ∧ SameUpToOrder fresh.describe after.describe
  stable : ∃ plan again, declared.planFor after.describe = .ok plan ∧
    after.apply plan = .ok again ∧ again.describe = after.describe

/-- Whatever a table starts from and whatever was declared before, a plan brings the
table to its declaration. -/
theorem plan_converges {start : PhysicalTable} (initial : start.Initial) (history : List Table)
    (declared : Table) :
    ∃ before, start.reconcileAll history = .ok before ∧
      ∀ plan, declared.planFor before.describe = .ok plan →
        ∃ after, before.apply plan = .ok after ∧ before.Converged declared after := by
  rcases reconcileAll_ok initial.coherent history with ⟨before, ran, coherent⟩
  refine ⟨before, ran, ?_⟩
  intro plan planned
  rcases declared.exists_columns with ⟨columns, mapped⟩
  rcases apply_planFor coherent mapped planned with ⟨after, applied, realizes, order⟩
  refine ⟨after, applied, ?_, ?_, ?_, fun live => realizes.exists_shown mapped, ?_, ?_⟩
  · rw [names_describe]
    exact realizes.coherent.columns
  · rw [names_describe, List.perm_ext_iff_of_nodup realizes.coherent.columns
      declared.nodup_fieldNames]
    exact realizes.names
  · rw [names_describe, names_describe]
    exact order
  · exact ⟨_, created declared columns, planFor_nil mapped, rfl, realizes.sameUpToOrder mapped⟩
  · exact ⟨_, _, realizes.planFor mapped, apply_operationsFor realizes.coherent mapped _,
      realizes.describe_altered mapped⟩

/-- The old invoices after they became plain ones. -/
def plainTable : PhysicalTable where
  columns :=
    [⟨"code", "varchar(20)", false, none, false, none, ""⟩,
      ⟨"state", "varchar(10)", false, none, false, none, ""⟩]
  primary := ["code"]
  unique := ["state"]
  foreign := []

/-- The old invoices, once brought to one declaration, converge to the other. -/
theorem oldInvoices_converge :
    ∃ before plan after, (ofLive oldInvoices).reconcileAll [plainInvoices] = .ok before ∧
      invoices.planFor before.describe = .ok plan ∧ before.apply plan = .ok after ∧
        before.Converged invoices after := by
  rcases invoices.exists_columns with ⟨columns, mapped⟩
  obtain ⟨before, ran, converges⟩ :=
    plan_converges (.described oldInvoices (by decide)) [plainInvoices] invoices
  have plain : (ofLive oldInvoices).reconcileAll [plainInvoices] = .ok plainTable := by
    decide +kernel
  rw [plain] at ran
  cases ran
  have planned : invoices.planFor plainTable.describe =
      .ok (.alter "invoices" (invoices.operationsFor columns plainTable.describe)) :=
    planFor_eq_alter mapped (by decide) (by decide)
  rcases converges _ planned with ⟨after, applied, converged⟩
  exact ⟨_, _, after, plain, planned, applied, converged⟩

end PhysicalTable

end SchemaKeeper
