import SchemaKeeper.Plan.Basic
import SchemaKeeper.Proofs.Entries
import SchemaKeeper.Proofs.Results

/-!
Contract: what an accepted declaration guarantees.

Acceptance is a check that ran once. Here it is turned into facts that plans rest
on: names are distinct, every field has a column, and the columns of a table are
those of its fields, one by one.

Owns: the consequences of acceptance for names and columns.
-/

namespace SchemaKeeper

namespace Table

/-! ## The checks -/

/-- What the check of a field, with some names declared before it, makes sure of. -/
private structure FieldFacts (table : String) (seen : List String) (name : String)
    (field : Field) : Prop where
  fresh : name ∉ seen
  mapped : ∃ column, Column.ofField field = .ok column
  default : ∀ value, field.default = some value →
    Field.checkValue table name field false value = .ok ()
  reference : ∀ reference, field.reference = some reference →
    checkReference table name field reference = .ok ()

private theorem fieldFacts_of_checkField {table name : String} {seen : List String}
    {field : Field} (accepted : checkField table seen name field = .ok ()) :
    FieldFacts table seen name field := by
  unfold checkField at accepted
  by_cases repeated : seen.contains name = true
  · rw [if_pos repeated] at accepted
    contradiction
  rw [if_neg repeated] at accepted
  by_cases unsized : (field.maxSize.isNone && decide (field.kind ≠ .boolean)) = true
  · rw [if_pos unsized] at accepted
    contradiction
  rw [if_neg unsized] at accepted
  cases mapped : Column.ofField field with
  | error cause =>
      rw [mapped] at accepted
      contradiction
  | ok column =>
      rw [mapped] at accepted
      dsimp only at accepted
      -- A refused default ends the check; otherwise the reference is checked behind it.
      have parts : (∀ value, field.default = some value →
            Field.checkValue table name field false value = .ok ()) ∧
          ∀ reference, field.reference = some reference →
            checkReference table name field reference = .ok () := by
        cases declared : field.default with
        | none =>
            rw [declared] at accepted
            refine ⟨by simp, fun reference referenced => ?_⟩
            rwa [referenced] at accepted
        | some value =>
            rw [declared] at accepted
            dsimp only at accepted
            cases checked : Field.checkValue table name field false value with
            | error cause =>
                rw [checked] at accepted
                contradiction
            | ok =>
                rw [checked] at accepted
                refine ⟨?_, fun reference referenced => ?_⟩
                · rintro _ ⟨⟩
                  exact checked
                · rwa [referenced] at accepted
      exact ⟨by simpa using repeated, ⟨column, mapped⟩, parts.1, parts.2⟩

private theorem facts_of_checkFields {table : String} {seen : List String}
    {fields : List (String × Field)} (accepted : checkFields table seen fields = .ok ()) :
    (fields.map (·.1)).Nodup ∧
      ∀ entry ∈ fields, ∃ before, seen ⊆ before ∧ FieldFacts table before entry.1 entry.2 := by
  induction fields generalizing seen with
  | nil => simp
  | cons entry rest inductionHypothesis =>
      rcases entry with ⟨name, field⟩
      rw [checkFields, bind_eq_ok_iff] at accepted
      rcases accepted with ⟨_, first, accepted⟩
      rcases inductionHypothesis accepted with ⟨distinct, others⟩
      constructor
      · rw [List.map_cons, List.nodup_cons]
        refine ⟨fun repeated => ?_, distinct⟩
        rcases List.mem_map.1 repeated with ⟨other, member, same⟩
        rcases others other member with ⟨before, known, facts⟩
        exact facts.fresh (known (by simp [same]))
      · intro other member
        rcases List.mem_cons.1 member with rfl | member
        · exact ⟨seen, List.Subset.refl seen, fieldFacts_of_checkField first⟩
        · rcases others other member with ⟨before, known, facts⟩
          exact ⟨before, List.Subset.trans (List.subset_cons_self name seen) known, facts⟩

private theorem checkFields_of_check {name : String} {fields : List (String × Field)}
    (accepted : check name fields = .ok ()) :
    fields ≠ [] ∧ checkFields name [] fields = .ok () := by
  unfold check at accepted
  split at accepted
  · contradiction
  · split at accepted
    · contradiction
    · exact ⟨by assumption, accepted⟩

/-! ## Names -/

variable (table : Table)

theorem fields_ne_nil : table.fields ≠ [] :=
  (checkFields_of_check table.accepted).1

theorem nodup_fieldNames : (table.fields.map (·.1)).Nodup :=
  (facts_of_checkFields (checkFields_of_check table.accepted).2).1

private theorem exists_fieldFacts {entry : String × Field} (member : entry ∈ table.fields) :
    ∃ before, FieldFacts table.name before entry.1 entry.2 := by
  have facts := (facts_of_checkFields (checkFields_of_check table.accepted).2).2
  obtain ⟨before, _, entryFacts⟩ := facts entry member
  exact ⟨before, entryFacts⟩

theorem field_unique {name : String} {left right : Field}
    (leftMember : (name, left) ∈ table.fields) (rightMember : (name, right) ∈ table.fields) :
    left = right := by
  have same := List.inj_on_of_nodup_map table.nodup_fieldNames leftMember rightMember rfl
  exact congrArg Prod.snd same

/-- What holds of some field of a name holds of the one that it has. -/
theorem exists_field_iff {name : String} {field : Field} (listed : (name, field) ∈ table.fields)
    (holds : Field → Prop) :
    (∃ other, (name, other) ∈ table.fields ∧ holds other) ↔ holds field := by
  constructor
  · rintro ⟨other, otherListed, otherHolds⟩
    rw [table.field_unique listed otherListed]
    exact otherHolds
  · exact fun fieldHolds => ⟨field, listed, fieldHolds⟩

theorem field?_eq_some_iff {name : String} {field : Field} :
    table.field? name = some field ↔ (name, field) ∈ table.fields :=
  lookup_eq_some_iff_mem table.nodup_fieldNames

/-- The declared default of a field is a value of the field. -/
theorem checkValue_default {name : String} {field : Field} {value : Value}
    (listed : (name, field) ∈ table.fields) (declared : field.default = some value) :
    Field.checkValue table.name name field false value = .ok () := by
  obtain ⟨_, facts⟩ := table.exists_fieldFacts listed
  exact facts.default value declared

/-- The declared reference of a field agrees with its target. -/
theorem checkReference_of_listed {name : String} {field : Field} {reference : Reference}
    (listed : (name, field) ∈ table.fields) (declared : field.reference = some reference) :
    checkReference table.name name field reference = .ok () := by
  obtain ⟨_, facts⟩ := table.exists_fieldFacts listed
  exact facts.reference reference declared

theorem contains_requiredFields {name : String} {field : Field}
    (listed : (name, field) ∈ table.fields) :
    table.requiredFields.contains name = field.isRequired := by
  rw [Bool.eq_iff_iff, List.contains_iff_mem]
  simp only [requiredFields, List.mem_map, List.mem_filter, Prod.exists, exists_and_right,
    exists_eq_right]
  exact table.exists_field_iff listed fun other => other.isRequired = true

/-! ## Keys and written fields -/

private theorem nodup_filtered (keep : String × Field → Bool) :
    ((table.fields.filter keep).map (·.1)).Nodup :=
  (List.filter_sublist.map _).nodup table.nodup_fieldNames

theorem nodup_primaryKey : table.primaryKey.Nodup :=
  nodup_filtered table _

theorem nodup_uniqueFields : table.uniqueFields.Nodup :=
  nodup_filtered table _

theorem nodup_writableFields : table.writableFields.Nodup :=
  nodup_filtered table _

theorem mem_primaryKey_iff (name : String) :
    name ∈ table.primaryKey ↔
      ∃ field, (name, field) ∈ table.fields ∧ field.primaryKey = true := by
  simp [primaryKey]

theorem mem_uniqueFields_iff (name : String) :
    name ∈ table.uniqueFields ↔
      ∃ field, (name, field) ∈ table.fields ∧ field.unique = true ∧
        field.primaryKey = false := by
  simp [uniqueFields]

theorem mem_writableFields_iff (name : String) :
    name ∈ table.writableFields ↔
      ∃ field, (name, field) ∈ table.fields ∧ field.autoIncrement = false := by
  simp [writableFields]

theorem autoIncrement_of_mem_writableFields {name : String} {field : Field}
    (listed : (name, field) ∈ table.fields) (writable : name ∈ table.writableFields) :
    field.autoIncrement = false := by
  rw [mem_writableFields_iff] at writable
  exact (table.exists_field_iff listed fun other => other.autoIncrement = false).1 writable

theorem fieldName_of_mem_primaryKey {name : String} (member : name ∈ table.primaryKey) :
    name ∈ table.fields.map (·.1) := by
  rcases (table.mem_primaryKey_iff name).1 member with ⟨field, fieldMember, _⟩
  exact List.mem_map_of_mem fieldMember

theorem fieldName_of_mem_uniqueFields {name : String} (member : name ∈ table.uniqueFields) :
    name ∈ table.fields.map (·.1) := by
  rcases (table.mem_uniqueFields_iff name).1 member with ⟨field, fieldMember, _⟩
  exact List.mem_map_of_mem fieldMember

/-- A field of the primary key carries no unique index of its own. -/
theorem notMem_uniqueFields_of_mem_primaryKey {name : String}
    (member : name ∈ table.primaryKey) : name ∉ table.uniqueFields := by
  intro unique
  rcases (table.mem_primaryKey_iff name).1 member with ⟨left, leftMember, isPrimary⟩
  rcases (table.mem_uniqueFields_iff name).1 unique with ⟨right, rightMember, _, notPrimary⟩
  rw [table.field_unique leftMember rightMember, notPrimary] at isPrimary
  contradiction

/-! ## Columns -/

theorem exists_column {entry : String × Field} (member : entry ∈ table.fields) :
    ∃ column, Column.ofField entry.2 = .ok column := by
  obtain ⟨_, facts⟩ := table.exists_fieldFacts member
  exact facts.mapped

/-- A named field and the named column that it needs. -/
def Maps (field : String × Field) (column : String × Column) : Prop :=
  column.1 = field.1 ∧ Column.ofField field.2 = .ok column.2

private theorem maps_of_columnsOf {fields : List (String × Field)}
    {columns : List (String × Column)} (mapped : columnsOf fields = .ok columns) :
    List.Forall₂ Maps fields columns := by
  induction fields generalizing columns with
  | nil =>
      cases mapped
      exact .nil
  | cons entry rest inductionHypothesis =>
      rcases entry with ⟨name, field⟩
      rw [columnsOf, bind_eq_ok_iff] at mapped
      rcases mapped with ⟨column, first, mapped⟩
      rw [bind_eq_ok_iff] at mapped
      rcases mapped with ⟨others, restMapped, same⟩
      cases same
      exact .cons ⟨rfl, mapError_eq_ok_iff.1 first⟩ (inductionHypothesis restMapped)

private theorem exists_columnsOf {fields : List (String × Field)}
    (mapped : ∀ entry ∈ fields, ∃ column, Column.ofField entry.2 = .ok column) :
    ∃ columns, columnsOf fields = .ok columns := by
  induction fields with
  | nil => exact ⟨[], rfl⟩
  | cons entry rest inductionHypothesis =>
      rcases mapped entry (by simp) with ⟨column, first⟩
      obtain ⟨columns, others⟩ :=
        inductionHypothesis fun other member => mapped other (List.mem_cons_of_mem _ member)
      refine ⟨(entry.1, column) :: columns, ?_⟩
      rw [columnsOf, bind_eq_ok_iff]
      refine ⟨column, mapError_eq_ok_iff.2 first, ?_⟩
      rw [bind_eq_ok_iff]
      exact ⟨columns, others, rfl⟩

/-- A table has columns: the mapping of an accepted declaration does not fail. -/
theorem exists_columns : ∃ columns, table.columns = .ok columns :=
  exists_columnsOf fun _ member => table.exists_column member

def references : List (String × ReferenceTarget) :=
  table.fields.filterMap fun entry =>
    entry.2.reference.map fun reference => (entry.1, reference.target)

end Table

/-- A column keeps the flags, the default and the reference of its field. -/
theorem Column.attributes_of_ofField {field : Field} {column : Column}
    (mapped : Column.ofField field = .ok column) :
    column.nullable = field.nullable ∧ column.autoIncrement = field.autoIncrement ∧
      column.default = field.default ∧ column.reference = field.reference.map (·.target) := by
  unfold Column.ofField at mapped
  rw [bind_eq_ok_iff] at mapped
  rcases mapped with ⟨choice, _, same⟩
  cases same
  exact ⟨rfl, rfl, rfl, rfl⟩

/-- A column has the type that its field asks for. -/
theorem Column.typeFor_of_ofField {field : Field} {column : Column}
    (mapped : Column.ofField field = .ok column) :
    Column.typeFor field.kind field.maxSize = .ok (column.type, column.size) ∧
      column.unsigned = decide (field.kind = .unsignedInt) := by
  unfold Column.ofField at mapped
  rw [bind_eq_ok_iff] at mapped
  rcases mapped with ⟨choice, typed, same⟩
  cases same
  exact ⟨typed, rfl⟩

namespace Table

section Columns

variable {table : Table} {columns : List (String × Column)}

theorem maps_columns (mapped : table.columns = .ok columns) :
    List.Forall₂ Maps table.fields columns :=
  maps_of_columnsOf mapped

private theorem map_fst_of_maps {fields : List (String × Field)}
    (maps : List.Forall₂ Maps fields columns) :
    columns.map (·.1) = fields.map (·.1) := by
  induction maps with
  | nil => rfl
  | cons first _ inductionHypothesis =>
      rw [List.map_cons, List.map_cons, first.1, inductionHypothesis]

theorem columnNames (mapped : table.columns = .ok columns) :
    columns.map (·.1) = table.fields.map (·.1) :=
  map_fst_of_maps (maps_columns mapped)

theorem nodup_columnNames (mapped : table.columns = .ok columns) :
    (columns.map (·.1)).Nodup := by
  rw [columnNames mapped]
  exact table.nodup_fieldNames

theorem exists_field_of_column (mapped : table.columns = .ok columns) {name : String}
    {column : Column} (member : (name, column) ∈ columns) :
    ∃ field, (name, field) ∈ table.fields ∧ Column.ofField field = .ok column := by
  obtain ⟨⟨_, field⟩, fieldMember, rfl, fieldMapped⟩ :=
    exists_of_mem_aligned (maps_columns mapped) member
  exact ⟨field, fieldMember, fieldMapped⟩

theorem exists_column_of_field (mapped : table.columns = .ok columns) {name : String}
    {field : Field} (member : (name, field) ∈ table.fields) :
    ∃ column, (name, column) ∈ columns ∧ Column.ofField field = .ok column := by
  have named : name ∈ columns.map (·.1) := by
    rw [columnNames mapped]
    exact List.mem_map_of_mem member
  rcases List.mem_map.1 named with ⟨⟨_, column⟩, listed, rfl⟩
  rcases exists_field_of_column mapped listed with ⟨own, ownMember, ownMapped⟩
  rw [table.field_unique member ownMember]
  exact ⟨column, listed, ownMapped⟩

private theorem references_of_maps {fields : List (String × Field)}
    (maps : List.Forall₂ Maps fields columns) :
    Column.references columns = fields.filterMap fun entry =>
      entry.2.reference.map fun reference => (entry.1, reference.target) := by
  induction maps with
  | nil => rfl
  | @cons field column fields columns first _ inductionHypothesis =>
      have target := (Column.attributes_of_ofField first.2).2.2.2
      unfold Column.references at inductionHypothesis ⊢
      rw [List.filterMap_cons, List.filterMap_cons, inductionHypothesis, target, first.1]
      cases field.2.reference <;> rfl

theorem references_columns (mapped : table.columns = .ok columns) :
    Column.references columns = table.references :=
  references_of_maps (maps_columns mapped)

theorem nodup_references (table : Table) : (table.references.map (·.1)).Nodup := by
  have named : table.references.map (·.1) =
      (table.fields.filter fun entry => entry.2.reference.isSome).map (·.1) := by
    unfold references
    induction table.fields with
    | nil => rfl
    | cons entry rest inductionHypothesis =>
        rcases entry with ⟨name, field⟩
        cases reference : field.reference with
        | none => simpa [reference] using inductionHypothesis
        | some target => simpa [reference] using inductionHypothesis
  rw [named]
  exact nodup_filtered table _

theorem mem_references_iff (table : Table) (name : String) :
    name ∈ table.references.map (·.1) ↔
      ∃ field, (name, field) ∈ table.fields ∧ field.reference.isSome = true := by
  simp [references, Option.isSome_iff_exists]

end Columns

/-! ## Creations -/

theorem exists_creation (table : Table) : ∃ creation, table.creation = .ok creation := by
  obtain ⟨columns, mapped⟩ := table.exists_columns
  exact ⟨_, bind_eq_ok_iff.2 ⟨columns, mapped, rfl⟩⟩

section Creations

variable {table : Table} {creation : Creation}

theorem creation_name (created : table.creation = .ok creation) : creation.name = table.name := by
  obtain ⟨_, _, same⟩ := bind_eq_ok_iff.1 created
  cases same
  rfl

theorem creation_columns_ne_nil (created : table.creation = .ok creation) :
    creation.columns ≠ [] := by
  obtain ⟨columns, mapped, same⟩ := bind_eq_ok_iff.1 created
  cases same
  rintro (rfl : columns = [])
  have names := Table.columnNames mapped
  exact table.fields_ne_nil (List.map_eq_nil_iff.1 names.symm)

theorem creation_foreignKeys (created : table.creation = .ok creation) :
    creation.foreignKeys = table.references := by
  obtain ⟨columns, mapped, same⟩ := bind_eq_ok_iff.1 created
  cases same
  exact references_columns mapped

end Creations

end Table

end SchemaKeeper
