import SchemaKeeper.Document.Basic
import SchemaKeeper.Proofs.Declarations

/-!
Contract: every reference of a document that builds points back.

A reference is settled in two places. The document looks its target up among the tables
built so far and copies the shape of the target field, and the check of the table then
compares that copy with the field that refers. A reference to the table itself skips the
lookup and is refused by the check.

Owns: where references point, and that the clauses of a creation are the references of
the document.
-/

namespace SchemaKeeper

/-! ## Targets -/

def FieldDefinition.shape (stated : FieldDefinition) : FieldShape :=
  ⟨stated.kind, stated.maxSize, stated.minSize⟩

/-- The target of a stated reference, with its actions. -/
def ReferenceDefinition.target (stated : ReferenceDefinition) : ReferenceTarget :=
  ⟨stated.table, stated.field, stated.onDelete, stated.onUpdate⟩

/-- The field is declared as the document states it. -/
structure FieldDefinition.Declares (stated : FieldDefinition) (entry : String × Field) : Prop where
  name : entry.1 = stated.name
  shape : entry.2.shape = stated.shape
  target : entry.2.reference.map (·.target) = stated.reference.map (·.target)

/-- The kinds are the same, and so are the bounds as numbers. -/
structure FieldShape.Same (left right : FieldShape) : Prop where
  kind : left.kind = right.kind
  maxSize : Binary64.sameOptional left.maxSize right.maxSize = true
  minSize : Binary64.sameOptional left.minSize right.minSize = true

/-- The first table of a name among the tables in front of a position. -/
structure FirstBefore (tables : List Table) (position : Nat) (name : String) (earlier : Nat)
    (target : Table) : Prop where
  before : earlier < position
  placed : tables[earlier]? = some target
  named : target.name = name
  first : ∀ index other, index < earlier → tables[index]? = some other → other.name ≠ name

/-- A reference in the table at a position points to another table further up: to a
field of the first table of that name, whose shape it keeps and the referring field has. -/
structure PointsBack (tables : List Table) (position : Nat) (table : String) (field : Field)
    (reference : Reference) : Prop where
  another : reference.target.table ≠ table
  found : ∃ earlier target targetField,
    FirstBefore tables position reference.target.table earlier target ∧
    target.field? reference.target.field = some targetField ∧
    reference.shape = some targetField.shape ∧ targetField.shape.Same field.shape

/-! ## Lookups -/

theorem firstBefore_of_find? {tables : List Table} {position : Nat} {name : String}
    {target : Table}
    (found : (tables.take position).find? (fun candidate => candidate.name == name) =
      some target) : ∃ earlier, FirstBefore tables position name earlier target := by
  obtain ⟨named, earlier, inside, here, others⟩ := List.find?_eq_some_iff_getElem.1 found
  rw [List.length_take, Nat.lt_min] at inside
  rw [List.getElem_take] at here
  refine ⟨earlier, inside.1, ?_, by simpa using named, fun index other before placed => ?_⟩
  · rw [List.getElem?_eq_getElem inside.2, here]
  · have different := others index before
    rw [List.getElem_take] at different
    rw [List.getElem?_eq_getElem (Nat.lt_trans before inside.2), Option.some_inj] at placed
    simpa [placed] using different

/-! ## Definitions -/

section Definitions

variable {built : List Table} {table : String}

theorem ReferenceDefinition.target_of_resolve {stated : ReferenceDefinition} {field : String}
    {reference : Reference} (resolved : stated.resolve built table field = .ok reference) :
    reference.target = stated.target := by
  unfold resolve at resolved
  split at resolved
  · cases resolved
    rfl
  · split at resolved
    · contradiction
    next target found =>
      have named := List.find?_some found
      cases resolved
      simpa [Table.referenceTo, ReferenceDefinition.target] using named

/-- A reference to another table is looked up among the tables built so far. -/
theorem ReferenceDefinition.find?_of_resolve {stated : ReferenceDefinition} {field : String}
    {reference : Reference} (resolved : stated.resolve built table field = .ok reference)
    (another : stated.table ≠ table) :
    ∃ target, built.find? (fun candidate => candidate.name == stated.table) = some target ∧
      reference.shape = (target.field? stated.field).map Field.shape := by
  rw [resolve, if_neg another] at resolved
  split at resolved
  · contradiction
  next target found =>
    cases resolved
    exact ⟨target, found, rfl⟩

/-- The reference of a field comes from the one that its definition states. -/
def Resolved (built : List Table) (table : String) (stated : FieldDefinition) (field : Field) :
    Prop :=
  ∀ reference, field.reference = some reference → ∃ definition,
    stated.reference = some definition ∧
      definition.resolve built table stated.name = .ok reference

/-- A definition gives a field of its shape, which the resolved reference is put on. -/
theorem FieldDefinition.toField_eq (stated : FieldDefinition) (built : List Table)
    (table : String) :
    ∃ plain : Field, plain.shape = stated.shape ∧ plain.reference = none ∧
      stated.toField built table = match stated.reference with
        | none => .ok plain
        | some definition => do
            let reference ← definition.resolve built table stated.name
            return { plain with reference := some reference } := by
  unfold toField
  cases stated.default <;> exact ⟨_, rfl, rfl, rfl⟩

theorem FieldDefinition.of_toField {stated : FieldDefinition} {field : Field}
    (converted : stated.toField built table = .ok field) :
    stated.Declares (stated.name, field) ∧ Resolved built table stated field := by
  obtain ⟨plain, shape, noReference, conversion⟩ := stated.toField_eq built table
  rw [conversion] at converted
  cases stating : stated.reference with
  | none =>
      rw [stating] at converted
      cases converted
      refine ⟨⟨rfl, shape, by rw [noReference, stating]; rfl⟩, fun reference referenced => ?_⟩
      rw [noReference] at referenced
      contradiction
  | some definition =>
      rw [stating] at converted
      obtain ⟨reference, resolved, same⟩ := bind_eq_ok_iff.1 converted
      cases same
      refine ⟨⟨rfl, shape, ?_⟩, fun own referenced => ?_⟩
      · rw [stating, Option.map_some, Option.map_some,
          ReferenceDefinition.target_of_resolve resolved]
      · cases referenced
        exact ⟨definition, stating, resolved⟩

theorem TableDefinition.of_toFields {definitions : List FieldDefinition}
    {fields : List (String × Field)}
    (converted : toFields built table definitions = .ok fields) :
    List.Forall₂ (fun stated entry =>
      stated.Declares entry ∧ Resolved built table stated entry.2) definitions fields := by
  induction definitions generalizing fields with
  | nil =>
      cases converted
      exact .nil
  | cons stated definitions inductionHypothesis =>
      obtain ⟨field, first, converted⟩ := bind_eq_ok_iff.1 converted
      obtain ⟨others, rest, same⟩ := bind_eq_ok_iff.1 converted
      cases same
      exact .cons (FieldDefinition.of_toField first) (inductionHypothesis rest)

theorem Table.of_build {name : String} {fields : List (String × Field)} {result : Table}
    (accepted : Table.build name fields = .ok result) :
    result.name = name ∧ result.fields = fields := by
  unfold Table.build at accepted
  split at accepted
  · cases accepted
    exact ⟨rfl, rfl⟩
  · contradiction

theorem TableDefinition.of_build {definition : TableDefinition} {result : Table}
    (accepted : definition.build built = .ok result) :
    result.name = definition.name ∧
      List.Forall₂ (fun stated entry =>
        stated.Declares entry ∧ Resolved built definition.name stated entry.2)
        definition.fields result.fields := by
  obtain ⟨fields, converted, accepted⟩ := bind_eq_ok_iff.1 accepted
  obtain ⟨named, declared⟩ := Table.of_build accepted
  rw [declared]
  exact ⟨named, of_toFields converted⟩

end Definitions

/-! ## Documents -/

namespace Document

/-- Each definition is built behind the tables of those in front of it. -/
theorem of_buildTables {built tables : List Table} {definitions : List TableDefinition}
    (accepted : buildTables built definitions = .ok tables) :
    ∃ more, tables = built ++ more ∧ definitions.length = more.length ∧
      ∀ index (definition : TableDefinition) (table : Table),
        definitions[index]? = some definition →
        more[index]? = some table → definition.build (built ++ more.take index) = .ok table := by
  induction definitions generalizing built with
  | nil =>
      cases accepted
      exact ⟨[], by simp, rfl, by simp⟩
  | cons head definitions inductionHypothesis =>
      obtain ⟨first, firstBuilt, accepted⟩ := bind_eq_ok_iff.1 accepted
      obtain ⟨more, extended, sameLength, others⟩ := inductionHypothesis accepted
      refine ⟨first :: more, by simp [extended], by simp [sameLength], ?_⟩
      rintro (_ | index) definition table stated placed
      · cases stated
        cases placed
        simpa using firstBuilt
      · simpa using others index definition table stated placed

theorem of_build {document : Document} {tables : List Table}
    (accepted : document.build = .ok tables) :
    document.tables.length = tables.length ∧
      ∀ position (definition : TableDefinition) (table : Table),
        document.tables[position]? = some definition → tables[position]? = some table →
          definition.build (tables.take position) = .ok table := by
  obtain ⟨more, same, sameLength, each⟩ := of_buildTables accepted
  rw [List.nil_append] at same
  subst same
  exact ⟨sameLength, each⟩

end Document

theorem Table.of_checkReference {table name : String} {field : Field} {reference : Reference}
    (accepted : checkReference table name field reference = .ok ()) :
    reference.target.table ≠ table ∧
      ∃ shape, reference.shape = some shape ∧ shape.Same field.shape := by
  unfold checkReference at accepted
  split at accepted
  · contradiction
  next another =>
    refine ⟨another, ?_⟩
    split at accepted
    · contradiction
    next shape captured =>
      split at accepted
      · contradiction
      next kind =>
        split at accepted
        · contradiction
        next maxSize =>
          split at accepted
          · contradiction
          next minSize =>
            rw [Bool.not_eq_true, Bool.not_eq_false'] at maxSize minSize
            exact ⟨shape, captured, not_not.1 kind, maxSize, minSize⟩

/-! ## References -/

/-- A field that refers to another one points back. -/
theorem pointsBack_of_resolved {tables : List Table} {position : Nat} {table : String}
    {name : String} {field : Field} {stated : FieldDefinition} {reference : Reference}
    (resolved : Resolved (tables.take position) table stated field)
    (declared : field.reference = some reference)
    (checked : Table.checkReference table name field reference = .ok ()) :
    PointsBack tables position table field reference := by
  obtain ⟨another, shape, captured, same⟩ := Table.of_checkReference checked
  obtain ⟨definition, _, lookup⟩ := resolved reference declared
  have target := ReferenceDefinition.target_of_resolve lookup
  rw [target] at another
  obtain ⟨targetTable, found, copied⟩ := ReferenceDefinition.find?_of_resolve lookup another
  obtain ⟨earlier, first⟩ := firstBefore_of_find? found
  rw [captured] at copied
  obtain ⟨targetField, targetFound, rfl⟩ := Option.map_eq_some_iff.1 copied.symm
  refine ⟨by rwa [target], earlier, targetTable, targetField, ?_, ?_, captured, same⟩
  · rwa [target]
  · rwa [target]

/-- In a document that builds, every table declares its fields as stated, and every
reference, and with it every clause of a creation that refers to another table, points
back to a column of the same shape. -/
theorem references_resolve {document : Document} {tables : List Table}
    (accepted : document.build = .ok tables) :
    document.tables.length = tables.length ∧
    ∀ position (definition : TableDefinition) (table : Table),
      document.tables[position]? = some definition → tables[position]? = some table →
        table.name = definition.name ∧
        List.Forall₂ FieldDefinition.Declares definition.fields table.fields ∧
        (∀ name field reference, (name, field) ∈ table.fields → field.reference = some reference →
          PointsBack tables position table.name field reference) ∧
        ∃ creation, table.creation = .ok creation ∧ ∀ clause ∈ creation.foreignKeys,
          ∃ field reference, (clause.1, field) ∈ table.fields ∧ clause.2 = reference.target ∧
            PointsBack tables position table.name field reference := by
  obtain ⟨sameLength, each⟩ := Document.of_build accepted
  refine ⟨sameLength, fun position definition table stated placed => ?_⟩
  obtain ⟨named, aligned⟩ := TableDefinition.of_build (each position definition table stated placed)
  have back : ∀ name field reference, (name, field) ∈ table.fields →
      field.reference = some reference →
        PointsBack tables position table.name field reference := by
    intro name field reference listed declared
    obtain ⟨statedField, _, _, resolved⟩ := exists_of_mem_aligned aligned listed
    rw [← named] at resolved
    exact pointsBack_of_resolved resolved declared
      (table.checkReference_of_listed listed declared)
  refine ⟨named, aligned.imp fun _ _ both => both.1, back, ?_⟩
  obtain ⟨creation, created⟩ := table.exists_creation
  refine ⟨creation, created, fun clause member => ?_⟩
  rw [Table.creation_foreignKeys created] at member
  obtain ⟨⟨name, field⟩, listed, referenced⟩ := List.mem_filterMap.1 member
  obtain ⟨reference, declared, rfl⟩ := Option.map_eq_some_iff.1 referenced
  exact ⟨field, reference, listed, rfl, back name field reference listed declared⟩

def numbered (name : String) (maxSize : Int) (minSize : Binary64)
    (reference : Option ReferenceDefinition) : FieldDefinition where
  name := name
  kind := .unsignedInt
  maxSize := some (.ofInt maxSize)
  minSize := some minSize
  nullable := false
  unique := false
  primaryKey := reference.isNone
  autoIncrement := reference.isNone
  default := none
  reference := reference

/-- Where a loaned book is listed. -/
def shelf : ReferenceDefinition :=
  ⟨"books", "id", some .cascade, none⟩

/-- The field of loans that refers to books. Its least value is the other zero. -/
def loanedBook : FieldDefinition :=
  numbered "book" 255 (.zero true) (some shelf)

def loans : TableDefinition :=
  ⟨"loans", [loanedBook]⟩

/-- Two tables of one name, and loans that refer to it. -/
def lending : Document :=
  ⟨[⟨"books", [numbered "id" 255 (.zero false) none]⟩,
    ⟨"books", [numbered "id" 65535 (.zero false) none]⟩, loans]⟩

/-- The loans point back. -/
theorem lending_references_resolve :
    ∃ tables, lending.build = .ok tables ∧ tables.map (·.name) = ["books", "books", "loans"] ∧
      ∃ table field reference, tables[2]? = some table ∧ ("book", field) ∈ table.fields ∧
        field.reference = some reference ∧
        reference.target = ⟨"books", "id", some .cascade, none⟩ ∧
        PointsBack tables 2 "loans" field reference := by
  have names : lending.build.toOption.map (·.map (·.name)) = some ["books", "books", "loans"] := by
    decide +kernel
  obtain ⟨tables, built, named⟩ := Option.map_eq_some_iff.1 names
  have accepted := toOption_eq_some_iff.1 built
  obtain ⟨_, resolved⟩ := references_resolve accepted
  obtain ⟨table, placed, tableName⟩ : ∃ table, tables[2]? = some table ∧ table.name = "loans" := by
    rw [← Option.map_eq_some_iff, ← List.getElem?_map, named]
    rfl
  obtain ⟨_, aligned, back, _⟩ := resolved 2 loans table rfl placed
  obtain ⟨⟨name, field⟩, fields, declares, _, listed⟩ := List.forall₂_cons_left_iff.1 aligned
  obtain ⟨reference, declared, target⟩ := Option.map_eq_some_iff.1 declares.target
  obtain rfl : name = "book" := declares.name
  have member : ("book", field) ∈ table.fields := by simp [listed]
  rw [tableName] at back
  exact ⟨tables, accepted, named, table, field, reference, placed, member, declared, target,
    back "book" field reference member declared⟩

end SchemaKeeper
