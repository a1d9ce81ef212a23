import SchemaKeeper.Proofs.Arrangement
import SchemaKeeper.Sql.Statement

/-!
Contract: when a described table is as declared, and when a column is changed.

A declaration and a description match if they have the same columns and the same keys, neither
has constraints, and each column has the type, nullability, numbering and default of its field.
Every phase of a plan is empty just when its part of the two matches, so a plan is empty just
when they match as a whole.

A server reports defaults as texts. Two texts that both read as numbers match as numbers, whatever
the field holds. So a text default can match a described one that is another text.

Owns: matching, its parts phase by phase, and the texts that match as numbers.

Does not own: the order of the operations that are left (`Arrangement`).
-/

namespace SchemaKeeper

/-! ## Columns -/

/-- Both texts read as numbers, and the numbers are equal. What reads as no number at all, such as
`nan`, equals nothing. -/
def ReadAlike (left right : String) : Prop :=
  ∃ leftNumber rightNumber, Binary64.ofText? left = some leftNumber ∧
    Binary64.ofText? right = some rightNumber ∧ leftNumber.sameNumber rightNumber = true

instance (left right : String) : Decidable (ReadAlike left right) :=
  decidable_of_iff (((Binary64.ofText? left).any fun leftNumber =>
    (Binary64.ofText? right).any leftNumber.sameNumber) = true) (by
      simp only [ReadAlike, Option.any_eq_true, exists_and_left])

/-- Two reported defaults match: both are absent, both read as numbers and these are equal, or
not both read as numbers and the texts are equal up to case. -/
inductive DefaultsMatch : Option String → Option String → Prop where
  | absent : DefaultsMatch none none
  | numbers {left right : String} (alike : ReadAlike left right) :
      DefaultsMatch (some left) (some right)
  | texts {left right : String}
      (unread : Binary64.ofText? left = none ∨ Binary64.ofText? right = none)
      (same : Text.sameIgnoringCase left right = true) : DefaultsMatch (some left) (some right)

namespace DefaultsMatch

variable {left right : String}

/-- Where both texts read as numbers, the numbers decide. -/
theorem of_numbers {leftNumber rightNumber : Binary64}
    (leftRead : Binary64.ofText? left = some leftNumber)
    (rightRead : Binary64.ofText? right = some rightNumber) :
    DefaultsMatch (some left) (some right) ↔ leftNumber.sameNumber rightNumber = true := by
  constructor
  · intro agree
    cases agree with
    | numbers alike =>
        obtain ⟨_, _, leftSame, rightSame, same⟩ := alike
        rw [leftRead] at leftSame
        rw [rightRead] at rightSame
        cases leftSame
        cases rightSame
        exact same
    | texts unread _ => simp [leftRead, rightRead] at unread
  · intro same
    exact .numbers ⟨leftNumber, rightNumber, leftRead, rightRead, same⟩

theorem of_unread
    (unread : Binary64.ofText? left = none ∨ Binary64.ofText? right = none) :
    DefaultsMatch (some left) (some right) ↔ Text.sameIgnoringCase left right = true := by
  constructor
  · intro agree
    cases agree with
    | numbers alike =>
        obtain ⟨_, _, leftRead, rightRead, _⟩ := alike
        simp [leftRead, rightRead] at unread
    | texts _ same => exact same
  · exact .texts unread

/-- Texts that differ in more than case only match as numbers. -/
theorem readAlike_iff (different : Text.sameIgnoringCase left right = false) :
    DefaultsMatch (some left) (some right) ↔ ReadAlike left right := by
  constructor
  · intro agree
    cases agree with
    | numbers alike => exact alike
    | texts _ same => exact absurd same (Bool.eq_false_iff.1 different)
  · exact .numbers

end DefaultsMatch

namespace LiveColumn

/-- A described column has the type of a field, is nullable and numbered as the field is. -/
structure LaidOutAs (described : LiveColumn) (field : Field) : Prop where
  type : ∃ column, Column.ofField field = .ok column ∧
    Text.sameIgnoringCase column.describedType (Text.trim described.type) = true
  nullable : described.nullable = field.nullable
  autoIncrement : described.isAutoIncrement = field.autoIncrement

/-- A described column is as a field declares it. -/
structure DeclaredAs (described : LiveColumn) (field : Field) : Prop
    extends described.LaidOutAs field where
  default : DefaultsMatch (field.default.bind Value.plainText?) described.default

end LiveColumn

namespace Plan

theorem defaultsAgree_iff (declared : Option Value) (described : Option String) :
    defaultsAgree declared described = true ↔
      DefaultsMatch (declared.bind Value.plainText?) described := by
  unfold defaultsAgree
  cases declared.bind Value.plainText? with
  | none =>
      cases described with
      | none => exact iff_of_true rfl .absent
      | some there => exact iff_of_false Bool.false_ne_true nofun
  | some here =>
      cases described with
      | none => exact iff_of_false Bool.false_ne_true nofun
      | some there =>
          cases hereRead : Binary64.ofText? here with
          | none => simpa only [hereRead] using (DefaultsMatch.of_unread (.inl hereRead)).symm
          | some left =>
              cases thereRead : Binary64.ofText? there with
              | none =>
                  simpa only [hereRead, thereRead] using
                    (DefaultsMatch.of_unread (.inr thereRead)).symm
              | some right =>
                  simpa only [hereRead, thereRead] using
                    (DefaultsMatch.of_numbers hereRead thereRead).symm

theorem columnAgrees_iff {field : Field} {column : Column}
    (mapped : Column.ofField field = .ok column) (described : LiveColumn) :
    columnAgrees column described = true ↔ described.DeclaredAs field := by
  obtain ⟨nullable, autoIncrement, default, _⟩ := Column.attributes_of_ofField mapped
  simp only [columnAgrees, Bool.and_eq_true, beq_iff_eq, defaultsAgree_iff, nullable,
    autoIncrement, default]
  constructor
  · intro agrees
    exact ⟨⟨⟨column, mapped, agrees.1.1.1⟩, agrees.1.1.2.symm, agrees.1.2.symm⟩, agrees.2⟩
  · intro declared
    obtain ⟨other, otherMapped, sameType⟩ := declared.type
    rw [mapped] at otherMapped
    cases otherMapped
    exact ⟨⟨⟨sameType, declared.nullable.symm⟩, declared.autoIncrement.symm⟩, declared.default⟩

/-! ## Phases -/

theorem mem_keyedNames_iff {kind : KeyKind} {live : List LiveColumn} {name : String} :
    name ∈ keyedNames kind live ↔
      ∃ described ∈ live, described.name = name ∧ described.key = some kind := by
  simp only [keyedNames, List.mem_map, List.mem_filter, decide_eq_true_eq]
  constructor
  · rintro ⟨described, ⟨member, keyed⟩, named⟩
    exact ⟨described, member, named, keyed⟩
  · rintro ⟨described, member, named, keyed⟩
    exact ⟨described, ⟨member, keyed⟩, named⟩

section Changes

variable {columns : List (String × Column)} {live : List LiveColumn}

/-- A plan changes the columns whose description does not agree. -/
theorem mem_changedColumns_iff (distinct : (live.map (·.name)).Nodup)
    (entry : String × Column) :
    entry ∈ changedColumns columns live ↔ entry ∈ columns ∧
      ∃ described ∈ live, described.name = entry.1 ∧ columnAgrees entry.2 described = false := by
  rw [changedColumns, List.mem_filter, Option.any_eq_true]
  simp only [describedColumn?_eq_some_iff distinct, Bool.not_eq_true', and_assoc]

theorem changePhase_eq_nil_iff (distinct : (live.map (·.name)).Nodup) :
    changePhase columns live = [] ↔
      ∀ entry ∈ columns, ∀ described ∈ live, described.name = entry.1 →
        columnAgrees entry.2 described = true := by
  rw [changePhase_eq_map, List.map_eq_nil_iff, List.eq_nil_iff_forall_not_mem]
  simp only [mem_changedColumns_iff distinct, not_and, not_exists, Bool.not_eq_false]

end Changes

/-- Every described constraint is dropped and every declared one is added. -/
theorem foreignKeyPhase_eq_nil_iff (declared : List (String × ReferenceTarget))
    (described : List String) :
    foreignKeyPhase declared described = [] ↔ declared = [] ∧ described = [] := by
  unfold foreignKeyPhase
  dsimp only
  rw [List.append_eq_nil_iff, List.map_eq_nil_iff, List.map_eq_nil_iff]
  have dropped := PhysicalTable.perm_filter_append
    (fun name => (declared.map (·.1)).contains name) described
  have added := PhysicalTable.perm_filter_append
    (fun entry : String × ReferenceTarget => described.contains entry.1) declared
  constructor
  · intro none
    rw [none.1] at dropped
    rw [none.2] at added
    exact ⟨added.nil_eq.symm, dropped.nil_eq.symm⟩
  · intro none
    rw [none.1, none.2]
    exact ⟨rfl, rfl⟩

/-! ## Tables -/

/-- A declaration and a description have the same columns with the same keys, no constraints,
and every column is as its field declares it. -/
structure Matches (declared : Table) (live : List LiveColumn) : Prop where
  names : ∀ name, name ∈ live.map (·.name) ↔ name ∈ declared.fields.map (·.1)
  primaryKey : ∀ name,
    (∃ described ∈ live, described.name = name ∧ described.key = some .primary) ↔
      ∃ field, (name, field) ∈ declared.fields ∧ field.primaryKey = true
  /-- A field of the primary key is not described as unique. -/
  unique : ∀ name,
    (∃ described ∈ live, described.name = name ∧ described.key = some .unique) ↔
      ∃ field, (name, field) ∈ declared.fields ∧ field.unique = true ∧ field.primaryKey = false
  unreferenced : ∀ entry ∈ declared.fields, entry.2.reference = none
  unconstrained : ∀ described ∈ live, described.foreignKey = false
  columns : ∀ name field, (name, field) ∈ declared.fields →
    ∀ described ∈ live, described.name = name → described.DeclaredAs field

section Tables

variable {declared : Table} {columns : List (String × Column)} {live : List LiveColumn}

private theorem changePhase_eq_nil_iff_declaredAs (mapped : declared.columns = .ok columns)
    (distinct : (live.map (·.name)).Nodup) :
    changePhase columns live = [] ↔ ∀ name field, (name, field) ∈ declared.fields →
      ∀ described ∈ live, described.name = name → described.DeclaredAs field := by
  rw [changePhase_eq_nil_iff distinct]
  constructor
  · intro agree name field listed described member named
    obtain ⟨column, columnListed, fieldMapped⟩ := Table.exists_column_of_field mapped listed
    exact (columnAgrees_iff fieldMapped described).1
      (agree (name, column) columnListed described member named)
  · intro declaredAs entry listed described member named
    obtain ⟨field, fieldListed, fieldMapped⟩ := Table.exists_field_of_column mapped listed
    exact (columnAgrees_iff fieldMapped described).2
      (declaredAs entry.1 field fieldListed described member named)

private theorem references_eq_nil_iff (declared : Table) :
    declared.references = [] ↔ ∀ entry ∈ declared.fields, entry.2.reference = none := by
  rw [Table.references, List.filterMap_eq_nil_iff]
  simp only [Option.map_eq_none_iff]

theorem operationsFor_eq_nil_iff (mapped : declared.columns = .ok columns)
    (distinct : (live.map (·.name)).Nodup) :
    declared.operationsFor columns live = [] ↔ Matches declared live := by
  have key := primaryKeyPhase_eq_nil_iff declared.primaryKey (keyedNames .primary live)
  have changed := changePhase_eq_nil_iff_declaredAs mapped distinct
  have unique := uniquePhase_eq_nil_iff declared.uniqueFields (keyedNames .unique live) []
  have dropped := droppedColumns_eq_nil_iff columns live
  have added := addPhase_eq_nil_iff columns live
  have constraints := foreignKeyPhase_eq_nil_iff declared.references
    ((live.filter (·.foreignKey)).map (·.name))
  simp only [mem_keyedNames_iff, Table.mem_primaryKey_iff] at key
  simp only [mem_keyedNames_iff, Table.mem_uniqueFields_iff, List.not_mem_nil, or_false,
    ← forall_and, ← iff_def] at unique
  rw [Table.columnNames mapped] at dropped added
  rw [references_eq_nil_iff, List.map_eq_nil_iff, List.filter_eq_nil_iff] at constraints
  simp only [Table.operationsFor, List.append_eq_nil_iff, List.map_eq_nil_iff,
    Table.references_columns mapped]
  constructor
  · rintro ⟨⟨⟨⟨⟨keyNone, dropNone⟩, addNone⟩, changeNone⟩, uniqueNone⟩, constraintNone⟩
    rw [dropNone] at uniqueNone
    exact {
      names := fun name => ⟨dropped.1 dropNone name, added.1 addNone name⟩
      primaryKey := fun name => (key.1 keyNone name).symm
      unique := unique.1 uniqueNone
      unreferenced := (constraints.1 constraintNone).1
      unconstrained := fun described member =>
        Bool.eq_false_iff.2 ((constraints.1 constraintNone).2 described member)
      columns := changed.1 changeNone }
  · intro same
    have dropNone := dropped.2 fun name => (same.names name).1
    rw [dropNone]
    refine ⟨⟨⟨⟨⟨?_, rfl⟩, ?_⟩, ?_⟩, ?_⟩, ?_⟩
    · exact key.2 fun name => (same.primaryKey name).symm
    · exact added.2 fun name => (same.names name).2
    · exact changed.2 same.columns
    · exact unique.2 same.unique
    · apply constraints.2
      exact ⟨same.unreferenced, fun described member =>
        Bool.eq_false_iff.1 (same.unconstrained described member)⟩

/-- A column on both sides is changed just when it is not as declared. -/
theorem exists_mem_changeColumn_iff (mapped : declared.columns = .ok columns)
    (distinct : (live.map (·.name)).Nodup) {name : String} {field : Field}
    (listed : (name, field) ∈ declared.fields) {described : LiveColumn}
    (member : described ∈ live) (named : described.name = name) :
    (∃ column, Column.ofField field = .ok column ∧
        .changeColumn name column ∈ declared.operationsFor columns live) ↔
      ¬ described.DeclaredAs field := by
  obtain ⟨column, columnListed, fieldMapped⟩ := Table.exists_column_of_field mapped listed
  rw [← columnAgrees_iff fieldMapped described, Bool.not_eq_true]
  have changes (definition : Column) :
      .changeColumn name definition ∈ declared.operationsFor columns live ↔
        (name, definition) ∈ changedColumns columns live := by
    simp [mem_operationsFor_iff, Operation.phase, row, changePhase_eq_map]
  simp only [changes, mem_changedColumns_iff distinct]
  constructor
  · rintro ⟨_, otherMapped, _, other, otherMember, otherNamed, disagrees⟩
    rw [fieldMapped] at otherMapped
    cases otherMapped
    rwa [List.inj_on_of_nodup_map distinct otherMember member (otherNamed.trans named.symm)]
      at disagrees
  · intro disagrees
    exact ⟨column, fieldMapped, columnListed, described, member, named, disagrees⟩

end Tables

/-- A described table always has a plan. There is nothing in it, and no statement to send, just
when the description matches the declaration. -/
theorem planFor_isEmpty_iff_matches (declared : Table) {live : List LiveColumn}
    (nonempty : live ≠ []) (distinct : (live.map (·.name)).Nodup)
    (typed : ∀ column ∈ live, Text.trim column.type ≠ "") :
    ∃ plan, declared.planFor live = .ok plan ∧
      (plan.isEmpty = true ↔ Matches declared live) ∧
      (plan.statement? = none ↔ Matches declared live) := by
  obtain ⟨columns, mapped⟩ := declared.exists_columns
  refine ⟨_, PhysicalTable.planFor_eq_alter mapped nonempty typed, ?_, ?_⟩
  · rw [← operationsFor_eq_nil_iff mapped distinct, isEmpty, List.isEmpty_iff]
  · rw [← operationsFor_eq_nil_iff mapped distinct]
    cases declared.operationsFor columns live with
    | nil => exact iff_of_true rfl rfl
    | cons operation rest => exact iff_of_false nofun nofun

def products : Table where
  name := "products"
  fields := [
    ("number", {
      kind := .unsignedInt
      maxSize := some (.ofInt 4294967295)
      primaryKey := true
      autoIncrement := true }),
    ("code", { kind := .string, maxSize := some (.ofInt 20), unique := true }),
    ("price", { kind := .decimal, maxSize := some (.ofInt 999), default := some (.int 2) }),
    ("state", {
      kind := .string
      maxSize := some (.ofInt 10)
      nullable := true
      default := some (.text "open") })]
  accepted := by decide +kernel

/-- Products as a server may describe them: in another order, with capitals, blanks around a
type, a default with places and an index that is not declared. -/
def describedProducts : List LiveColumn :=
  [⟨"state", "VARCHAR(10)", true, some .multiple, false, some "OPEN", ""⟩,
    ⟨"price", " decimal(3,0) ", false, none, false, some "2.00", ""⟩,
    ⟨"number", "int(10) unsigned", false, some .primary, false, none, "AUTO_INCREMENT"⟩,
    ⟨"code", "varchar(20)", false, some .unique, false, none, ""⟩]

/-- That description matches the declaration, as there is no statement to send. -/
theorem products_match :
    describedProducts ≠ [] ∧ (describedProducts.map (·.name)).Nodup ∧
      (∀ column ∈ describedProducts, Text.trim column.type ≠ "") ∧
      products.planFor describedProducts = .ok (.alter "products" []) ∧
      Matches products describedProducts := by
  have typed : ∀ column ∈ describedProducts, Text.trim column.type ≠ "" := by decide
  have settled : products.planFor describedProducts = .ok (.alter "products" []) := by
    decide +kernel
  refine ⟨by decide, by decide, typed, settled, ?_⟩
  obtain ⟨plan, planned, empty, _⟩ :=
    planFor_isEmpty_iff_matches products (by decide) (by decide) typed
  rw [settled] at planned
  cases planned
  exact empty.1 rfl

/-! ## Texts as defaults -/

/-- A described column whose text default differs from the declared one in more than case is
changed, unless the rest of the column is as declared and both texts read as the same number. -/
theorem changes_text_default_iff (declared : Table) {live : List LiveColumn}
    (nonempty : live ≠ []) (distinct : (live.map (·.name)).Nodup)
    (typed : ∀ column ∈ live, Text.trim column.type ≠ "")
    {name written reported : String} {field : Field}
    (listed : (name, field) ∈ declared.fields) (default : field.default = some (.text written))
    {described : LiveColumn} (member : described ∈ live) (named : described.name = name)
    (report : described.default = some reported)
    (different : Text.sameIgnoringCase written reported = false) :
    ∃ operations, declared.planFor live = .ok (.alter declared.name operations) ∧
      ((∃ column, Column.ofField field = .ok column ∧ .changeColumn name column ∈ operations) ↔
        ¬ (described.LaidOutAs field ∧ ReadAlike written reported)) := by
  obtain ⟨columns, mapped⟩ := declared.exists_columns
  refine ⟨_, PhysicalTable.planFor_eq_alter mapped nonempty typed, ?_⟩
  rw [exists_mem_changeColumn_iff mapped distinct listed member named, not_iff_not]
  have defaults : DefaultsMatch (field.default.bind Value.plainText?) described.default ↔
      ReadAlike written reported := by
    rw [default, report]
    exact DefaultsMatch.readAlike_iff different
  constructor
  · intro declaredAs
    exact ⟨declaredAs.toLaidOutAs, defaults.1 declaredAs.default⟩
  · intro both
    exact ⟨both.1, defaults.2 both.2⟩

/-- Coupons whose code is `007` unless it is given. -/
def coupon : Field :=
  { kind := .string, maxSize := some (.ofInt 10), default := some (.text "007") }

def coupons : Table where
  name := "coupons"
  fields := [("code", coupon)]
  accepted := by decide +kernel

/-- Coupons as they are described when another text is the default. -/
def couponsWith (default : String) : List LiveColumn :=
  [⟨"code", "varchar(10)", false, none, false, some default, ""⟩]

/-- Coupons that are described with `008` are given the declared default. -/
theorem coupons_code_changed :
    (∀ column ∈ couponsWith "008", Text.trim column.type ≠ "") ∧
      Text.sameIgnoringCase "007" "008" = false ∧
      ∃ operations, coupons.planFor (couponsWith "008") = .ok (.alter "coupons" operations) ∧
        ∃ column, Column.ofField coupon = .ok column ∧
          .changeColumn "code" column ∈ operations := by
  have typed : ∀ column ∈ couponsWith "008", Text.trim column.type ≠ "" := by decide
  have different : Text.sameIgnoringCase "007" "008" = false := by decide
  have listed : ("code", coupon) ∈ coupons.fields := List.mem_singleton.2 rfl
  obtain ⟨operations, planned, changes⟩ :=
    changes_text_default_iff coupons (by decide) (by decide) typed listed rfl
      (List.mem_singleton.2 rfl) rfl rfl different
  refine ⟨typed, different, operations, planned, changes.2 ?_⟩
  intro kept
  have unlike : ¬ ReadAlike "007" "008" := by decide +kernel
  exact unlike kept.2

/-- Coupons that are described with `7` are left alone, though that is another text. -/
theorem coupons_code_kept :
    coupon.kind = .string ∧ coupon.default = some (.text "007") ∧
      Text.sameIgnoringCase "007" "7" = false ∧
      coupons.planFor (couponsWith "7") = .ok (.alter "coupons" []) := by
  decide +kernel

end Plan

end SchemaKeeper
