import SchemaKeeper.Proofs.JsonRecords

/-!
Contract: schema documents survive JSON.

Whatever text a document is read from, its definitions are such that their own JSON is
read back: sizes and doubles are finite, and a default is no null and is nested no more
deeply than the place of a default allows. Objects are described by slots, one for each
entry of a structure in the declared order; the writer leaves out empty slots and the
reader finds every slot as it was.

Owns: slots, what reading gives, and the way back from a document's JSON.

Does not own: values (`JsonRecords`) and the text of a document (`JsonText`).
-/

namespace SchemaKeeper

/-! ## Slots -/

namespace Json

/-- The members of the slots that are filled. -/
def filled (slots : List (String × Option Json)) : List (String × Json) :=
  slots.filterMap fun slot => slot.2.map fun value => (slot.1, value)

private theorem filter_filled (slots : List (String × Option Json)) (name : String) :
    (filled slots).filter (fun member => member.1 == name) =
      filled (slots.filter fun slot => slot.1 == name) := by
  induction slots with
  | nil => rfl
  | cons slot rest inductionHypothesis =>
      obtain ⟨other, value⟩ := slot
      unfold filled at *
      cases value <;> cases same : other == name <;> simp [same, inductionHypothesis]

/-- Of slots with distinct names only one has its name. -/
private theorem filter_of_nodup {slots : List (String × Option Json)}
    (distinct : (slots.map Prod.fst).Nodup) {slot : String × Option Json} (member : slot ∈ slots) :
    slots.filter (fun other => other.1 == slot.1) = [slot] := by
  induction slots with
  | nil => cases member
  | cons head rest inductionHypothesis =>
      obtain ⟨fresh, restDistinct⟩ := List.nodup_cons.1 distinct
      rcases List.mem_cons.1 member with rfl | later
      · have absent : rest.filter (fun other => other.1 == slot.1) = [] := by
          refine List.filter_eq_nil_iff.2 fun other listed same => fresh ?_
          rw [← beq_iff_eq.1 same]
          exact List.mem_map_of_mem listed
        rw [List.filter_cons_of_pos (by simp), absent]
      · have other : (head.1 == slot.1) = false := by
          rw [beq_eq_false_iff_ne]
          exact fun same => fresh (same ▸ List.mem_map_of_mem later)
        rw [List.filter_cons_of_neg (by simp [other])]
        exact inductionHypothesis restDistinct later

/-- Every slot is found as it was. -/
theorem uniqueMember?_filled {slots : List (String × Option Json)}
    (distinct : (slots.map Prod.fst).Nodup) {slot : String × Option Json} (member : slot ∈ slots) :
    uniqueMember? (filled slots) slot.1 = some slot.2 := by
  obtain ⟨name, value⟩ := slot
  rw [uniqueMember?, filter_filled, filter_of_nodup distinct member]
  cases value <;> rfl

/-- An object of slots is read as its slots. -/
theorem fields?_filled {names : List String} (distinct : names.Nodup)
    {slots : List (String × Option Json)} (named : slots.map Prod.fst = names) :
    (ofMembers (filled slots)).fields? names = some (slots.map Prod.snd) := by
  subst named
  change (namedMembers? _).bind _ = _
  rw [namedMembers?_ofMembers]
  exact mapM_map_eq_some fun slot member => uniqueMember?_filled distinct member

@[simp] theorem required?_some {α : Type} (read : Json → Option α) (document : Json) :
    required? read (some document) = read document :=
  rfl

@[simp] theorem string?_string (content : String) : string? (.string content) = some content :=
  rfl

/-- An optional field is read back if its value is, unless that is written as null. -/
theorem optional?_map {α : Type} {write : α → Json} {read : Json → Option α} {content : Option α}
    (reads : ∀ value ∈ content, write value ≠ .null ∧ read (write value) = some value) :
    optional? read (content.map write) = some content := by
  cases content with
  | none => rfl
  | some value =>
      obtain ⟨present, kept⟩ := reads value rfl
      rw [Option.map_some, optional?.eq_def]
      split
      next same => cases same
      next same => exact absurd (Option.some.inj same) present
      next same =>
        cases same
        rw [kept]
        rfl

/-- The value of an optional field is read from a document other than null. -/
theorem exists_of_optional? {α : Type} {read : Json → Option α} {present : Option Json}
    {content : Option α} (found : optional? read present = some content) {value : α}
    (member : value ∈ content) : ∃ document, document ≠ .null ∧ read document = some value := by
  cases member
  unfold optional? at found
  split at found
  next => cases found
  next => cases found
  next document present =>
    obtain ⟨other, read, same⟩ := Option.map_eq_some_iff.1 found
    cases same
    exact ⟨document, present, read⟩

theorem listOf?_map {α : Type} {write : α → Json} {read : Json → Option α} {items : List α}
    (reads : ∀ item ∈ items, read (write item) = some item) :
    listOf? read (.list (items.map write)) = some items :=
  mapM_map_eq_self reads

/-- Each item of a list is read from a document in that list. -/
theorem exists_of_listOf? {α : Type} {read : Json → Option α} {document : Json} {items : List α}
    (found : listOf? read document = some items) {item : α} (member : item ∈ items) :
    ∃ inside, read inside = some item := by
  obtain ⟨documents, _, found⟩ := Option.bind_eq_some_iff.1 found
  obtain ⟨inside, _, read⟩ := exists_of_mem_of_mapM found member
  exact ⟨inside, read⟩

/-! ### Well-formedness -/

theorem wellFormed_filled {slots : List (String × Option Json)}
    (wellFormed : ∀ slot ∈ slots, ∀ value ∈ slot.2, value.WellFormed) :
    (ofMembers (filled slots)).WellFormed := by
  refine wellFormed_ofMembers fun member listed => ?_
  obtain ⟨slot, inSlots, filled⟩ := List.mem_filterMap.1 listed
  obtain ⟨value, content, rfl⟩ := Option.map_eq_some_iff.1 filled
  exact wellFormed slot inSlots value content

theorem wellFormed_map {α : Type} {write : α → Json} (wellFormed : ∀ value, (write value).WellFormed)
    (content : Option α) : ∀ document ∈ content.map write, document.WellFormed := by
  intro document member
  obtain ⟨value, _, rfl⟩ := Option.map_eq_some_iff.1 member
  exact wellFormed value

theorem wellFormed_list {α : Type} {write : α → Json}
    (wellFormed : ∀ value, (write value).WellFormed) (items : List α) :
    (Json.list (items.map write)).WellFormed := by
  refine .list fun document member => ?_
  obtain ⟨item, _, rfl⟩ := List.mem_map.1 member
  exact wellFormed item

end Json

/-! ## References -/

theorem ReferentialAction.ofJson?_name (action : ReferentialAction) :
    ofJson? (.string action.name) = some action := by
  cases action <;> decide

theorem FieldKind.ofJson?_name (kind : FieldKind) : ofJson? (.string kind.name) = some kind := by
  cases kind <;> decide

namespace ReferenceDefinition

def slots (definition : ReferenceDefinition) : List (String × Option Json) :=
  [("table", some (.string definition.table)), ("field", some (.string definition.field)),
    ("onDelete", definition.onDelete.map fun action => .string action.name),
    ("onUpdate", definition.onUpdate.map fun action => .string action.name)]

theorem toJson_eq (definition : ReferenceDefinition) :
    definition.toJson = .ofMembers (Json.filled definition.slots) := by
  obtain ⟨table, field, onDelete, onUpdate⟩ := definition
  cases onDelete <;> cases onUpdate <;> rfl

/-- A reference is read back from its own JSON. -/
theorem ofJson?_toJson (definition : ReferenceDefinition) :
    ofJson? definition.toJson = some definition := by
  have slots : definition.toJson.fields? entryNames = some (definition.slots.map Prod.snd) := by
    rw [toJson_eq]
    exact Json.fields?_filled (by decide) rfl
  have actions : ∀ content : Option ReferentialAction,
      Json.optional? ReferentialAction.ofJson? (content.map fun action => .string action.name) =
        some content :=
    fun content => Json.optional?_map fun action _ => ⟨nofun, action.ofJson?_name⟩
  rw [ofJson?, slots]
  simp only [ReferenceDefinition.slots, List.map, Json.required?_some, Json.string?_string,
    actions, Option.bind_eq_bind, Option.bind_some]
  rfl

theorem wellFormed_toJson (definition : ReferenceDefinition) : definition.toJson.WellFormed := by
  rw [toJson_eq]
  refine Json.wellFormed_filled ?_
  simp only [slots, List.forall_mem_cons, Option.mem_some_iff, forall_eq']
  exact ⟨.quoted _, .quoted _, Json.wellFormed_map (fun _ => .quoted _) _,
    Json.wellFormed_map (fun _ => .quoted _) _, nofun⟩

end ReferenceDefinition

/-! ## Fields -/

/-- A finite size is written as its number literal. -/
private theorem Binary64.toJson_of_finite {size : Binary64} (finite : size.isFinite = true) :
    size.toJson = .number (.ofBinary64 size) := by
  rw [toJson, Value.toJson, if_pos finite]

/-- Sizes that are read are finite. -/
theorem Binary64.isFinite_of_ofJson? {document : Json} {size : Binary64}
    (read : ofJson? document = some size) : size.isFinite = true := by
  cases document with
  | number literal => exact Json.Number.isFinite_of_toBinary64? read
  | _ => cases read

namespace FieldDefinition

def floats (definition : FieldDefinition) : List Binary64 :=
  definition.maxSize.toList ++ definition.minSize.toList ++
    definition.default.toList.flatMap Value.floats

theorem mem_floats {definition : FieldDefinition} {number : Binary64} :
    number ∈ definition.floats ↔ number ∈ definition.maxSize ∨ number ∈ definition.minSize ∨
      ∃ value ∈ definition.default, number ∈ value.floats := by
  simp [floats]

/-- What reading makes sure of: sizes and doubles are finite, and a default is no null and
nested no more deeply than its place allows. -/
structure Readable (definition : FieldDefinition) : Prop where
  finite : ∀ number ∈ definition.floats, number.isFinite = true
  present : ∀ value ∈ definition.default, value ≠ .null
  nesting : ∀ value ∈ definition.default,
    value.toJson.depth ≤ Json.maxDepth - defaultDepth

def slots (definition : FieldDefinition) : List (String × Option Json) :=
  [("name", some (.string definition.name)), ("type", some (.string definition.kind.name)),
    ("maxSize", definition.maxSize.map Binary64.toJson),
    ("minSize", definition.minSize.map Binary64.toJson),
    ("nullable", some (.bool definition.nullable)), ("unique", some (.bool definition.unique)),
    ("primaryKey", some (.bool definition.primaryKey)),
    ("autoIncrement", some (.bool definition.autoIncrement)),
    ("default", definition.default.map Value.toJson),
    ("foreignKey", definition.reference.map ReferenceDefinition.toJson)]

theorem toJson_eq (definition : FieldDefinition) :
    definition.toJson = .ofMembers (Json.filled definition.slots) := by
  obtain ⟨name, kind, maxSize, minSize, _, _, _, _, default, reference⟩ := definition
  cases maxSize <;> cases minSize <;> cases default <;> cases reference <;> rfl

/-- Every field that is read is readable. -/
theorem readable_of_ofJson? {document : Json} {definition : FieldDefinition}
    (read : ofJson? document = some definition) : definition.Readable := by
  unfold ofJson? at read
  split at read
  next name kind maxSize minSize nullable unique primaryKey autoIncrement default reference _ =>
    simp only [Option.bind_eq_bind, Option.bind_eq_some_iff] at read
    obtain ⟨_, _, _, _, maxSize, maxRead, minSize, minRead, _, _, _, _, _, _, _, _, default,
      defaultRead, _, _, same⟩ := read
    cases same
    have sizeFinite : ∀ {present content}, Json.optional? Binary64.ofJson? present = some content →
        ∀ size ∈ content, size.isFinite = true := by
      intro present content found size member
      obtain ⟨_, _, read⟩ := Json.exists_of_optional? found member
      exact Binary64.isFinite_of_ofJson? read
    refine ⟨fun number listed => ?_, fun value member => ?_, fun value member => ?_⟩
    · rcases mem_floats.1 listed with inMax | inMin | ⟨value, member, inValue⟩
      · exact sizeFinite maxRead number inMax
      · exact sizeFinite minRead number inMin
      · obtain ⟨_, _, read⟩ := Json.exists_of_optional? defaultRead member
        exact Value.isFinite_of_ofJson? read number inValue
    · obtain ⟨_, present, read⟩ := Json.exists_of_optional? defaultRead member
      exact Value.ne_null_of_ofJson? present read
    · obtain ⟨_, _, read⟩ := Json.exists_of_optional? defaultRead member
      exact Value.depth_toJson_le read
  next => cases read

/-- A readable field is read back from its own JSON. -/
theorem ofJson?_toJson {definition : FieldDefinition} (readable : definition.Readable)
    (survives : ∀ number ∈ definition.floats, number.SurvivesJson) :
    ofJson? definition.toJson = some definition := by
  have slots : definition.toJson.fields? entryNames = some (definition.slots.map Prod.snd) := by
    rw [toJson_eq]
    exact Json.fields?_filled (by decide) rfl
  have size : ∀ number ∈ definition.floats,
      number.toJson ≠ .null ∧ Binary64.ofJson? number.toJson = some number := by
    intro number listed
    have finite := readable.finite number listed
    rw [Binary64.toJson_of_finite finite]
    exact ⟨nofun, (Binary64.survivesJson_iff finite).1 (survives number listed)⟩
  have maxSize : Json.optional? Binary64.ofJson? (definition.maxSize.map Binary64.toJson) =
      some definition.maxSize :=
    Json.optional?_map fun number member => size number (mem_floats.2 (.inl member))
  have minSize : Json.optional? Binary64.ofJson? (definition.minSize.map Binary64.toJson) =
      some definition.minSize :=
    Json.optional?_map fun number member => size number (mem_floats.2 (.inr (.inl member)))
  have default : Json.optional? (Value.ofJson? (Json.maxDepth - defaultDepth))
      (definition.default.map Value.toJson) = some definition.default := by
    refine Json.optional?_map fun value member => ?_
    have listed : ∀ number ∈ value.floats, number ∈ definition.floats :=
      fun number inValue => mem_floats.2 (.inr (.inr ⟨value, member, inValue⟩))
    constructor
    · exact Value.toJson_ne_null (readable.present value member) fun number inValue =>
        readable.finite number (listed number inValue)
    · exact value.ofJson?_toJson (readable.nesting value member) fun number inValue =>
        ⟨readable.finite number (listed number inValue), survives number (listed number inValue)⟩
  have reference : Json.optional? ReferenceDefinition.ofJson?
      (definition.reference.map ReferenceDefinition.toJson) = some definition.reference := by
    refine Json.optional?_map fun reference _ => ⟨?_, reference.ofJson?_toJson⟩
    rw [ReferenceDefinition.toJson_eq]
    exact nofun
  rw [ofJson?, slots]
  simp only [FieldDefinition.slots, List.map, Json.required?_some, Json.string?_string,
    FieldKind.ofJson?_name, maxSize, minSize, default, reference, Option.bind_eq_bind,
    Option.bind_some]
  rfl

theorem wellFormed_toJson (definition : FieldDefinition) : definition.toJson.WellFormed := by
  have sizes : ∀ content : Option Binary64,
      ∀ document ∈ content.map Binary64.toJson, document.WellFormed :=
    Json.wellFormed_map fun size => Value.wellFormed_toJson (.float size)
  rw [toJson_eq]
  refine Json.wellFormed_filled ?_
  simp only [slots, List.forall_mem_cons, Option.mem_some_iff, forall_eq']
  exact ⟨.quoted _, .quoted _, sizes _, sizes _, .bool _, .bool _, .bool _, .bool _,
    Json.wellFormed_map Value.wellFormed_toJson _,
    Json.wellFormed_map ReferenceDefinition.wellFormed_toJson _, nofun⟩

end FieldDefinition

/-! ## Tables -/

namespace TableDefinition

def floats (definition : TableDefinition) : List Binary64 :=
  definition.fields.flatMap FieldDefinition.floats

def slots (definition : TableDefinition) : List (String × Option Json) :=
  [("name", some (.string definition.name)),
    ("fields", some (.list (definition.fields.map FieldDefinition.toJson)))]

theorem toJson_eq (definition : TableDefinition) :
    definition.toJson = .ofMembers (Json.filled definition.slots) :=
  rfl

/-- Every field of a table that is read is readable. -/
theorem readable_of_ofJson? {document : Json} {definition : TableDefinition}
    (read : ofJson? document = some definition) : ∀ field ∈ definition.fields, field.Readable := by
  unfold ofJson? at read
  split at read
  next =>
    simp only [Option.bind_eq_bind, Option.bind_eq_some_iff] at read
    obtain ⟨_, _, fields, fieldsRead, same⟩ := read
    cases same
    intro field member
    obtain ⟨inside, _, listRead⟩ := Option.bind_eq_some_iff.1 fieldsRead
    obtain ⟨document, read⟩ := Json.exists_of_listOf? listRead member
    exact FieldDefinition.readable_of_ofJson? read
  next => cases read

/-- A table of readable fields is read back from its own JSON. -/
theorem ofJson?_toJson {definition : TableDefinition}
    (readable : ∀ field ∈ definition.fields, field.Readable)
    (survives : ∀ number ∈ definition.floats, number.SurvivesJson) :
    ofJson? definition.toJson = some definition := by
  have slots : definition.toJson.fields? ["name", "fields"] =
      some (definition.slots.map Prod.snd) := by
    rw [toJson_eq]
    exact Json.fields?_filled (by decide) rfl
  have fields : Json.listOf? FieldDefinition.ofJson?
      (.list (definition.fields.map FieldDefinition.toJson)) = some definition.fields :=
    Json.listOf?_map fun field member =>
      FieldDefinition.ofJson?_toJson (readable field member) fun number listed =>
        survives number (List.mem_flatMap.2 ⟨field, member, listed⟩)
  rw [ofJson?, slots]
  simp only [TableDefinition.slots, List.map, Json.required?_some, Json.string?_string, fields,
    Option.bind_eq_bind, Option.bind_some]
  rfl

theorem wellFormed_toJson (definition : TableDefinition) : definition.toJson.WellFormed := by
  rw [toJson_eq]
  refine Json.wellFormed_filled ?_
  simp only [slots, List.forall_mem_cons, Option.mem_some_iff, forall_eq']
  exact ⟨.quoted _, Json.wellFormed_list FieldDefinition.wellFormed_toJson _, nofun⟩

end TableDefinition

/-! ## Documents -/

namespace Document

def floats (document : Document) : List Binary64 :=
  document.tables.flatMap TableDefinition.floats

def slots (document : Document) : List (String × Option Json) :=
  [("tables", some (.list (document.tables.map TableDefinition.toJson)))]

theorem toJson_eq (document : Document) :
    document.toJson = .ofMembers (Json.filled document.slots) :=
  rfl

/-- Every field of a document that is read is readable. -/
theorem readable_of_ofJson? {json : Json} {document : Document}
    (read : ofJson? json = some document) :
    ∀ table ∈ document.tables, ∀ field ∈ table.fields, field.Readable := by
  unfold ofJson? at read
  split at read
  next =>
    simp only [Option.bind_eq_bind, Option.bind_eq_some_iff] at read
    obtain ⟨tables, tablesRead, same⟩ := read
    cases same
    intro table member
    obtain ⟨inside, _, listRead⟩ := Option.bind_eq_some_iff.1 tablesRead
    obtain ⟨json, read⟩ := Json.exists_of_listOf? listRead member
    exact TableDefinition.readable_of_ofJson? read
  next => cases read

/-- A document of readable fields is read back from its own JSON. -/
theorem ofJson?_toJson {document : Document}
    (readable : ∀ table ∈ document.tables, ∀ field ∈ table.fields, field.Readable)
    (survives : ∀ number ∈ document.floats, number.SurvivesJson) :
    ofJson? document.toJson = some document := by
  have slots : document.toJson.fields? ["tables"] = some (document.slots.map Prod.snd) := by
    rw [toJson_eq]
    exact Json.fields?_filled (by decide) rfl
  have tables : Json.listOf? TableDefinition.ofJson?
      (.list (document.tables.map TableDefinition.toJson)) = some document.tables :=
    Json.listOf?_map fun table member =>
      TableDefinition.ofJson?_toJson (readable table member) fun number listed =>
        survives number (List.mem_flatMap.2 ⟨table, member, listed⟩)
  rw [ofJson?, slots]
  simp only [Document.slots, List.map, Json.required?_some, tables, Option.bind_eq_bind,
    Option.bind_some]
  rfl

theorem wellFormed_toJson (document : Document) : document.toJson.WellFormed := by
  rw [toJson_eq]
  refine Json.wellFormed_filled ?_
  simp only [slots, List.forall_mem_cons, Option.mem_some_iff, forall_eq']
  exact ⟨Json.wellFormed_list TableDefinition.wellFormed_toJson _, nofun⟩

theorem ofJsonText_eq_ok_iff {text : String} {document : Document} :
    ofJsonText text = .ok document ↔ (Json.read? text).bind ofJson? = some document := by
  unfold ofJsonText
  cases (Json.read? text).bind ofJson? <;> simp

/-- A document that is read from a text is read from its own text again, so reading and
writing that text change neither the tables that are built nor the text. -/
theorem toJsonText_normalizes {text : String} {document : Document}
    (read : ofJsonText text = .ok document)
    (survives : ∀ number ∈ document.floats, number.isFinite = true → number.SurvivesJson) :
    ofJsonText document.toJsonText = .ok document ∧
      (ofJsonText document.toJsonText).map build = .ok document.build ∧
      (ofJsonText document.toJsonText).map toJsonText = .ok document.toJsonText := by
  obtain ⟨json, _, jsonRead⟩ := Option.bind_eq_some_iff.1 (ofJsonText_eq_ok_iff.1 read)
  have readable := readable_of_ofJson? jsonRead
  -- Literals give no infinities, so the assumption on finite doubles covers them all.
  have finite : ∀ number ∈ document.floats, number.isFinite = true := by
    intro number listed
    obtain ⟨table, tableMember, inTable⟩ := List.mem_flatMap.1 listed
    obtain ⟨field, fieldMember, inField⟩ := List.mem_flatMap.1 inTable
    exact (readable table tableMember field fieldMember).finite number inField
  have again : ofJsonText document.toJsonText = .ok document := by
    rw [ofJsonText_eq_ok_iff, toJsonText, Json.read?_toText document.wellFormed_toJson]
    exact ofJson?_toJson readable fun number listed => survives number listed (finite number listed)
  rw [again]
  exact ⟨rfl, rfl, rfl⟩

/-- A document in list form, with a choice spelled as an object, a null, an unknown entry and
entries out of order. -/
def spelledFreely : String :=
  "[[[\"a\", [[\"id\", \x7b\"UINT\":null\x7d, 2.55e2, null]]],
    \x7b\"fields\":[\x7b\"type\":\"UINT\", \"x\":0, \"name\":\"a\", \"default\":[3.0], \"foreignKey\":[\"a\", \"id\", \"CASCADE\"]\x7d],
    \"name\":\"b\"\x7d]]"

/-- The document that is spelled there. -/
def library : Document :=
  let id : FieldDefinition :=
    ⟨"id", .unsignedInt, some (.ofInt 255), none, false, false, false, false, none, none⟩
  let reference : FieldDefinition :=
    ⟨"a", .unsignedInt, none, none, false, false, false, false, some (.list [.float (.ofInt 3)]),
      some ⟨"a", "id", some .cascade, none⟩⟩
  ⟨[⟨"a", [id]⟩, ⟨"b", [reference]⟩]⟩

private theorem read_spelledFreely : ofJsonText spelledFreely = .ok library :=
  ofJsonText_eq_ok_iff.2 (by decide +kernel)

theorem library_normalizes :
    ofJsonText spelledFreely = .ok library ∧
      (∀ number ∈ library.floats, number.isFinite = true → number.SurvivesJson) ∧
      ofJsonText library.toJsonText = .ok library ∧
      (ofJsonText library.toJsonText).map build = .ok library.build ∧
      (ofJsonText library.toJsonText).map toJsonText = .ok library.toJsonText :=
  ⟨read_spelledFreely, by decide +kernel,
    toJsonText_normalizes read_spelledFreely (by decide +kernel)⟩

end Document

end SchemaKeeper
