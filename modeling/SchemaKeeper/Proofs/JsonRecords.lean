import SchemaKeeper.Document.Json
import SchemaKeeper.Proofs.JsonNumbers
import SchemaKeeper.Proofs.Results

/-!
Contract: values and records survive JSON.

A value is read back from its own JSON: the writer alone keeps integers and doubles apart,
since it never writes a double without a point or an exponent and never an integer with
one. Reading a double back is the business of the number literal, so it is assumed of the
doubles at hand.

Owns: nesting, the doubles in values and records, the way back from their JSON, and what
values are like that have been read.

Does not own: the text of a document (`JsonText`).
-/

namespace SchemaKeeper

/-! ## Nesting -/

namespace Json

mutual

/-- How many lists and objects are nested in a document. -/
def depth : Json → Nat
  | .list items => itemsDepth items + 1
  | .object members => membersDepth members + 1
  | _ => 0

def itemsDepth : List Json → Nat
  | [] => 0
  | item :: rest => max (depth item) (itemsDepth rest)

def membersDepth : List (Json.Text × Json) → Nat
  | [] => 0
  | (_, value) :: rest => max (depth value) (membersDepth rest)

end

theorem itemsDepth_le_iff {items : List Json} {bound : Nat} :
    itemsDepth items ≤ bound ↔ ∀ item ∈ items, item.depth ≤ bound := by
  induction items with
  | nil => simp [itemsDepth]
  | cons item rest inductionHypothesis =>
      rw [itemsDepth, Nat.max_le, List.forall_mem_cons, inductionHypothesis]

theorem membersDepth_le_iff {members : List (Json.Text × Json)} {bound : Nat} :
    membersDepth members ≤ bound ↔ ∀ member ∈ members, member.2.depth ≤ bound := by
  induction members with
  | nil => simp [membersDepth]
  | cons member rest inductionHypothesis =>
      obtain ⟨name, value⟩ := member
      rw [membersDepth, Nat.max_le, List.forall_mem_cons, inductionHypothesis]

end Json

/-! ## Doubles -/

/-- Reading the text written for the double gives that double back. -/
def Binary64.SurvivesJson (number : Binary64) : Prop :=
  (Json.read? number.toJson.toText).bind ofJson? = some number

instance (number : Binary64) : Decidable number.SurvivesJson :=
  inferInstanceAs (Decidable (_ = _))

theorem Binary64.survivesJson_iff {number : Binary64} (finite : number.isFinite = true) :
    number.SurvivesJson ↔ (Json.Number.ofBinary64 number).toBinary64? = some number := by
  have written : number.toJson = .number (.ofBinary64 number) := by
    rw [toJson, Value.toJson, if_pos finite]
  rw [SurvivesJson, written,
    Json.read?_toText (.number (Json.Number.wellFormed_ofBinary64 number))]
  rfl

/-! ## Values -/

namespace Value

mutual

def floats : Value → List Binary64
  | .float number => [number]
  | .list items => itemsFloats items
  | _ => []

def itemsFloats : List Value → List Binary64
  | [] => []
  | item :: rest => floats item ++ itemsFloats rest

end

@[elab_as_elim, induction_eliminator]
theorem induction {motive : Value → Prop} (null : motive .null)
    (bool : ∀ value, motive (.bool value)) (int : ∀ value, motive (.int value))
    (float : ∀ number, motive (.float number)) (text : ∀ content, motive (.text content))
    (list : ∀ items, (∀ item ∈ items, motive item) → motive (.list items)) :
    ∀ value, motive value
  | .null => null
  | .bool value => bool value
  | .int value => int value
  | .float number => float number
  | .text content => text content
  | .list items => list items fun item _ => induction null bool int float text list item

theorem mem_itemsFloats {items : List Value} {number : Binary64} :
    number ∈ itemsFloats items ↔ ∃ item ∈ items, number ∈ item.floats := by
  induction items with
  | nil => simp [itemsFloats]
  | cons item rest inductionHypothesis => simp [itemsFloats, inductionHypothesis]

theorem itemsToJson_eq (items : List Value) : itemsToJson items = items.map toJson := by
  induction items with
  | nil => rfl
  | cons item rest inductionHypothesis => rw [itemsToJson, inductionHypothesis, List.map_cons]

/-- The doubles in the value can be written and are read back. -/
def Survives (value : Value) : Prop :=
  ∀ number ∈ value.floats, number.isFinite = true ∧ number.SurvivesJson

theorem wellFormed_toJson (value : Value) : value.toJson.WellFormed := by
  induction value with
  | null => exact .null
  | bool value => exact .bool value
  | int value => exact .number (Json.Number.wellFormed_ofInt _)
  | float number =>
      rw [toJson]
      split
      · exact .number (Json.Number.wellFormed_ofBinary64 number)
      · exact .null
  | text content => exact .quoted _
  | list items inductionHypothesis =>
      rw [toJson, itemsToJson_eq]
      refine .list fun document member => ?_
      obtain ⟨item, listed, rfl⟩ := List.mem_map.1 member
      exact inductionHypothesis item listed

/-- An integer is read back as an integer. -/
theorem ofNumber?_ofInt (value : Int64) : ofNumber? (.ofInt value.toInt) = some (.int value) := by
  have low : -Int.pow 2 63 ≤ value.toInt := value.le_toInt
  have high : value.toInt < Int.pow 2 63 := value.toInt_lt
  rw [ofNumber?, Json.Number.integer?_ofInt]
  dsimp only
  rw [if_pos ⟨low, high⟩, Int64.ofInt_toInt]

/-- A double that survives is read back as a double. -/
theorem ofNumber?_ofBinary64 {number : Binary64} (finite : number.isFinite = true)
    (survives : number.SurvivesJson) :
    ofNumber? (.ofBinary64 number) = some (.float number) := by
  rw [Binary64.survivesJson_iff finite] at survives
  rw [ofNumber?, Json.Number.integer?_ofBinary64]
  dsimp only
  rw [survives]
  rfl

theorem itemsOfJson?_eq (depth : Nat) (items : List Json) :
    itemsOfJson? depth items = items.mapM (ofJson? depth) := by
  induction items with
  | nil => rfl
  | cons item rest inductionHypothesis =>
      rw [itemsOfJson?, List.mapM_cons, inductionHypothesis]

/-- A value is read back from its own JSON, with its variant. -/
theorem ofJson?_toJson (value : Value) {depth : Nat} (nesting : value.toJson.depth ≤ depth)
    (survives : value.Survives) : ofJson? depth value.toJson = some value := by
  induction value generalizing depth with
  | null => rfl
  | bool value => rfl
  | int value => exact ofNumber?_ofInt value
  | float number =>
      obtain ⟨finite, kept⟩ := survives number (by simp [floats])
      rw [toJson, if_pos finite]
      exact ofNumber?_ofBinary64 finite kept
  | text content => rfl
  | list items inductionHypothesis =>
      rw [toJson, itemsToJson_eq] at nesting ⊢
      rw [Json.depth] at nesting
      rw [ofJson?, if_neg (by omega), itemsOfJson?_eq, mapM_map_eq_self]
      · rfl
      · intro item member
        have itemNesting := Json.itemsDepth_le_iff.1 (Nat.le_sub_one_of_lt nesting) item.toJson
          (List.mem_map_of_mem member)
        exact inductionHypothesis item member itemNesting fun number listed =>
          survives number (mem_itemsFloats.2 ⟨item, member, listed⟩)

/-! ## Values that are read -/

/-- What a document has to be for a value to be read from it. -/
inductive ReadFrom (depth : Nat) : Json → Value → Prop where
  | null : ReadFrom depth .null .null
  | bool (value : Bool) : ReadFrom depth (.bool value) (.bool value)
  | int (literal : Json.Number) (value : Int64) : ReadFrom depth (.number literal) (.int value)
  | float {literal : Json.Number} {number : Binary64}
      (stands : literal.toBinary64? = some number) :
      ReadFrom depth (.number literal) (.float number)
  | text (content : String) : ReadFrom depth (.quoted (some content)) (.text content)
  | list {documents : List Json} {items : List Value} (positive : 0 < depth)
      (inside : ∀ item ∈ items, ∃ document, ofJson? (depth - 1) document = some item) :
      ReadFrom depth (.list documents) (.list items)

private theorem readFrom_of_ofNumber? {depth : Nat} {literal : Json.Number} {value : Value}
    (read : ofNumber? literal = some value) : ReadFrom depth (.number literal) value := by
  have double (found : literal.toBinary64?.map Value.float = some value) :
      ReadFrom depth (.number literal) value := by
    obtain ⟨number, stands, rfl⟩ := Option.map_eq_some_iff.1 found
    exact .float stands
  unfold ofNumber? at read
  split at read
  next integer _ =>
    split at read
    next =>
      rw [← Option.some.inj read]
      exact .int literal _
    next => exact double read
  next => exact double read

theorem readFrom_of_ofJson? {depth : Nat} {document : Json} {value : Value}
    (read : ofJson? depth document = some value) : ReadFrom depth document value := by
  cases document with
  | null =>
      cases read
      exact .null
  | bool value =>
      cases read
      exact .bool value
  | number literal => exact readFrom_of_ofNumber? read
  | quoted content =>
      obtain ⟨content, rfl, rfl⟩ := Option.map_eq_some_iff.1 read
      exact .text content
  | list documents =>
      rw [ofJson?] at read
      split at read
      next => cases read
      next positive =>
        rw [itemsOfJson?_eq] at read
        obtain ⟨items, areItems, rfl⟩ := Option.map_eq_some_iff.1 read
        refine .list (Nat.pos_of_ne_zero positive) fun item member => ?_
        obtain ⟨inside, _, read⟩ := exists_of_mem_of_mapM areItems member
        exact ⟨inside, read⟩
  | object members => cases read

/-- A value is nested no more deeply than its reader accepts. -/
theorem depth_toJson_le {value : Value} {depth : Nat} {document : Json}
    (read : ofJson? depth document = some value) : value.toJson.depth ≤ depth := by
  induction value generalizing depth document with
  | float number =>
      rw [toJson]
      split <;> exact Nat.zero_le depth
  | list items inductionHypothesis =>
      cases readFrom_of_ofJson? read with
      | list positive inside =>
          have bound : Json.itemsDepth (itemsToJson items) ≤ depth - 1 := by
            rw [itemsToJson_eq, Json.itemsDepth_le_iff]
            intro written member
            obtain ⟨item, listed, rfl⟩ := List.mem_map.1 member
            obtain ⟨document, read⟩ := inside item listed
            exact inductionHypothesis item listed read
          rw [toJson, Json.depth]
          omega
  | _ => exact Nat.zero_le depth

/-- The doubles in a value that was read are finite. -/
theorem isFinite_of_ofJson? {value : Value} {depth : Nat} {document : Json}
    (read : ofJson? depth document = some value) :
    ∀ number ∈ value.floats, number.isFinite = true := by
  induction value generalizing depth document with
  | float number =>
      cases readFrom_of_ofJson? read with
      | float stands =>
          intro other listed
          obtain rfl : other = number := List.mem_singleton.1 listed
          exact Json.Number.isFinite_of_toBinary64? stands
  | list items inductionHypothesis =>
      cases readFrom_of_ofJson? read with
      | list positive inside =>
          intro number listed
          obtain ⟨item, member, inItem⟩ := mem_itemsFloats.1 listed
          obtain ⟨document, read⟩ := inside item member
          exact inductionHypothesis item member read number inItem
  | _ => exact nofun

/-- Only null is read as null. -/
theorem ne_null_of_ofJson? {value : Value} {depth : Nat} {document : Json}
    (present : document ≠ .null) (read : ofJson? depth document = some value) :
    value ≠ .null := by
  rintro rfl
  cases readFrom_of_ofJson? read with
  | null => exact present rfl

/-- A value other than null with finite doubles is not written as null. -/
theorem toJson_ne_null {value : Value} (present : value ≠ .null)
    (finite : ∀ number ∈ value.floats, number.isFinite = true) : value.toJson ≠ .null := by
  cases value with
  | null => exact absurd rfl present
  | float number =>
      rw [toJson, if_pos (finite number (List.mem_singleton.2 rfl))]
      rintro ⟨⟩
  | _ => rintro ⟨⟩

end Value

/-! ## Records -/

namespace Json

theorem namedMembers?_ofMembers (members : List (String × Json)) :
    namedMembers? (members.map fun member => (some member.1, member.2)) = some members := by
  induction members with
  | nil => rfl
  | cons member rest inductionHypothesis =>
      rw [List.map_cons, namedMembers?, inductionHypothesis]
      rfl

/-- A member of an object is nested less deeply than the object. -/
theorem depth_le_of_mem {members : List (String × Json)} {bound : Nat}
    (nesting : (ofMembers members).depth ≤ bound) {member : String × Json}
    (listed : member ∈ members) : member.2.depth ≤ bound - 1 := by
  rw [ofMembers, depth] at nesting
  have inside := Nat.le_sub_one_of_lt nesting
  exact membersDepth_le_iff.1 inside (some member.1, member.2)
    (List.mem_map.2 ⟨member, listed, rfl⟩)

theorem wellFormed_ofMembers {members : List (String × Json)}
    (wellFormed : ∀ member ∈ members, member.2.WellFormed) : (ofMembers members).WellFormed := by
  refine .object fun named listed => ?_
  obtain ⟨member, inMembers, rfl⟩ := List.mem_map.1 listed
  exact wellFormed member inMembers

end Json

namespace Record

/-- An entry behind all others is added at the end. -/
private theorem insertEntry_last {name : String} {value : Value} {entries : List (String × Value)}
    (last : ∀ entry ∈ entries, entry.1 < name) :
    insertEntry name value entries = entries ++ [(name, value)] := by
  induction entries with
  | nil => rfl
  | cons entry rest inductionHypothesis =>
      obtain ⟨below, others⟩ := List.forall_mem_cons.1 last
      have notAbove : ¬ name < entry.1 := String.lt_asymm below
      have different : name ≠ entry.1 := (String.ne_of_lt below).symm
      rw [insertEntry, if_neg notAbove, if_neg different, inductionHypothesis others]
      rfl

private theorem entries_foldl {record : Record} {entries : List (String × Value)}
    (sorted : (record.entries ++ entries).Pairwise fun earlier later => earlier.1 < later.1) :
    (entries.foldl (fun record entry => record.insert entry.1 entry.2) record).entries =
      record.entries ++ entries := by
  -- Each entry comes behind those that are already there.
  induction entries generalizing record with
  | nil => exact (List.append_nil _).symm
  | cons entry rest inductionHypothesis =>
      have inserted : (record.insert entry.1 entry.2).entries = record.entries ++ [entry] :=
        insertEntry_last fun earlier member =>
          (List.pairwise_append.1 sorted).2.2 earlier member entry (by simp)
      rw [List.append_cons, ← inserted] at sorted ⊢
      exact inductionHypothesis sorted

/-- The entries of a record give that record. -/
theorem ofList_entries (record : Record) : ofList record.entries = record := by
  obtain ⟨entries, sorted⟩ := record
  have kept : (ofList entries).entries = entries := @entries_foldl empty entries sorted
  change (⟨(ofList entries).entries, _⟩ : Record) = _
  simp only [kept]

def floats (record : Record) : List Binary64 :=
  record.entries.flatMap fun entry => entry.2.floats

theorem wellFormed_toJson (record : Record) : record.toJson.WellFormed := by
  refine Json.wellFormed_ofMembers fun member listed => ?_
  obtain ⟨entry, _, rfl⟩ := List.mem_map.1 listed
  exact entry.2.wellFormed_toJson

/-- A record is read back from its own JSON. -/
theorem ofJson?_toJson (record : Record) (nesting : record.toJson.depth ≤ Json.maxDepth)
    (survives : ∀ number ∈ record.floats, number.isFinite = true ∧ number.SurvivesJson) :
    ofJson? record.toJson = some record := by
  have entries : (record.entries.map fun entry => (entry.1, entry.2.toJson)).mapM
      (fun member => (Value.ofJson? (Json.maxDepth - 1) member.2).map fun value =>
        (member.1, value)) = some record.entries := by
    refine mapM_map_eq_self fun entry member => ?_
    have entryNesting : entry.2.toJson.depth ≤ Json.maxDepth - 1 :=
      Json.depth_le_of_mem nesting (List.mem_map_of_mem member)
    have entrySurvives : entry.2.Survives := fun number listed =>
      survives number (List.mem_flatMap.2 ⟨entry, member, listed⟩)
    rw [Value.ofJson?_toJson entry.2 entryNesting entrySurvives]
    rfl
  change (Json.namedMembers? _).bind _ = _
  rw [Json.namedMembers?_ofMembers]
  change Option.bind (List.mapM _ _) _ = _
  rw [entries]
  exact congrArg some record.ofList_entries

/-- A record survives JSON: reading the text that it is written as gives it back, if its
finite doubles survive and the text is not nested more deeply than a reader accepts. -/
theorem survives_json (record : Record) (nesting : record.toJson.depth ≤ Json.maxDepth)
    (survives : ∀ number ∈ record.floats, number.isFinite = true ∧ number.SurvivesJson) :
    ofJsonText? record.toJsonText = some record := by
  rw [ofJsonText?, toJsonText, Json.read?_toText record.wellFormed_toJson]
  exact record.ofJson?_toJson nesting survives

/-- A record with texts that need escapes, the least integer, and doubles without a
fractional part inside of lists. -/
def mixed : Record where
  entries := [("", .text "\"\\\n\x01é"), ("a\tb", .int Int64.minValue),
    ("lists", .list [.list [.float (.ofInt 3), .int 3], .float (.zero true), .null, .bool true])]
  sorted := by decide

theorem mixed_survives_json :
    mixed.toJson.depth ≤ Json.maxDepth ∧
      (∀ number ∈ mixed.floats, number.isFinite = true ∧ number.SurvivesJson) ∧
      ofJsonText? mixed.toJsonText = some mixed :=
  ⟨by decide +kernel, by decide +kernel,
    mixed.survives_json (by decide +kernel) (by decide +kernel)⟩

end Record

end SchemaKeeper
