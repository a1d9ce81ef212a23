import SchemaKeeper.Proofs.Restrictions
import SchemaKeeper.Proofs.Writes

/-!
Contract: which written fields get the literal NULL although they are not nullable.

A null is accepted where no value is required, that is, in a field that is nullable, numbered by
the server or has a default. A new row has the default in place of a null, so nulls reach it only
through nullable fields and null defaults. A change of existing rows takes nulls as they are, so
it can set a field with a default to NULL.

A double that is not finite has no literal and is written as NULL. Fields of all kinds but
timestamps refuse such a number.

Owns: the literals that are NULL, in insertions and in changes.

Does not own: the statements that carry the literals (`Writes`).
-/

namespace SchemaKeeper

/-! ## Values -/

namespace Value

/-- The value is a number that is not finite. -/
def HasNoLiteral (value : Value) : Prop :=
  ∃ number, value = .float number ∧ number.isFinite = false

theorem literal_eq_null_iff {value : Value} (single : value.isList = false) :
    value.literal = Sql.word "NULL" ↔ value = .null ∨ value.HasNoLiteral := by
  cases value with
  | null => exact iff_of_true rfl (.inl rfl)
  | bool value => cases value <;> simp [literal, Sql.word, HasNoLiteral]
  | int value => simp [literal, Sql.word, HasNoLiteral]
  | float number =>
      cases finite : number.isFinite with
      | true => simp [literal, Sql.word, HasNoLiteral, finite]
      | false => simp [literal, HasNoLiteral, finite]
  | text value => simp [literal, Sql.word, HasNoLiteral]
  | list items => contradiction

end Value

namespace Field

variable {table name : String} {field : Field} {required : Bool} {value : Value}

theorem not_required_of_null (accepted : checkValue table name field required .null = .ok ()) :
    required = false := by
  rw [checkValue_eq_ok_iff] at accepted
  cases required with
  | false => rfl
  | true => contradiction

/-- Only timestamps accept numbers that are not finite. -/
theorem timestamp_of_hasNoLiteral
    (accepted : checkValue table name field required value = .ok ())
    (infinite : value.HasNoLiteral) : field.kind = .timestamp := by
  obtain ⟨number, rfl, infinite⟩ := infinite
  rw [checkValue_eq_ok_iff] at accepted
  have admitted : kindRefusal? field.kind (.float number) = none := by
    cases refused : kindRefusal? field.kind (.float number) with
    | none => rfl
    | some refusal => simp [refusal?, refused] at accepted
  have notWhole : number.isWhole = false := by
    rw [Binary64.isWhole, infinite, Bool.false_and]
  cases kind : field.kind with
  | timestamp => rfl
  | _ =>
      simp [kindRefusal?, kind, Value.isWholeNumber, Value.number?, notWhole, infinite] at admitted

end Field

namespace Table

variable {table : Table} {record : Record} {row : Row} {action : Action} {name : String}
  {field : Field} {value : Value}

/-- A null that a table accepts stands in a field that is nullable, numbered or has a default. -/
theorem default_of_null (listed : (name, field) ∈ table.fields)
    (accepted : table.checkValue name .null = .ok ()) (required : field.nullable = false)
    (writable : field.autoIncrement = false) : field.default.isSome = true := by
  rw [checkValue_of_listed listed] at accepted
  have optional := Field.not_required_of_null accepted
  rw [Field.isRequired, required, writable] at optional
  cases declared : field.default with
  | none => simp [declared] at optional
  | some value => rfl

/-- Which written values have the literal NULL, once their table accepts them. -/
theorem literal_eq_null_iff_of_listed (listed : (name, field) ∈ table.fields)
    (accepted : table.checkValue name value = .ok ()) :
    value.literal = Sql.word "NULL" ↔
      value = .null ∨ value.HasNoLiteral ∧ field.kind = .timestamp := by
  rw [Value.literal_eq_null_iff (Filter.isList_of_checkValue accepted)]
  rw [checkValue_of_listed listed] at accepted
  have timestamp := Field.timestamp_of_hasNoLiteral accepted
  constructor
  · exact Or.imp_right fun infinite => ⟨infinite, timestamp infinite⟩
  · exact Or.imp_right And.left

/-! ## Insertions -/

theorem newValue_eq_null_iff (given : Option Value) :
    newValue field given = .null ↔
      given.getD .null = .null ∧ field.default.getD .null = .null := by
  unfold newValue
  split
  · simp
  · simp
  next value notNull =>
    have different : value ≠ .null := fun same => notNull (same ▸ rfl)
    simp [different]

/-- A field that is not nullable holds a null in a new row if its default is one. -/
theorem newValue_eq_null_iff_of_required (listed : (name, field) ∈ table.fields)
    (required : field.nullable = false) (writable : field.autoIncrement = false)
    {given : Option Value} (accepted : table.checkValue name (newValue field given) = .ok ()) :
    newValue field given = .null ↔ given.getD .null = .null ∧ field.default = some .null := by
  rw [newValue_eq_null_iff]
  constructor
  · intro nulls
    rw [(newValue_eq_null_iff given).2 nulls] at accepted
    obtain ⟨value, declared⟩ :=
      Option.isSome_iff_exists.1 (default_of_null listed accepted required writable)
    rw [declared] at nulls ⊢
    exact ⟨nulls.1, congrArg some nulls.2⟩
  · intro nulls
    rw [nulls.2]
    exact ⟨nulls.1, rfl⟩

section Insertions

variable (σ : Type) [Connection σ]

/-- Once the connection has said whether it can return rows, an accepted insertion, with or
without an update of the row it collides with, lists each written field once, in declaration
order, with as many literals. A field that is not nullable gets NULL just if it is a timestamp
whose value, given or by default, is a number that is not finite, or if it is left out and its
default is a null. -/
theorem inserts_null_iff (table : Table) {action : Action} {record : Record}
    (inserts : action.Inserts record) {row : Row} (written : action.row? table = some row) :
    (∀ connection : σ,
      (∀ cause, (Connection.supportsReturning connection).1 = .error cause →
        (table.perform action (Traced.start connection)).2.statements = []) ∧
      ∀ returning, (Connection.supportsReturning connection).1 = .ok returning →
        ∃ statement reads,
          (table.perform action (Traced.start connection)).2.statements = statement :: reads ∧
          statement.Inserts table.name table.writableFields
            (row.map fun entry => entry.2.literal) ∧
          ∀ read ∈ reads, table.ReadsBack row read) ∧
      row.map (·.1) = table.writableFields ∧ table.writableFields.Nodup ∧
      ∀ name field value, (name, field) ∈ table.fields → field.nullable = false →
        (name, value) ∈ row →
          (value.literal = Sql.word "NULL" ↔
            value.HasNoLiteral ∧ field.kind = .timestamp ∨
              (record.get? name).getD .null = .null ∧ field.default = some .null) := by
  have names : row.map (·.1) = table.writableFields := by
    rw [eq_newRow_of_inserts inserts written, newRow_names]
  refine ⟨?_, names, table.nodup_writableFields, ?_⟩
  · intro connection
    constructor
    · intro cause failed
      rw [perform_unanswered inserts written (.start connection) (Prod.ext failed rfl)]
      rfl
    · intro returning supported
      obtain ⟨statement, sendsFirst, form⟩ :=
        perform_inserts inserts written (.start connection) (Prod.ext supported rfl)
      obtain ⟨reads, sent, readBack⟩ := sendsFirst.of_start
      rw [names] at form
      exact ⟨statement, reads, sent, form, readBack⟩
  · intro name field value listed required member
    have accepted := accepts_row? written (name, value) member
    rw [eq_newRow_of_inserts inserts written] at member
    obtain ⟨rfl, writable⟩ := value_of_mem_newRow listed member
    rw [literal_eq_null_iff_of_listed listed accepted,
      newValue_eq_null_iff_of_required listed required writable accepted]
    exact or_comm

def newOrder : Record := .ofList [("code", .text "a")]

def newOrderRow : Row := [("code", .text "a"), ("state", .text "new"), ("remark", .null)]

/-- The order is inserted with all of its fields but the number, and its state, which is not
nullable, is not NULL. -/
theorem newOrder_filled :
    Action.row? orders (.insert newOrder) = some newOrderRow ∧
      (∃ statement reads,
        (orders.perform (.insert newOrder) (Traced.start emptyConnection)).2.statements =
          statement :: reads ∧
        statement.Inserts "orders" ["code", "state", "remark"]
          (newOrderRow.map fun entry => entry.2.literal)) ∧
      (Value.text "new").literal ≠ Sql.word "NULL" := by
  have written : Action.row? orders (.insert newOrder) = some newOrderRow := rfl
  obtain ⟨sends, _, _, nulls⟩ :=
    inserts_null_iff MemoryConnection orders (.insert newOrder) written
  obtain ⟨statement, reads, sent, form, _⟩ := (sends emptyConnection).2 true rfl
  refine ⟨written, ⟨statement, reads, sent, form⟩, ?_⟩
  have listed : ("state", Value.text "new") ∈ newOrderRow := by simp [newOrderRow]
  have filled := nulls "state" _ _ (List.mem_of_getElem? (i := 2) rfl) rfl listed
  rw [ne_eq, filled]
  rintro (⟨⟨_, ⟨⟩, _⟩, _⟩ | ⟨_, ⟨⟩⟩)

def visits : Table where
  name := "visits"
  fields := [("at", { kind := .timestamp, maxSize := some (.ofInt 0) })]
  accepted := by decide +kernel

/-- A visit at no number is accepted, and is inserted with NULL in a field that is not
nullable. -/
theorem visit_inserted_null :
    (visits.field? "at").map Field.nullable = some false ∧
      Action.row? visits (.insert (.ofList [("at", .float .nan)])) = some [("at", .float .nan)] ∧
      (visits.perform (.insert (.ofList [("at", .float .nan)]))
          (Traced.start emptyConnection)).2.statements.map Statement.text =
        ["INSERT INTO `visits` (`at`) VALUES (NULL) RETURNING *"] := by
  decide +kernel

end Insertions

/-! ## Changes -/

section Changes

variable (σ : Type) [Connection σ]

/-- An accepted change of existing rows assigns the values of its row to written fields. A field
that is not nullable gets NULL just if it has a default and the record leaves it out or gives a
null. Numbers that are not finite are left aside here. -/
theorem updates_null_iff (table : Table) {action : Action} {record : Record}
    (updates : action.Updates record) {row : Row} (written : action.row? table = some row) :
    (∀ connection : σ, ∃ statement reads,
      (table.perform action (Traced.start connection)).2.statements = statement :: reads ∧
      statement.Assigns table.name (row.map fun entry => (entry.1, entry.2.literal)) ∧
      ∀ read ∈ reads, table.ReadsBack row read) ∧
      (∀ entry ∈ row, entry.1 ∈ table.writableFields) ∧
      ∀ name field value, (name, field) ∈ table.fields → field.nullable = false →
        (name, value) ∈ row → ¬ value.HasNoLiteral →
          (value.literal = Sql.word "NULL" ↔
            (record.get? name).getD .null = .null ∧ field.default.isSome = true) := by
  refine ⟨?_, fun entry member => (value_of_updates updates written member).2, ?_⟩
  · intro connection
    obtain ⟨statement, sendsFirst, form⟩ := perform_assigns updates written (.start connection)
    obtain ⟨reads, sent, readBack⟩ := sendsFirst.of_start
    exact ⟨statement, reads, sent, form, readBack⟩
  · intro name field value listed required member finite
    have accepted := accepts_row? written (name, value) member
    obtain ⟨rfl, assigned⟩ := value_of_updates updates written member
    have writable := table.autoIncrement_of_mem_writableFields listed assigned
    rw [literal_eq_null_iff_of_listed listed accepted]
    constructor
    · intro null
      have null := null.resolve_right fun infinite => finite infinite.1
      rw [null] at accepted
      exact ⟨null, default_of_null listed accepted required writable⟩
    · intro left
      exact .inl left.1

/-- An order that is replaced by one with a state. -/
def replacedOrder : Record := .ofList [("code", .text "b"), ("state", .text "sent")]

def replacedOrderRow : Row := [("code", .text "b"), ("state", .text "sent"), ("remark", .null)]

/-- The replacement of the order `a`. -/
def replacingA : Action := .update (.ofList [("code", .text "a")]) replacedOrder

/-- The remark becomes NULL, but the state, which is not nullable, does not. -/
theorem replacedOrder_keeps_state :
    Action.row? orders replacingA = some replacedOrderRow ∧
      (∃ statement reads,
        (orders.perform replacingA (Traced.start emptyConnection)).2.statements =
          statement :: reads ∧
        statement.Assigns "orders"
          (replacedOrderRow.map fun entry => (entry.1, entry.2.literal))) ∧
      (Value.text "sent").literal ≠ Sql.word "NULL" := by
  have written : Action.row? orders replacingA = some replacedOrderRow := by decide +kernel
  obtain ⟨sends, _, nulls⟩ := updates_null_iff MemoryConnection orders (.update _ _) written
  obtain ⟨statement, reads, sent, form, _⟩ := sends emptyConnection
  refine ⟨written, ⟨statement, reads, sent, form⟩, ?_⟩
  have listed : ("state", Value.text "sent") ∈ replacedOrderRow := by simp [replacedOrderRow]
  have finite : ¬ (Value.text "sent").HasNoLiteral := by rintro ⟨_, ⟨⟩, _⟩
  have assigned := nulls "state" _ _ (List.mem_of_getElem? (i := 2) rfl) rfl listed finite
  rw [ne_eq, assigned]
  rintro ⟨⟨⟩, _⟩

/-- An order that is replaced without a state gets NULL as its state, and so does one whose state
is changed to a null, though the state is not nullable. -/
theorem order_state_nulled :
    (orders.field? "state").map Field.nullable = some false ∧
      (orders.performAll
          [.update (.ofList [("code", .text "a")]) (.ofList [("code", .text "b")]),
            .updateWhere (.predicate "code" .equal (.text "a")) (.ofList [("state", .null)])]
          (Traced.start emptyConnection)).2.statements.map Statement.text =
        ["UPDATE `orders` SET `code` = 'b', `state` = NULL, `remark` = NULL WHERE (`code` = 'a')",
          "SELECT * FROM `orders` WHERE " ++
            "(`code` = 'b' AND `remark` IS NULL AND `state` IS NULL) LIMIT 1",
          "UPDATE `orders` SET `state` = NULL WHERE `code` = 'a'",
          "SELECT * FROM `orders` WHERE (`state` IS NULL) LIMIT 1"] := by
  decide +kernel

end Changes

end Table

end SchemaKeeper
