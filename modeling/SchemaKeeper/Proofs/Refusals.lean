import SchemaKeeper.Connection.Memory
import SchemaKeeper.Proofs.Declarations
import SchemaKeeper.Proofs.FilterReading
import SchemaKeeper.Proofs.Requests
import SchemaKeeper.Table.Actions

/-!
Contract: a request on a table that is refused has sent nothing.

The checks of a request come before its first statement. Only a row that was written
is looked up behind one, and that lookup is checked like any other. It is accepted:
each value of the row was accepted in a record, or is a default, or a null where no
value is required.

Owns: when a request that writes passes its checks, which rows a table accepts, why written
rows are among them, and the order of refusals and statements in each request.
-/

namespace SchemaKeeper

/-! ## Values -/

namespace Field

variable {table name : String} {field : Field} {required : Bool} {value : Value}

theorem checkValue_eq_ok_iff :
    checkValue table name field required value = .ok () ↔ field.refusal? required value = none := by
  unfold checkValue
  cases field.refusal? required value <;> simp

theorem checkValue_null : checkValue table name field false .null = .ok () := rfl

end Field

namespace Table

variable {table : Table} {name : String} {field : Field} {value : Value}

theorem checkValue_of_listed (listed : (name, field) ∈ table.fields) :
    table.checkValue name value = field.checkValue table.name name field.isRequired value := by
  rw [checkValue, table.field?_eq_some_iff.2 listed, table.contains_requiredFields listed]

theorem exists_listed_of_checkValue (accepted : table.checkValue name value = .ok ()) :
    ∃ field, (name, field) ∈ table.fields ∧
      field.checkValue table.name name field.isRequired value = .ok () := by
  cases found : table.field? name with
  | none => simp [checkValue, found] at accepted
  | some field =>
      have listed := table.field?_eq_some_iff.1 found
      rw [checkValue_of_listed listed] at accepted
      exact ⟨field, listed, accepted⟩

/-! ## Records -/

/-- Each entry holds an accepted value of a field. -/
def Accepts (table : Table) (row : Row) : Prop :=
  ∀ entry ∈ row, table.checkValue entry.1 entry.2 = .ok ()

theorem checkEntries_eq_ok_iff {entries : List (String × Value)} :
    table.checkEntries entries = .ok () ↔ table.Accepts entries := by
  induction entries with
  | nil => simp [checkEntries, Accepts]
  | cons entry rest inductionHypothesis =>
      rw [checkEntries, bind_eq_ok_iff, Accepts, List.forall_mem_cons]
      exact ⟨fun ⟨_, first, others⟩ => ⟨first, inductionHypothesis.1 others⟩,
        fun ⟨first, others⟩ => ⟨(), first, inductionHypothesis.2 others⟩⟩

variable {record : Record}

private theorem accepts_entries (accepted : table.checkRecord .create record = .ok ()) :
    table.Accepts record.entries := by
  rw [checkRecord, bind_eq_ok_iff] at accepted
  obtain ⟨_, _, entriesAccepted⟩ := accepted
  exact checkEntries_eq_ok_iff.1 entriesAccepted

/-- Nothing is required of a field that a complete record leaves out or null. -/
theorem isRequired_of_complete (complete : table.missingFields record = [])
    (listed : (name, field) ∈ table.fields)
    (absent : ((record.get? name).getD .null).isNull = true) : field.isRequired = false := by
  have required := table.contains_requiredFields listed
  rw [missingFields, List.filter_eq_nil_iff] at complete
  cases needed : field.isRequired with
  | false => rfl
  | true =>
      rw [needed, List.contains_iff_mem] at required
      exact absurd absent (complete name required)

theorem checkComplete_eq_ok_iff :
    table.checkComplete record = .ok () ↔
      record.entries ≠ [] ∧ table.missingFields record = [] := by
  unfold checkComplete
  simp only [Record.isEmpty, List.isEmpty_iff]
  by_cases empty : record.entries = []
  · simp [empty]
  · by_cases complete : table.missingFields record = [] <;> simp [empty, complete]

theorem missingFields_eq_nil (complete : table.checkComplete record = .ok ()) :
    table.missingFields record = [] :=
  (checkComplete_eq_ok_iff.1 complete).2

/-- What a complete record gives a field, or null, is a value of the field. -/
theorem checkValue_getD (accepted : table.checkRecord .create record = .ok ())
    (listed : (name, field) ∈ table.fields) :
    table.checkValue name ((record.get? name).getD .null) = .ok () := by
  cases given : record.get? name with
  | none =>
      have absent : ((record.get? name).getD .null).isNull = true := by
        rw [given]
        rfl
      rw [checkRecord, bind_eq_ok_iff] at accepted
      obtain ⟨_, complete, _⟩ := accepted
      rw [checkValue_of_listed listed,
        isRequired_of_complete (missingFields_eq_nil complete) listed absent]
      exact Field.checkValue_null
  | some value =>
      obtain ⟨before, after, split, _⟩ := List.lookup_eq_some_iff.1 given
      exact accepts_entries accepted (name, value) (by simp [split])

/-! ## Checked requests -/

section Checked

variable {row : Row} {condition : Sql}

theorem insertion_eq_ok_iff :
    table.insertion record = .ok row ↔
      table.checkRecord .create record = .ok () ∧ row = table.newRow record := by
  rw [insertion, bind_eq_ok_iff]
  simp only [mapError_eq_ok_iff]
  constructor
  · rintro ⟨_, accepted, ⟨⟩⟩
    exact ⟨accepted, rfl⟩
  · rintro ⟨accepted, rfl⟩
    exact ⟨(), accepted, rfl⟩

/-- Named fields are checked; unless some are named, those of the row are taken. -/
theorem upsertion_eq_ok_iff {updated : Option (List String)} {names : List String} :
    table.upsertion record updated = .ok (row, names) ↔
      table.insertion record = .ok row ∧
        (∀ named, updated = some named → table.checkNames named = .ok ()) ∧
        names = updated.getD (row.map (·.1)) := by
  rw [upsertion, bind_eq_ok_iff]
  cases updated with
  | none =>
      constructor
      · rintro ⟨_, accepted, ⟨⟩⟩
        exact ⟨accepted, nofun, rfl⟩
      · rintro ⟨accepted, _, rfl⟩
        exact ⟨row, accepted, rfl⟩
  | some named =>
      simp only [bind_eq_ok_iff]
      constructor
      · rintro ⟨_, accepted, _, known, ⟨⟩⟩
        refine ⟨accepted, ?_, rfl⟩
        rintro _ ⟨⟩
        exact known
      · rintro ⟨accepted, known, rfl⟩
        exact ⟨row, accepted, (), known _ rfl, rfl⟩

theorem replacement_eq_ok_iff {query : Record} :
    table.replacement query record = .ok (condition, row) ↔
      (Filter.allEqual query).render table = .ok condition ∧
        table.checkRecord .update record = .ok () ∧ row = table.replacementRow record := by
  rw [replacement, bind_eq_ok_iff]
  simp only [bind_eq_ok_iff, mapError_eq_ok_iff]
  constructor
  · rintro ⟨_, rendered, _, accepted, ⟨⟩⟩
    exact ⟨rendered, accepted, rfl⟩
  · rintro ⟨rendered, accepted, rfl⟩
    exact ⟨condition, rendered, (), accepted, rfl⟩

theorem changes_eq_ok_iff {filter : Filter} :
    table.changes filter record = .ok (condition, row) ↔
      filter.render table = .ok condition ∧ table.Accepts record.entries ∧
        row = record.entries.filter (fun entry => table.isWritable entry.1) ∧ row ≠ [] := by
  rw [changes, bind_eq_ok_iff, ← checkEntries_eq_ok_iff]
  simp only [bind_eq_ok_iff, mapError_eq_ok_iff]
  constructor
  · rintro ⟨_, rendered, _, accepted, written⟩
    split at written
    · contradiction
    next remains =>
      cases written
      exact ⟨rendered, accepted, rfl, mt List.isEmpty_iff.2 remains⟩
  · rintro ⟨rendered, accepted, rfl, remains⟩
    refine ⟨condition, rendered, (), accepted, ?_⟩
    rw [if_neg (mt List.isEmpty_iff.1 remains)]
    rfl

end Checked

/-! ## Written rows -/

theorem newValue_cases (field : Field) (given : Option Value) :
    newValue field given = given.getD .null ∨ field.default = some (newValue field given) := by
  unfold newValue
  split
  · cases field.default <;> simp
  · cases field.default <;> simp
  · simp

theorem accepts_newRow (accepted : table.checkRecord .create record = .ok ()) :
    table.Accepts (table.newRow record) := by
  intro entry member
  obtain ⟨⟨name, field⟩, kept, rfl⟩ := List.mem_map.1 member
  have listed := (List.mem_filter.1 kept).1
  rcases newValue_cases field (record.get? name) with asGiven | declared
  · change table.checkValue name (newValue field (record.get? name)) = .ok ()
    rw [asGiven]
    exact checkValue_getD accepted listed
  · have optional : field.isRequired = false := by simp [Field.isRequired, declared]
    change table.checkValue name (newValue field (record.get? name)) = .ok ()
    rw [checkValue_of_listed listed, optional]
    exact table.checkValue_default listed declared

theorem accepts_replacementRow (accepted : table.checkRecord .update record = .ok ()) :
    table.Accepts (table.replacementRow record) := by
  intro entry member
  obtain ⟨name, writable, rfl⟩ := List.mem_map.1 member
  obtain ⟨⟨_, field⟩, kept, rfl⟩ := List.mem_map.1 writable
  -- A record for replacing rows passes the checks of one for a new row.
  exact checkValue_getD accepted (List.mem_filter.1 kept).1

theorem accepts_insertion {row : Row} (written : table.insertion record = .ok row) :
    table.Accepts row := by
  obtain ⟨accepted, rfl⟩ := insertion_eq_ok_iff.1 written
  exact accepts_newRow accepted

theorem accepts_upsertion {row : Row} {updated : Option (List String)} {names : List String}
    (written : table.upsertion record updated = .ok (row, names)) : table.Accepts row :=
  accepts_insertion (upsertion_eq_ok_iff.1 written).1

theorem accepts_replacement {query : Record} {condition : Sql} {row : Row}
    (written : table.replacement query record = .ok (condition, row)) : table.Accepts row := by
  obtain ⟨_, accepted, rfl⟩ := replacement_eq_ok_iff.1 written
  exact accepts_replacementRow accepted

theorem accepts_changes {filter : Filter} {condition : Sql} {row : Row}
    (written : table.changes filter record = .ok (condition, row)) : table.Accepts row := by
  obtain ⟨_, accepts, rfl, _⟩ := changes_eq_ok_iff.1 written
  exact fun entry kept => accepts entry (List.mem_filter.1 kept).1

section Actions

variable {row : Row}

theorem row?_insert :
    (Action.insert record).row? table = some row ↔ table.insertion record = .ok row :=
  toOption_eq_some_iff

theorem row?_upsert {updated : Option (List String)} :
    (Action.upsert record updated).row? table = some row ↔
      ∃ names, table.upsertion record updated = .ok (row, names) := by
  change (table.upsertion record updated).toOption.map (·.1) = some row ↔ _
  simp only [Option.map_eq_some_iff, toOption_eq_some_iff, Prod.exists, exists_and_right,
    exists_eq_right]

theorem row?_update {query : Record} :
    (Action.update query record).row? table = some row ↔
      ∃ condition, table.replacement query record = .ok (condition, row) := by
  change (table.replacement query record).toOption.map (·.2) = some row ↔ _
  simp only [Option.map_eq_some_iff, toOption_eq_some_iff, Prod.exists, exists_eq_right]

theorem row?_updateWhere {filter : Filter} :
    (Action.updateWhere filter record).row? table = some row ↔
      ∃ condition, table.changes filter record = .ok (condition, row) := by
  change (table.changes filter record).toOption.map (·.2) = some row ↔ _
  simp only [Option.map_eq_some_iff, toOption_eq_some_iff, Prod.exists, exists_eq_right]

/-- A table accepts every row that is written to it. -/
theorem accepts_row? {action : Action} (written : action.row? table = some row) :
    table.Accepts row := by
  cases action with
  | insert record => exact accepts_insertion (row?_insert.1 written)
  | upsert record updated =>
      obtain ⟨names, checked⟩ := row?_upsert.1 written
      exact accepts_upsertion checked
  | update query record =>
      obtain ⟨condition, checked⟩ := row?_update.1 written
      exact accepts_replacement checked
  | updateWhere filter record =>
      obtain ⟨condition, checked⟩ := row?_updateWhere.1 written
      exact accepts_changes checked
  | _ => contradiction

end Actions

/-! ## Lookups -/

end Table

theorem Record.mem_ofList {row : Row} {entry : String × Value}
    (member : entry ∈ (Record.ofList row).entries) : entry ∈ row := by
  suffices gathered : ∀ record : Record,
      entry ∈ (row.foldl (fun record entry => record.insert entry.1 entry.2) record).entries →
        entry ∈ record.entries ∨ entry ∈ row by
    rcases gathered Record.empty member with none | listed
    · contradiction
    · exact listed
  clear member
  induction row with
  | nil => exact fun record member => .inl member
  | cons first rest inductionHypothesis =>
      intro record member
      rcases inductionHypothesis (record.insert first.1 first.2) member with before | later
      · rcases Record.mem_insertEntry before with here | there
        · exact .inr (here ▸ List.mem_cons_self)
        · exact .inl there
      · exact .inr (List.mem_cons_of_mem first later)

namespace Table

variable {table : Table}

/-- What a field can be compared with is what it takes. -/
theorem checkPredicate_equal_iff {name : String} {value : Value} :
    Filter.checkPredicate table name .equal value = .ok () ↔
      table.checkValue name value = .ok () := by
  rw [Filter.checkPredicate_eq_ok_iff]
  constructor
  · rintro ⟨_, fits⟩
    cases fits with
    | single _ _ _ accepted => exact accepted
  · intro accepted
    obtain ⟨field, listed, _⟩ := exists_listed_of_checkValue accepted
    have known : table.hasField name = true := by
      rw [hasField, table.field?_eq_some_iff.2 listed]
      rfl
    exact ⟨known, .single nofun nofun (Filter.isList_of_checkValue accepted) accepted⟩

/-- Rows that hold all of some values can be asked for if the table accepts these values. -/
theorem check_allEqual_iff {query : Record} (nonempty : query.entries ≠ []) :
    (Filter.allEqual query).check table = .ok () ↔ table.Accepts query.entries := by
  rw [Filter.allEqual, Filter.check_group (by simpa using nonempty), Filter.checkMembers_eq_ok_iff,
    List.forall_mem_map]
  simp only [Filter.check, checkPredicate_equal_iff]
  rfl

theorem exists_condition {filter : Filter} (accepted : filter.check table = .ok ()) :
    ∃ sql, table.condition (some filter) = .ok (some sql) := by
  obtain ⟨sql, written⟩ := Option.isSome_iff_exists.1 (filter.isSome_toSql?_of_check accepted)
  exact ⟨sql, map_eq_ok_iff.2 ⟨sql, Filter.render_eq_ok_iff.2 ⟨accepted, written⟩, rfl⟩⟩

/-- A record that the table accepts can be looked up, even if it is empty. -/
theorem lookup_accepted {query : Record} (accepts : table.Accepts query.entries)
    {limit : Option Nat} (positive : limit ≠ some 0) :
    ∃ statement, table.lookup query limit = .ok statement := by
  have limited : checkLimit limit = .ok () := if_neg positive
  have conditionAccepted : ∃ condition, table.condition
      (if query.isEmpty then none else some (.allEqual query)) = .ok condition := by
    by_cases empty : query.entries = []
    · exact ⟨none, by rw [Record.isEmpty, empty]; rfl⟩
    · rw [Record.isEmpty, if_neg (by simpa using empty)]
      obtain ⟨sql, accepted⟩ := exists_condition ((check_allEqual_iff empty).2 accepts)
      exact ⟨some sql, accepted⟩
  obtain ⟨condition, accepted⟩ := conditionAccepted
  exact ⟨_, bind_eq_ok_iff.2 ⟨(), limited, bind_eq_ok_iff.2 ⟨condition, accepted, rfl⟩⟩⟩

/-- A row that the table accepts can be looked up. -/
theorem exists_lookup {row : Row} (accepts : table.Accepts row) :
    ∃ statement, table.lookup (Record.ofList row) (some 1) = .ok statement :=
  lookup_accepted (fun entry member => accepts entry (Record.mem_ofList member)) (by simp)

/-! ## Requests -/

section Requests

open Request

variable {σ : Type} [Connection σ]

theorem readBack_neverRefuses {row : Row} (accepts : table.Accepts row) :
    NeverRefuses (table.readBack row : Request σ (Option Record)) := by
  have findNever : NeverRefuses (table.find (Record.ofList row) (some 1) : Request σ _) :=
    .bind (.checked (exists_lookup accepts)) fun statement => .access (Connection.query statement)
  exact .bind findNever fun rows => .pure rows.head?

theorem store_neverRefuses {row : Row} (accepts : table.Accepts row)
    (statement : Bool → Statement) :
    NeverRefuses (table.store row statement : Request σ (Option Record)) := by
  refine .bind (.access Connection.supportsReturning) fun returning => ?_
  cases returning with
  | true => exact .bind (.access (Connection.query (statement true))) fun rows => .pure rows.head?
  | false =>
      exact .bind (.access (Connection.execute (statement false))) fun _ =>
        readBack_neverRefuses accepts

theorem assign_neverRefuses {row : Row} (accepts : table.Accepts row) (condition : Sql) :
    NeverRefuses (table.assign condition row : Request σ (Option Record)) :=
  .bind (.access (Connection.execute (.update table.name row condition))) fun _ =>
    readBack_neverRefuses accepts

theorem reconcile_refusesFirst : RefusesFirst (table.reconcile : Request (Traced σ) Plan) := by
  have planned : RefusesFirst (table.livePlan : Request (Traced σ) Plan) := by
    refine .silent_bind (.passOn (Connection.describe table.name)) fun live => ?_
    exact .checked (table.planFor live)
  refine .bind_never planned fun plan => ?_
  cases plan.statement? with
  | none => exact .pure plan
  | some statement =>
      exact .bind (.access (Connection.execute statement)) fun _ => .pure plan

theorem find_refusesFirst (query : Record) (limit : Option Nat) :
    RefusesFirst (table.find query limit : Request (Traced σ) (List Record)) :=
  .checked_bind fun statement _ => .of_neverRefuses (.access (Connection.query statement))

theorem findOne_refusesFirst (query : Record) :
    RefusesFirst (table.findOne query : Request (Traced σ) (Option Record)) :=
  (find_refusesFirst query (some 1)).answer List.head?

theorem select_refusesFirst (fields : List String) (filter : Option Filter)
    (limit : Option Nat) :
    RefusesFirst (table.select fields filter limit : Request (Traced σ) (List Record)) :=
  .checked_bind fun statement _ => .of_neverRefuses (.access (Connection.query statement))

theorem insert_refusesFirst (record : Record) :
    RefusesFirst (table.insert record : Request (Traced σ) Record) := by
  refine .checked_bind fun row written => .of_neverRefuses ?_
  refine .bind (store_neverRefuses (accepts_insertion written) _) fun stored => ?_
  cases stored with
  | none => exact .throw (.unexpectedResponse (.missingRow table.name))
  | some record => exact .pure record

theorem upsert_refusesFirst (record : Record) (updated : Option (List String)) :
    RefusesFirst (table.upsert record updated : Request (Traced σ) (Option Record)) :=
  .checked_bind fun _ written =>
    .of_neverRefuses (store_neverRefuses (accepts_upsertion written) _)

theorem update_refusesFirst (query record : Record) :
    RefusesFirst (table.update query record : Request (Traced σ) (Option Record)) :=
  .checked_bind fun (condition, _) written =>
    .of_neverRefuses (assign_neverRefuses (accepts_replacement written) condition)

theorem updateWhere_refusesFirst (filter : Filter) (record : Record) :
    RefusesFirst (table.updateWhere filter record : Request (Traced σ) (Option Record)) :=
  .checked_bind fun (condition, _) written =>
    .of_neverRefuses (assign_neverRefuses (accepts_changes written) condition)

theorem deleteWhere_refusesFirst (filter : Filter) :
    RefusesFirst (table.deleteWhere filter : Request (Traced σ) Nat) :=
  .checked_bind fun statement _ => .of_neverRefuses (.access (Connection.execute statement))

theorem selectOne_refusesFirst (fields : List String) (filter : Option Filter) :
    RefusesFirst (table.selectOne fields filter : Request (Traced σ) (Option Record)) :=
  (select_refusesFirst fields filter (some 1)).answer List.head?

theorem perform_refusesFirst (action : Action) :
    RefusesFirst (table.perform action : Request (Traced σ) Answer) := by
  cases action with
  | register => exact reconcile_refusesFirst.answer Answer.plan
  | find query limit => exact (find_refusesFirst query limit).answer Answer.rows
  | findOne query => exact (findOne_refusesFirst query).answer Answer.row
  | findById identifier field => exact (findOne_refusesFirst _).answer Answer.row
  | select fields filter limit => exact (select_refusesFirst fields filter limit).answer Answer.rows
  | selectOne fields filter => exact (selectOne_refusesFirst fields filter).answer Answer.row
  | insert record => exact (insert_refusesFirst record).answer (Answer.row ∘ some)
  | upsert record updated => exact (upsert_refusesFirst record updated).answer Answer.row
  | update query record => exact (update_refusesFirst query record).answer Answer.row
  | updateWhere filter record => exact (updateWhere_refusesFirst filter record).answer Answer.row
  | delete query => exact (deleteWhere_refusesFirst _).answer Answer.count
  | deleteWhere filter => exact (deleteWhere_refusesFirst filter).answer Answer.count

/-- An action that is refused, for whatever cause, has not passed on any statement. A
row that an action writes is never refused when it is read back. -/
theorem refused_before_sending (table : Table) (action : Action) :
    (∀ (traced : Traced σ) (cause : Error),
      (table.perform action traced).1 = .error (.refused cause) →
        (table.perform action traced).2.statements = traced.statements) ∧
    ∀ row, action.row? table = some row → ∀ (connection : σ) (cause : Error),
      (table.readBack row connection).1 ≠ .error (.refused cause) :=
  ⟨perform_refusesFirst action, fun _ written => readBack_neverRefuses (accepts_row? written)⟩

/-- Orders with a number of their own, a required code, a state and a remark. -/
def orders : Table where
  name := "orders"
  fields := [
    ("number", { kind := .unsignedInt, maxSize := some (.ofInt 65535), autoIncrement := true }),
    ("code", { kind := .string, maxSize := some (.ofInt 8) }),
    ("state", { kind := .string, maxSize := some (.ofInt 8), default := some (.text "new") }),
    ("remark", { kind := .string, maxSize := some (.ofInt 40), nullable := true })]
  accepted := by decide +kernel

/-- An order without its code is refused unsent, and the row of a complete order, with
its default and its null, is read back. -/
theorem orders_refused_before_sending :
    (orders.perform (.insert (.ofList [("state", .text "old")]))
        (Traced.start ({} : MemoryConnection))).1 =
      .error (.refused (.validation (.missingRequired "orders" ["code"]))) ∧
    (orders.perform (.insert (.ofList [("state", .text "old")]))
        (Traced.start ({} : MemoryConnection))).2.statements = [] ∧
    Action.row? orders (.insert (.ofList [("code", .text "a")])) =
      some [("code", .text "a"), ("state", .text "new"), ("remark", .null)] ∧
    ∀ (connection : MemoryConnection) (cause : Error),
      (orders.readBack [("code", .text "a"), ("state", .text "new"), ("remark", .null)]
        connection).1 ≠ .error (.refused cause) := by
  have refused : (orders.perform (.insert (.ofList [("state", .text "old")]))
      (Traced.start ({} : MemoryConnection))).1 =
        .error (.refused (.validation (.missingRequired "orders" ["code"]))) := rfl
  have written : Action.row? orders (.insert (.ofList [("code", .text "a")])) =
      some [("code", .text "a"), ("state", .text "new"), ("remark", .null)] := rfl
  exact ⟨refused, (refused_before_sending orders _).1 _ _ refused, written,
    (refused_before_sending orders _).2 _ written⟩

end Requests

end Table

end SchemaKeeper
