import SchemaKeeper.Proofs.Outcomes
import SchemaKeeper.Proofs.Refusals

/-!
Contract: what a request that writes a row passes on.

An insertion, with or without an update of the row it collides with, asks first whether the
connection can return the stored row. Then it passes on one statement that lists the written
fields and as many literals. A change of existing rows passes on one statement that assigns
them. All that can follow is the lookup of the row that was written.

Owns: the first statement of such a request and its form, and where each written value comes
from.

Does not own: which literals are NULL (`Nulls`).
-/

namespace SchemaKeeper

/-! ## Order -/

namespace Request

variable {σ α β : Type} {statement : Statement} {allowed : Statement → Prop}
  {traced : Traced σ}

/-- From this state on, the request passes on the statement first and only allowed ones after
it. -/
def SendsFirst (statement : Statement) (allowed : Statement → Prop)
    (request : Request (Traced σ) α) (traced : Traced σ) : Prop :=
  ∃ rest, (request traced).2.statements = traced.statements ++ statement :: rest ∧
    ∀ later ∈ rest, allowed later

namespace SendsFirst

theorem bind {first : Request (Traced σ) α} {next : α → Request (Traced σ) β}
    (sendsFirst : SendsFirst statement allowed first traced)
    (restSends : ∀ value, Sends allowed (next value)) :
    SendsFirst statement allowed (first >>= next) traced := by
  obtain ⟨sent, grown, permitted⟩ := sendsFirst
  rcases run : first traced with ⟨cause | value, later⟩
  · rw [run] at grown
    refine ⟨sent, ?_, permitted⟩
    rw [run_bind_error run]
    exact grown
  · obtain ⟨more, grownAgain, morePermitted⟩ := restSends value later
    rw [run] at grown
    refine ⟨sent ++ more, ?_, List.forall_mem_append.2 ⟨permitted, morePermitted⟩⟩
    rw [run_bind_ok run, grownAgain, grown, List.append_assoc, List.cons_append]

/-- What succeeds without passing on a statement may come before the first one. -/
theorem after {first : Request (Traced σ) α} {next : α → Request (Traced σ) β} {value : α}
    {later : Traced σ} (run : first traced = (.ok value, later))
    (unsent : later.statements = traced.statements)
    (sendsFirst : SendsFirst statement allowed (next value) later) :
    SendsFirst statement allowed (first >>= next) traced := by
  rw [SendsFirst, run_bind_ok run, ← unsent]
  exact sendsFirst

theorem checked_bind {result : Except Error α} {next : α → Request (Traced σ) β} {value : α}
    (accepted : result = .ok value)
    (sendsFirst : SendsFirst statement allowed (next value) traced) :
    SendsFirst statement allowed (Request.checked result >>= next) traced :=
  after (checked_eq_ok_iff.2 ⟨accepted, rfl⟩) rfl sendsFirst

theorem answer {request : Request (Traced σ) α}
    (sendsFirst : SendsFirst statement allowed request traced) (give : α → β) :
    SendsFirst statement allowed (do return give (← request)) traced :=
  sendsFirst.bind fun value => .pure (give value)

theorem of_start {request : Request (Traced σ) α} {connection : σ}
    (sendsFirst : SendsFirst statement allowed request (.start connection)) :
    ∃ rest, (request (.start connection)).2.statements = statement :: rest ∧
      ∀ later ∈ rest, allowed later :=
  sendsFirst

variable [Connection σ]

theorem execute : SendsFirst statement allowed (access (Connection.execute statement)) traced :=
  ⟨[], rfl, by simp⟩

theorem query : SendsFirst statement allowed (access (Connection.query statement)) traced :=
  ⟨[], rfl, by simp⟩

end SendsFirst

end Request

/-! ## Statements -/

namespace Statement

/-- The statement inserts into a table: it lists columns and as many literals. What it asks
for besides comes behind these. -/
structure Inserts (statement : Statement) (table : String) (columns : List String)
    (literals : List Sql) : Prop where
  aligned : literals.length = columns.length
  written : ∃ verb ∈ [["INSERT", "INTO"], ["INSERT", "IGNORE", "INTO"]], ∃ rest,
    statement.sql = Sql.spaced
      ([Sql.words verb, Sql.identifier table, Sql.enclosed (Sql.identifiers columns),
        Sql.word "VALUES", Sql.enclosed (Sql.listed literals)] ++ rest)

/-- The statement assigns literals to columns of the rows of a table that hold a condition. -/
def Assigns (statement : Statement) (table : String) (assignments : List (String × Sql)) :
    Prop :=
  ∃ condition, statement.sql = Sql.spaced
    [Sql.word "UPDATE", Sql.identifier table, Sql.word "SET",
      Sql.listed (assignments.map fun entry =>
        Sql.spaced [Sql.identifier entry.1, Sql.symbol "=", entry.2]),
      Sql.word "WHERE", condition]

variable (table : String) (row : Row)

theorem insert_inserts (returning : Bool) :
    (insert table row returning).Inserts table (row.map (·.1))
      (row.map fun entry => entry.2.literal) where
  aligned := by rw [List.length_map, List.length_map]
  written := ⟨_, List.mem_cons_self, returningSql returning, rfl⟩

theorem upsert_inserts (updated : List String) (returning : Bool) :
    (upsert table row updated returning).Inserts table (row.map (·.1))
      (row.map fun entry => entry.2.literal) where
  aligned := by rw [List.length_map, List.length_map]
  written := by
    cases updated with
    | nil => exact ⟨["INSERT", "IGNORE", "INTO"], by simp, returningSql returning, rfl⟩
    | cons name names =>
        -- The clause for a collision stands between the literals and what is asked for.
        exact ⟨["INSERT", "INTO"], by simp, _, congrArg Sql.spaced (List.append_assoc _ _ _)⟩

theorem update_assigns (condition : Sql) :
    (update table row condition).Assigns table
      (row.map fun entry => (entry.1, entry.2.literal)) := by
  refine ⟨condition, ?_⟩
  rw [List.map_map]
  rfl

end Statement

/-! ## Requests -/

theorem Record.nodup_names (record : Record) : (record.entries.map (·.1)).Nodup := by
  rw [List.Nodup, List.pairwise_map]
  exact record.sorted.imp String.ne_of_lt

theorem Record.get?_eq_some_iff {record : Record} {name : String} {value : Value} :
    record.get? name = some value ↔ (name, value) ∈ record.entries :=
  lookup_eq_some_iff_mem record.nodup_names

namespace Table

/-- The statement looks up a row that was written. -/
def ReadsBack (table : Table) (row : Row) (statement : Statement) : Prop :=
  table.lookup (Record.ofList row) (some 1) = .ok statement

section Requests

open Request

variable {σ : Type} [Connection σ] {table : Table} {row : Row} {traced : Traced σ}
  {returning : Bool} {later : σ}

theorem readBack_sends :
    Sends (table.ReadsBack row) (table.readBack row : Request (Traced σ) (Option Record)) := by
  have found : Sends (table.ReadsBack row)
      (table.find (Record.ofList row) (some 1) : Request (Traced σ) (List Record)) :=
    .checked_bind fun _ looked => .query looked
  exact found.answer List.head?

/-- To ask the connection whether it can return rows passes no statement on. -/
theorem supportsReturning_eq_ok
    (supported : Connection.supportsReturning traced.connection = (.ok returning, later)) :
    Request.access Connection.supportsReturning traced =
      (.ok returning, ⟨later, traced.statements⟩) :=
  access_eq_ok_iff.2 (Traced.passOn_eq_iff.2 ⟨later, supported, rfl⟩)

theorem store_sendsFirst (statement : Bool → Statement)
    (supported : Connection.supportsReturning traced.connection = (.ok returning, later)) :
    SendsFirst (statement returning) (table.ReadsBack row) (table.store row statement) traced := by
  refine .after (supportsReturning_eq_ok supported) rfl ?_
  cases returning with
  | true => exact SendsFirst.query.answer List.head?
  | false => exact SendsFirst.execute.bind fun _ => readBack_sends

/-- Nothing is passed on if the connection does not say whether it can return rows. -/
theorem store_unanswered (statement : Bool → Statement) {cause : ConnectionError}
    (failed : Connection.supportsReturning traced.connection = (.error cause, later)) :
    table.store row statement traced =
      (.error (.connection cause), ⟨later, traced.statements⟩) :=
  run_bind_error (access_run (Traced.passOn_eq_iff.2 ⟨later, failed, rfl⟩))

theorem assign_sendsFirst (condition : Sql) :
    SendsFirst (.update table.name row condition) (table.ReadsBack row)
      (table.assign condition row) traced :=
  SendsFirst.execute.bind fun _ => readBack_sends

theorem insert_sendsFirst {record : Record} (written : table.insertion record = .ok row)
    (supported : Connection.supportsReturning traced.connection = (.ok returning, later)) :
    SendsFirst (.insert table.name row returning) (table.ReadsBack row)
      (table.insert record) traced := by
  refine .checked_bind written ?_
  refine (store_sendsFirst _ supported).bind fun stored => ?_
  cases stored with
  | none => exact .throw (.connection (.unexpectedResponse (.missingRow table.name)))
  | some record => exact .pure record

theorem upsert_sendsFirst {record : Record} {updated : Option (List String)}
    {names : List String} (written : table.upsertion record updated = .ok (row, names))
    (supported : Connection.supportsReturning traced.connection = (.ok returning, later)) :
    SendsFirst (.upsert table.name row names returning) (table.ReadsBack row)
      (table.upsert record updated) traced :=
  .checked_bind written (store_sendsFirst _ supported)

theorem update_sendsFirst {query record : Record} {condition : Sql}
    (written : table.replacement query record = .ok (condition, row)) :
    SendsFirst (.update table.name row condition) (table.ReadsBack row)
      (table.update query record) traced :=
  .checked_bind written (assign_sendsFirst condition)

theorem updateWhere_sendsFirst {filter : Filter} {record : Record} {condition : Sql}
    (written : table.changes filter record = .ok (condition, row)) :
    SendsFirst (.update table.name row condition) (table.ReadsBack row)
      (table.updateWhere filter record) traced :=
  .checked_bind written (assign_sendsFirst condition)

end Requests

/-! ## Actions -/

namespace Action

/-- The action inserts the row that a record gives. -/
inductive Inserts : Action → Record → Prop where
  | insert (record : Record) : Inserts (.insert record) record
  | upsert (record : Record) (updated : Option (List String)) :
      Inserts (.upsert record updated) record

/-- The action changes rows that exist to what a record gives. -/
inductive Updates : Action → Record → Prop where
  | update (query record : Record) : Updates (.update query record) record
  | updateWhere (filter : Filter) (record : Record) : Updates (.updateWhere filter record) record

end Action

section Actions

open Request

variable {σ : Type} [Connection σ] {table : Table} {action : Action} {record : Record}
  {row : Row}

/-- An inserted row is the new row of the record. -/
theorem eq_newRow_of_inserts (inserts : action.Inserts record)
    (written : action.row? table = some row) : row = table.newRow record := by
  have inserted : table.insertion record = .ok row := by
    cases inserts with
    | insert => exact row?_insert.1 written
    | upsert _ updated =>
        obtain ⟨names, checked⟩ := row?_upsert.1 written
        exact (upsertion_eq_ok_iff.1 checked).1
  exact (insertion_eq_ok_iff.1 inserted).2

/-- A new row has the fields that are written, in declaration order. -/
theorem newRow_names (table : Table) (record : Record) :
    (table.newRow record).map (·.1) = table.writableFields := by
  rw [newRow, List.map_map]
  rfl

theorem value_of_mem_newRow {name : String} {value : Value} {field : Field}
    (listed : (name, field) ∈ table.fields) (member : (name, value) ∈ table.newRow record) :
    value = newValue field (record.get? name) ∧ field.autoIncrement = false := by
  obtain ⟨⟨_, other⟩, kept, same⟩ := List.mem_map.1 member
  cases same
  obtain ⟨otherListed, writable⟩ := List.mem_filter.1 kept
  rw [table.field_unique listed otherListed]
  exact ⟨rfl, by simpa using writable⟩

theorem isWritable_iff {name : String} :
    table.isWritable name = true ↔ name ∈ table.writableFields := by
  rw [isWritable, Option.any_eq_true, mem_writableFields_iff]
  simp only [field?_eq_some_iff, Bool.not_eq_true']

/-- What existing rows are changed to in a field is what the record gives, or null. -/
theorem value_of_updates (updates : action.Updates record)
    (written : action.row? table = some row) {name : String} {value : Value}
    (member : (name, value) ∈ row) :
    value = (record.get? name).getD .null ∧ name ∈ table.writableFields := by
  cases updates with
  | update query =>
      obtain ⟨condition, checked⟩ := row?_update.1 written
      obtain ⟨_, _, rfl⟩ := replacement_eq_ok_iff.1 checked
      obtain ⟨_, writable, same⟩ := List.mem_map.1 member
      cases same
      exact ⟨rfl, writable⟩
  | updateWhere filter =>
      obtain ⟨condition, checked⟩ := row?_updateWhere.1 written
      obtain ⟨_, _, rfl, _⟩ := changes_eq_ok_iff.1 checked
      obtain ⟨given, writable⟩ := List.mem_filter.1 member
      rw [record.get?_eq_some_iff.2 given]
      exact ⟨rfl, isWritable_iff.1 writable⟩

/-- An accepted insertion passes on a statement that inserts its row, once the connection has
said whether it can return rows. -/
theorem perform_inserts (inserts : action.Inserts record) (written : action.row? table = some row)
    (traced : Traced σ) {returning : Bool} {later : σ}
    (supported : Connection.supportsReturning traced.connection = (.ok returning, later)) :
    ∃ statement, SendsFirst statement (table.ReadsBack row) (table.perform action) traced ∧
      statement.Inserts table.name (row.map (·.1)) (row.map fun entry => entry.2.literal) := by
  cases inserts with
  | insert =>
      have inserted := insert_sendsFirst (row?_insert.1 written) supported
      exact ⟨_, inserted.answer (Answer.row ∘ some), Statement.insert_inserts _ _ _⟩
  | upsert _ updated =>
      obtain ⟨names, checked⟩ := row?_upsert.1 written
      have upserted := upsert_sendsFirst checked supported
      exact ⟨_, upserted.answer Answer.row, Statement.upsert_inserts _ _ _ _⟩

theorem perform_unanswered (inserts : action.Inserts record)
    (written : action.row? table = some row) (traced : Traced σ) {cause : ConnectionError}
    {later : σ} (failed : Connection.supportsReturning traced.connection = (.error cause, later)) :
    table.perform action traced = (.error (.connection cause), ⟨later, traced.statements⟩) := by
  cases inserts with
  | insert =>
      apply run_bind_error
      have checked := checked_eq_ok_iff.2 ⟨row?_insert.1 written, Eq.refl traced⟩
      rw [Table.insert, run_bind_ok checked]
      exact run_bind_error (store_unanswered _ failed)
  | upsert _ updated =>
      apply run_bind_error
      obtain ⟨names, checked⟩ := row?_upsert.1 written
      rw [Table.upsert, run_bind_ok (checked_eq_ok_iff.2 ⟨checked, Eq.refl traced⟩)]
      exact store_unanswered _ failed

/-- An accepted change of existing rows passes on a statement that assigns its row. -/
theorem perform_assigns (updates : action.Updates record)
    (written : action.row? table = some row) (traced : Traced σ) :
    ∃ statement, SendsFirst statement (table.ReadsBack row) (table.perform action) traced ∧
      statement.Assigns table.name (row.map fun entry => (entry.1, entry.2.literal)) := by
  cases updates with
  | update query =>
      obtain ⟨condition, checked⟩ := row?_update.1 written
      have updated : SendsFirst _ _ (table.update query record) traced :=
        update_sendsFirst checked
      exact ⟨_, updated.answer Answer.row, Statement.update_assigns _ _ _⟩
  | updateWhere filter =>
      obtain ⟨condition, checked⟩ := row?_updateWhere.1 written
      have updated : SendsFirst _ _ (table.updateWhere filter record) traced :=
        updateWhere_sendsFirst checked
      exact ⟨_, updated.answer Answer.row, Statement.update_assigns _ _ _⟩

end Actions

end Table

end SchemaKeeper
