import Mathlib.Data.List.Perm.Basic
import SchemaKeeper.Proofs.Restrictions
import SchemaKeeper.Proofs.Writes

/-!
Contract: what a request that writes a row sends, down to the lookup that reads the row back.

A statement that was carried out is followed by a lookup, unless it returned the stored row
itself. The lookup tests every column of the row, each of them once, so it finds no other rows
than those that hold all values just written.

A row without columns is the exception: it assigns nothing, and its lookup has no condition and
finds any row. Rows are filled from the fields that the server does not number, so that happens
to tables that have no other fields. Changes of single fields check that a column remains.

Owns: the condition of a lookup, the statements of a write in their order, and the rows without
columns.

Does not own: the form of the statements that write (`Writes`).
-/

namespace SchemaKeeper

/-! ## Records -/

namespace Record

theorem insertEntry_perm {name : String} {value : Value} {entries : List (String × Value)}
    (fresh : name ∉ entries.map (·.1)) :
    (insertEntry name value entries).Perm ((name, value) :: entries) := by
  induction entries with
  | nil => rfl
  | cons entry rest inductionHypothesis =>
      obtain ⟨different, restFresh⟩ := not_or.1 (List.mem_cons.not.1 fresh)
      rw [insertEntry]
      by_cases below : name < entry.1
      · rw [if_pos below]
      · rw [if_neg below, if_neg different]
        exact ((inductionHypothesis restFresh).cons entry).trans (List.Perm.swap _ _ _)

/-- Entries with names of their own are all kept. -/
theorem ofList_perm {row : List (String × Value)} (distinct : (row.map (·.1)).Nodup) :
    (ofList row).entries.Perm row := by
  suffices gathered : ∀ record : Record, (∀ entry ∈ row, entry.1 ∉ record.entries.map (·.1)) →
      (row.foldl (fun record entry => record.insert entry.1 entry.2) record).entries.Perm
        (row ++ record.entries) by
    have all := gathered empty fun _ _ => List.not_mem_nil
    rwa [empty, List.append_nil] at all
  induction row with
  | nil => exact fun record _ => .rfl
  | cons entry rest inductionHypothesis =>
      intro record fresh
      obtain ⟨alone, restDistinct⟩ := List.nodup_cons.1 distinct
      have inserted : (record.insert entry.1 entry.2).entries.Perm (entry :: record.entries) :=
        insertEntry_perm (fresh entry List.mem_cons_self)
      have others : ∀ other ∈ rest, other.1 ∉ (record.insert entry.1 entry.2).entries.map (·.1) := by
        intro other listed
        rw [(inserted.map (·.1)).mem_iff, List.map_cons, List.mem_cons, not_or]
        refine ⟨fun same => alone ?_, fresh other (List.mem_cons_of_mem entry listed)⟩
        exact List.mem_map.2 ⟨other, listed, same⟩
      refine (inductionHypothesis restDistinct _ others).trans ?_
      exact (inserted.append_left rest).trans List.perm_middle

end Record

/-! ## Lookups -/

/-- The test that a column holds a value. -/
def Value.testSql (column : String) : Value → Sql
  | .null => Sql.spaced [Sql.identifier column, Sql.words ["IS", "NULL"]]
  | value => Sql.spaced [Sql.identifier column, Sql.symbol "=", value.literal]

def Sql.allOf (tests : List Sql) : Sql :=
  Sql.enclosed ([Sql.Piece.space, .token (.word "AND"), .space].intercalate tests)

namespace Filter

theorem predicateSql?_equal (field : String) (value : Value) :
    predicateSql? field .equal value = some (value.testSql field) := by
  cases value <;> rfl

theorem toSql?_allEqual (record : Record) :
    toSql? (allEqual record) =
      some (Sql.allOf (record.entries.map fun entry => entry.2.testSql entry.1)) := by
  have members : ∀ entries : List (String × Value),
      membersToSql? (entries.map fun entry => .predicate entry.1 .equal entry.2) =
        some (entries.map fun entry => entry.2.testSql entry.1) := by
    intro entries
    induction entries with
    | nil => rfl
    | cons entry rest inductionHypothesis =>
        rw [List.map_cons, membersToSql?, inductionHypothesis, toSql?, predicateSql?_equal]
        rfl
  rw [allEqual, toSql?, members]
  rfl

end Filter

namespace Statement

/-- The statement reads the first row of a table, whatever it holds. -/
def ReadsAny (statement : Statement) (table : String) : Prop :=
  statement.sql = Sql.spaced
    [Sql.word "SELECT", Sql.symbol "*", Sql.word "FROM", Sql.identifier table,
      Sql.word "LIMIT", Sql.natural 1]

/-- The statement reads the first row of a table that holds the values of a row. All columns of
the row are tested, and there are some. -/
def Seeks (statement : Statement) (table : String) (row : Row) : Prop :=
  row ≠ [] ∧ ∃ tested : Row, tested.Perm row ∧
    statement.sql = Sql.spaced
      [Sql.word "SELECT", Sql.symbol "*", Sql.word "FROM", Sql.identifier table,
        Sql.word "WHERE", Sql.allOf (tested.map fun entry => entry.2.testSql entry.1),
        Sql.word "LIMIT", Sql.natural 1]

end Statement

namespace Table

variable {table : Table} {row : Row} {read : Statement}

theorem seeks_of_readsBack (distinct : (row.map (·.1)).Nodup) (filled : row ≠ [])
    (looked : table.ReadsBack row read) : read.Seeks table.name row := by
  have kept := Record.ofList_perm distinct
  have tested : (Record.ofList row).isEmpty = false := by
    rw [Record.isEmpty, List.isEmpty_eq_false_iff]
    exact fun empty => filled (List.nil_perm.1 (empty ▸ kept))
  rw [ReadsBack, lookup, tested] at looked
  obtain ⟨_, _, looked⟩ := bind_eq_ok_iff.1 looked
  obtain ⟨_, conditioned, ⟨⟩⟩ := bind_eq_ok_iff.1 looked
  obtain ⟨condition, rendered, rfl⟩ := map_eq_ok_iff.1 conditioned
  have written := (Filter.render_eq_ok_iff.1 rendered).2
  rw [Filter.toSql?_allEqual] at written
  cases written
  exact ⟨filled, _, kept, rfl⟩

theorem readsAny_of_readsBack (looked : table.ReadsBack [] read) : read.ReadsAny table.name := by
  cases looked
  rfl

/-! ## Sent statements -/

section Sent

open Request

variable {σ : Type}

/-- What leaves the connection alone does not matter to it. -/
theorem run_bind_still {α β : Type} {request : Request σ α} {next : α → Request σ β}
    (still : ∀ value state, (next value state).2 = state) (state : σ) :
    ((request >>= next) state).2 = (request state).2 := by
  rcases run : request state with ⟨cause | value, later⟩
  · rw [run_bind_error run]
  · rw [run_bind_ok run]
    exact still value later

variable [Connection σ]

/-- What is sent when a statement is followed by a lookup once it was carried out. -/
def followedBy (connection : σ) (write read : Statement) : List Statement :=
  if (Connection.execute write connection).1.isOk then [write, read] else [write]

/-- What is sent to write a new row and read it. A statement that returns the stored row stands
alone, and nothing is sent if the connection does not say whether it can. -/
def storedBy (connection : σ) (write : Bool → Statement) (read : Statement) : List Statement :=
  match Connection.supportsReturning connection with
  | (.error _, _) => []
  | (.ok true, _) => [write true]
  | (.ok false, later) => followedBy later (write false) read

theorem readBack_sent (looked : table.ReadsBack row read) (traced : Traced σ) :
    (table.readBack row traced).2.statements = traced.statements ++ [read] := by
  have found : (table.find (Record.ofList row) (some 1) traced).2.statements =
      traced.statements ++ [read] := by
    rw [find, run_bind_ok (checked_eq_ok_iff.2 ⟨looked, Eq.refl traced⟩)]
    rfl
  rw [readBack, findOne, run_bind_still fun _ _ => rfl]
  exact found

theorem carriedOut_sent (looked : table.ReadsBack row read) (write : Statement)
    (traced : Traced σ) :
    ((do
        let _ ← Request.access (Connection.execute write)
        table.readBack row : Request (Traced σ) (Option Record)) traced).2.statements =
      traced.statements ++ followedBy traced.connection write read := by
  rcases execution : Connection.execute write traced.connection with ⟨cause | count, later⟩
  · have failed : Request.access (Connection.execute write) traced =
        (.error (.connection cause), ⟨later, traced.statements ++ [write]⟩) :=
      access_run (Traced.execute_eq_iff.2 ⟨later, execution, rfl⟩)
    rw [run_bind_error failed, followedBy, execution]
    rfl
  · have executed : Request.access (Connection.execute write) traced =
        (.ok count, ⟨later, traced.statements ++ [write]⟩) :=
      access_eq_ok_iff.2 (Traced.execute_eq_iff.2 ⟨later, execution, rfl⟩)
    rw [run_bind_ok executed, readBack_sent looked, followedBy, execution]
    exact List.append_assoc _ _ _

theorem store_sent (looked : table.ReadsBack row read) (write : Bool → Statement)
    (traced : Traced σ) :
    (table.store row write traced).2.statements =
      traced.statements ++ storedBy traced.connection write read := by
  rcases supported : Connection.supportsReturning traced.connection with
    ⟨cause | returning, later⟩
  · rw [store_unanswered write supported, storedBy, supported, List.append_nil]
  · rw [store, run_bind_ok (supportsReturning_eq_ok supported), storedBy, supported]
    cases returning with
    | true =>
        rw [if_pos rfl, run_bind_still fun _ _ => rfl]
        rfl
    | false => exact carriedOut_sent looked (write false) ⟨later, traced.statements⟩

theorem insert_sent {record : Record} (written : table.insertion record = .ok row)
    (looked : table.ReadsBack row read) (traced : Traced σ) :
    (table.insert record traced).2.statements =
      traced.statements ++ storedBy traced.connection (.insert table.name row) read := by
  rw [Table.insert, run_bind_ok (checked_eq_ok_iff.2 ⟨written, Eq.refl traced⟩),
    run_bind_still]
  · exact store_sent looked _ traced
  · intro stored state
    cases stored <;> rfl

theorem upsert_sent {record : Record} {updated : Option (List String)} {names : List String}
    (written : table.upsertion record updated = .ok (row, names))
    (looked : table.ReadsBack row read) (traced : Traced σ) :
    (table.upsert record updated traced).2.statements =
      traced.statements ++
        storedBy traced.connection (.upsert table.name row names) read := by
  rw [Table.upsert, run_bind_ok (checked_eq_ok_iff.2 ⟨written, Eq.refl traced⟩)]
  exact store_sent looked _ traced

theorem update_sent {query record : Record} {condition : Sql}
    (written : table.replacement query record = .ok (condition, row))
    (looked : table.ReadsBack row read) (traced : Traced σ) :
    (table.update query record traced).2.statements =
      traced.statements ++
        followedBy traced.connection (.update table.name row condition) read := by
  rw [Table.update, run_bind_ok (checked_eq_ok_iff.2 ⟨written, Eq.refl traced⟩)]
  exact carriedOut_sent looked _ traced

theorem updateWhere_sent {filter : Filter} {record : Record} {condition : Sql}
    (written : table.changes filter record = .ok (condition, row))
    (looked : table.ReadsBack row read) (traced : Traced σ) :
    (table.updateWhere filter record traced).2.statements =
      traced.statements ++
        followedBy traced.connection (.update table.name row condition) read := by
  rw [Table.updateWhere, run_bind_ok (checked_eq_ok_iff.2 ⟨written, Eq.refl traced⟩)]
  exact carriedOut_sent looked _ traced

end Sent

/-! ## Actions -/

section Actions

variable {action : Action}

/-- A written row has the fields that are not numbered by the server, in declaration order, unless
it is a change of single fields. -/
theorem row?_cases (written : action.row? table = some row) :
    row.map (·.1) = table.writableFields ∧ (∀ filter record, action ≠ .updateWhere filter record) ∨
      ∃ filter record condition, action = .updateWhere filter record ∧
        table.changes filter record = .ok (condition, row) := by
  cases action with
  | insert record =>
      rw [eq_newRow_of_inserts (.insert record) written, newRow_names]
      exact .inl ⟨rfl, nofun⟩
  | upsert record updated =>
      rw [eq_newRow_of_inserts (.upsert record updated) written, newRow_names]
      exact .inl ⟨rfl, nofun⟩
  | update query record =>
      obtain ⟨condition, checked⟩ := row?_update.1 written
      obtain ⟨_, _, rfl⟩ := replacement_eq_ok_iff.1 checked
      rw [replacementRow, List.map_map]
      exact .inl ⟨List.map_id _, nofun⟩
  | updateWhere filter record =>
      obtain ⟨condition, checked⟩ := row?_updateWhere.1 written
      exact .inr ⟨filter, record, condition, rfl, checked⟩
  | _ => contradiction

theorem nodup_row? (written : action.row? table = some row) : (row.map (·.1)).Nodup := by
  rcases row?_cases written with ⟨names, _⟩ | ⟨filter, record, condition, _, checked⟩
  · rw [names]
    exact table.nodup_writableFields
  · obtain ⟨_, _, rfl, _⟩ := changes_eq_ok_iff.1 checked
    exact (List.filter_sublist.map _).nodup record.nodup_names

/-- A written row has columns unless the table leaves all of its fields to the server; a change of
single fields has some in any case. -/
theorem row?_ne_nil_iff (written : action.row? table = some row) :
    row ≠ [] ↔
      table.writableFields ≠ [] ∨ ∃ filter record, action = .updateWhere filter record := by
  rcases row?_cases written with ⟨names, other⟩ | ⟨filter, record, condition, same, checked⟩
  · rw [← names, or_iff_left fun ⟨filter, record, same⟩ => other filter record same, ne_eq, ne_eq,
      List.map_eq_nil_iff]
  · obtain ⟨_, _, _, filled⟩ := changes_eq_ok_iff.1 checked
    exact iff_of_true filled (.inr ⟨filter, record, same⟩)

section Statements

variable {σ : Type} [Connection σ] {record : Record}

theorem perform_updated (updates : action.Updates record) (written : action.row? table = some row)
    (looked : table.ReadsBack row read) :
    ∃ update : Statement,
      update.Assigns table.name (row.map fun entry => (entry.1, entry.2.literal)) ∧
      ∀ connection : σ, (table.perform action (Traced.start connection)).2.statements =
        followedBy connection update read := by
  cases updates with
  | update query =>
      obtain ⟨condition, checked⟩ := row?_update.1 written
      refine ⟨.update table.name row condition, Statement.update_assigns _ _ _, ?_⟩
      intro connection
      rw [perform, run_bind_still fun _ _ => rfl]
      exact update_sent checked looked (.start connection)
  | updateWhere filter =>
      obtain ⟨condition, checked⟩ := row?_updateWhere.1 written
      refine ⟨.update table.name row condition, Statement.update_assigns _ _ _, ?_⟩
      intro connection
      rw [perform, run_bind_still fun _ _ => rfl]
      exact updateWhere_sent checked looked (.start connection)

theorem perform_inserted (inserts : action.Inserts record)
    (written : action.row? table = some row) (looked : table.ReadsBack row read) :
    ∃ insert : Bool → Statement,
      (∀ returning, (insert returning).Inserts table.name (row.map (·.1))
        (row.map fun entry => entry.2.literal)) ∧
      ∀ connection : σ, (table.perform action (Traced.start connection)).2.statements =
        storedBy connection insert read := by
  cases inserts with
  | insert =>
      refine ⟨.insert table.name row, Statement.insert_inserts table.name row, ?_⟩
      intro connection
      rw [perform, run_bind_still fun _ _ => rfl]
      exact insert_sent (row?_insert.1 written) looked (.start connection)
  | upsert _ updated =>
      obtain ⟨names, checked⟩ := row?_upsert.1 written
      refine ⟨.upsert table.name row names, Statement.upsert_inserts table.name row names, ?_⟩
      intro connection
      rw [perform, run_bind_still fun _ _ => rfl]
      exact upsert_sent checked looked (.start connection)

end Statements

variable (σ : Type) [Connection σ]

/-- An accepted write sends one statement with all columns of its row and, if that was carried out
and did not return the row, one lookup of them. The row has columns unless the table leaves all
of its fields to the server and the request is no change of single fields. If it has none, nothing
is assigned and the lookup finds any row. -/
theorem writes_filled_iff (table : Table) {action : Action} {row : Row}
    (written : action.row? table = some row) :
    (row ≠ [] ↔
        table.writableFields ≠ [] ∨ ∃ filter record, action = .updateWhere filter record) ∧
      ∃ read : Statement,
        (row ≠ [] → read.Seeks table.name row) ∧ (row = [] → read.ReadsAny table.name) ∧
        (∀ record, action.Updates record → ∃ update : Statement,
          update.Assigns table.name (row.map fun entry => (entry.1, entry.2.literal)) ∧
          ∀ connection : σ, (table.perform action (Traced.start connection)).2.statements =
            followedBy connection update read) ∧
        ∀ record, action.Inserts record → ∃ insert : Bool → Statement,
          (∀ returning, (insert returning).Inserts table.name (row.map (·.1))
            (row.map fun entry => entry.2.literal)) ∧
          ∀ connection : σ, (table.perform action (Traced.start connection)).2.statements =
            storedBy connection insert read := by
  refine ⟨row?_ne_nil_iff written, ?_⟩
  obtain ⟨read, looked⟩ := exists_lookup (accepts_row? written)
  refine ⟨read, ?_, ?_, ?_, ?_⟩
  · exact fun filled => seeks_of_readsBack (nodup_row? written) filled looked
  · rintro rfl
    exact readsAny_of_readsBack looked
  · exact fun record updates => perform_updated updates written looked
  · exact fun record inserts => perform_inserted inserts written looked

/-- An open connection that does not return stored rows. -/
def mute : MemoryConnection := { isOpen := true, returning := false }

/-- An order with a number, which the server gives, and a code. -/
def numberedOrder : Record := .ofList [("number", .int 7), ("code", .text "a")]

def numberedOrderRow : Row := [("code", .text "a"), ("state", .text "new"), ("remark", .null)]

/-- The order is inserted and looked up by all of its columns. -/
theorem numberedOrder_sought :
    Action.row? orders (.insert numberedOrder) = some numberedOrderRow ∧
      (∃ insert read : Statement,
        (orders.perform (.insert numberedOrder) (Traced.start mute)).2.statements =
          [insert, read] ∧
        insert.Inserts "orders" (numberedOrderRow.map (·.1))
          (numberedOrderRow.map fun entry => entry.2.literal) ∧
        read.Seeks "orders" numberedOrderRow) ∧
      (orders.perform (.insert numberedOrder) (Traced.start mute)).2.statements.map
          Statement.text =
        ["INSERT INTO `orders` (`code`, `state`, `remark`) VALUES ('a', 'new', NULL)",
          "SELECT * FROM `orders` WHERE " ++
            "(`code` = 'a' AND `remark` IS NULL AND `state` = 'new') LIMIT 1"] := by
  have written : Action.row? orders (.insert numberedOrder) = some numberedOrderRow := by
    decide +kernel
  obtain ⟨_, read, seeks, _, _, inserted⟩ := writes_filled_iff MemoryConnection orders written
  obtain ⟨insert, inserts, sent⟩ := inserted _ (.insert numberedOrder)
  have both : storedBy mute insert read = [insert false, read] := rfl
  exact ⟨written, ⟨insert false, read, (sent mute).trans both, inserts false, seeks nofun⟩,
    by decide +kernel⟩

def numbers : Table where
  name := "numbers"
  fields := [("id", { kind := .unsignedInt, maxSize := some (.ofInt 255), autoIncrement := true })]
  accepted := by decide +kernel

/-- A ticket is accepted and written without columns: any ticket is read back, and the change of
one assigns nothing. -/
theorem numbers_written_empty :
    Action.row? numbers (.insert (.ofList [("id", .int 7)])) = some [] ∧
      (numbers.performAll
          [.insert (.ofList [("id", .int 7)]),
            .update (.ofList [("id", .int 7)]) (.ofList [("id", .int 8)])]
          (Traced.start mute)).2.statements.map Statement.text =
        ["INSERT INTO `numbers` () VALUES ()", "SELECT * FROM `numbers` LIMIT 1",
          "UPDATE `numbers` SET  WHERE (`id` = 7)", "SELECT * FROM `numbers` LIMIT 1"] := by
  decide +kernel

end Actions

end Table

end SchemaKeeper
