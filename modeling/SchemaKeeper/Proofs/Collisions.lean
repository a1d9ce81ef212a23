import SchemaKeeper.Proofs.ReadBack

/-!
Contract: what an existing row takes from a new row that it collides with.

The statement names the columns that are copied from the new row. Without a choice of the caller
these are the columns that it inserts. A caller may choose any fields of the table, so also the
ones that the server numbers: such a field is not inserted, and the new row has no value for it
that could be copied.

Owns: the columns that are copied, and the values that the new row has for them.
-/

namespace SchemaKeeper

/-! ## Statements -/

namespace Statement

/-- The clause by which an existing row takes columns from the new one. -/
def copySql (copied : List String) : List Sql :=
  if copied = [] then []
  else
    [Sql.words ["ON", "DUPLICATE", "KEY", "UPDATE"],
      Sql.listed (copied.map fun name =>
        Sql.spaced
          [Sql.identifier name, Sql.symbol "=",
            Sql.word "VALUES" ++ Sql.enclosed (Sql.identifier name)])]

/-- The statement inserts a row, or copies columns of it to the existing row that it collides
with. Without columns to copy the existing row is left alone. -/
def Copies (statement : Statement) (table : String) (row : Row) (copied : List String) : Prop :=
  ∃ returning, statement.sql = Sql.spaced
    ([Sql.words (if copied = [] then ["INSERT", "IGNORE", "INTO"] else ["INSERT", "INTO"]),
        Sql.identifier table, Sql.enclosed (Sql.identifiers (row.map (·.1))), Sql.word "VALUES",
        Sql.enclosed (Sql.listed (row.map fun entry => entry.2.literal))] ++
      copySql copied ++ returningSql returning)

theorem upsert_copies (table : String) (row : Row) (copied : List String) (returning : Bool) :
    (upsert table row copied returning).Copies table row copied := by
  refine ⟨returning, ?_⟩
  cases copied <;> rfl

end Statement

/-! ## Rows -/

namespace Table

variable {table : Table} {record : Record} {name : String} {field : Field}

theorem checkNames_eq_ok_iff {names : List String} :
    table.checkNames names = .ok () ↔ ∀ name ∈ names, table.hasField name = true := by
  unfold checkNames
  cases found : names.find? fun name => !table.hasField name with
  | none =>
      rw [List.find?_eq_none] at found
      exact iff_of_true rfl fun name listed => by simpa using found name listed
  | some unknown =>
      have listed := List.mem_of_find?_eq_some found
      have missing : table.hasField unknown = false := by simpa using List.find?_some found
      refine iff_of_false nofun fun known => ?_
      rw [known unknown listed] at missing
      contradiction

theorem exists_field_of_hasField (known : table.hasField name = true) :
    ∃ field, (name, field) ∈ table.fields := by
  obtain ⟨field, found⟩ := Option.isSome_iff_exists.1 known
  exact ⟨field, table.field?_eq_some_iff.1 found⟩

/-- A new row has a value for each field that the server does not number. -/
theorem lookup_newRow (listed : (name, field) ∈ table.fields) :
    (table.newRow record).lookup name =
      if field.autoIncrement then none else some (newValue field (record.get? name)) := by
  cases numbered : field.autoIncrement with
  | true =>
      rw [if_pos rfl, lookup_eq_none_iff_notMem, newRow_names]
      intro writable
      rw [table.autoIncrement_of_mem_writableFields listed writable] at numbered
      contradiction
  | false =>
      have distinct : ((table.newRow record).map (·.1)).Nodup := by
        rw [newRow_names]
        exact table.nodup_writableFields
      have kept : (name, field) ∈ table.fields.filter fun entry => !entry.2.autoIncrement :=
        List.mem_filter.2 ⟨listed, by rw [numbered]; rfl⟩
      rw [if_neg Bool.false_ne_true, lookup_eq_some_iff_mem distinct]
      exact List.mem_map.2 ⟨(name, field), kept, rfl⟩

variable {updated : Option (List String)} {row : Row} {copied : List String}

/-- What is copied are fields of the table. -/
theorem exists_field_of_copied (accepted : table.upsertion record updated = .ok (row, copied))
    (member : name ∈ copied) : ∃ field, (name, field) ∈ table.fields := by
  obtain ⟨inserted, known, rfl⟩ := upsertion_eq_ok_iff.1 accepted
  cases updated with
  | none =>
      change name ∈ row.map (·.1) at member
      rw [(insertion_eq_ok_iff.1 inserted).2, newRow_names, mem_writableFields_iff] at member
      obtain ⟨field, listed, _⟩ := member
      exact ⟨field, listed⟩
  | some names =>
      exact exists_field_of_hasField (checkNames_eq_ok_iff.1 (known names rfl) name member)

/-! ## Collisions -/

variable (σ : Type) [Connection σ]

/-- An accepted upsert sends a statement that inserts its row and copies fields of the table. For
a copied field the row has the value given, else the default, unless the server numbers the field;
then it has none. So all copied columns are inserted if the caller chooses none of those fields,
or does not choose. -/
theorem upsert_copies_inserted_iff (table : Table) {record : Record}
    {updated : Option (List String)} {row : Row} {copied : List String}
    (accepted : table.upsertion record updated = .ok (row, copied)) :
    (∃ (upsert : Bool → Statement) (read : Statement),
      (∀ returning, (upsert returning).Copies table.name row copied) ∧
        table.ReadsBack row read ∧
        ∀ connection : σ,
          (table.perform (.upsert record updated) (Traced.start connection)).2.statements =
            storedBy connection upsert read) ∧
      copied = updated.getD (row.map (·.1)) ∧
      (∀ name ∈ copied, ∃ field, (name, field) ∈ table.fields ∧
        row.lookup name =
          if field.autoIncrement then none else some (newValue field (record.get? name))) ∧
      ((∀ name ∈ copied, name ∈ row.map (·.1)) ↔
        ∀ name ∈ updated.getD [], name ∈ table.writableFields) := by
  obtain ⟨inserted, known, chosen⟩ := upsertion_eq_ok_iff.1 accepted
  have names : row.map (·.1) = table.writableFields := by
    rw [(insertion_eq_ok_iff.1 inserted).2, newRow_names]
  refine ⟨?_, chosen, ?_, ?_⟩
  · obtain ⟨read, looked⟩ := exists_lookup (accepts_upsertion accepted)
    refine ⟨.upsert table.name row copied, read, Statement.upsert_copies _ _ _, looked, ?_⟩
    intro connection
    rw [perform, run_bind_still fun _ _ => rfl]
    exact upsert_sent accepted looked (.start connection)
  · intro name member
    obtain ⟨field, listed⟩ := exists_field_of_copied accepted member
    refine ⟨field, listed, ?_⟩
    rw [(insertion_eq_ok_iff.1 inserted).2]
    exact lookup_newRow listed
  · rw [names, chosen]
    cases updated with
    | none =>
        exact iff_of_true (fun name member => names ▸ member)
          fun name member => absurd member List.not_mem_nil
    | some given => exact Iff.rfl

/-- An order that collides passes its state and its code on. Both are inserted: the state has its
default and the code the value given. -/
theorem numberedOrder_copied :
    orders.upsertion numberedOrder (some ["state", "code"]) =
        .ok (numberedOrderRow, ["state", "code"]) ∧
      (∀ name ∈ ["state", "code"], name ∈ numberedOrderRow.map (·.1)) ∧
      (∃ (upsert : Bool → Statement) (read : Statement),
        (upsert true).Copies "orders" numberedOrderRow ["state", "code"] ∧
          (orders.perform (.upsert numberedOrder (some ["state", "code"]))
            (Traced.start emptyConnection)).2.statements =
              storedBy emptyConnection upsert read) ∧
      numberedOrderRow.lookup "state" = some (.text "new") ∧
      numberedOrderRow.lookup "code" = some (.text "a") := by
  have accepted : orders.upsertion numberedOrder (some ["state", "code"]) =
      .ok (numberedOrderRow, ["state", "code"]) := by decide +kernel
  obtain ⟨⟨upsert, read, copies, _, sent⟩, _, _, inserted⟩ :=
    upsert_copies_inserted_iff MemoryConnection orders accepted
  refine ⟨accepted, inserted.2 ?_, ⟨upsert, read, copies true, sent emptyConnection⟩, rfl, rfl⟩
  decide +kernel

/-- The number of an order may be chosen as well, though the statement does not insert it. -/
theorem number_copied_uninserted :
    (orders.upsertion numberedOrder (some ["number", "code"])).toOption =
        some (numberedOrderRow, ["number", "code"]) ∧
      "number" ∉ numberedOrderRow.map (·.1) ∧
      (orders.perform (.upsert numberedOrder (some ["number", "code"]))
          (Traced.start emptyConnection)).2.statements.map Statement.text =
        ["INSERT INTO `orders` (`code`, `state`, `remark`) VALUES ('a', 'new', NULL) " ++
          "ON DUPLICATE KEY UPDATE `number` = VALUES(`number`), `code` = VALUES(`code`) " ++
          "RETURNING *"] := by
  decide +kernel

end Table

end SchemaKeeper
