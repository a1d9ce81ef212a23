import SchemaKeeper.Proofs.Restrictions
import SchemaKeeper.Proofs.Writes

/-!
Contract: a null in a record says the same as leaving its field out.

A record is asked for a field by its lookup alone, and where the lookup finds nothing a null is
taken. The checks see the entries one by one, but a null passes them in every field that is not
required, and in a required one it counts as missing before any entry is checked. So the first
error, the row and all that is sent are the same. Nulls under names that are no fields of the
table stay: they are refused as unknown.

Owns: records without their nulls, and that writes of whole rows do not tell them apart.
-/

namespace SchemaKeeper

theorem Value.isNull_iff {value : Value} : value.isNull = true ↔ value = .null := by
  cases value <;> simp [isNull]

namespace Table

variable {table : Table} {record : Record} {name : String} {value : Value}

/-- The record without the nulls that it gives fields of the table. -/
def withoutNulls (table : Table) (record : Record) : Record where
  entries := record.entries.filter fun entry => !(table.hasField entry.1 && entry.2.isNull)
  sorted := record.sorted.filter _

/-! ## Lookups -/

theorem get?_withoutNulls_eq_some_iff :
    (table.withoutNulls record).get? name = some value ↔
      record.get? name = some value ∧ (table.hasField name = true → value.isNull = false) := by
  rw [Record.get?_eq_some_iff, Record.get?_eq_some_iff, withoutNulls, List.mem_filter]
  refine and_congr_right fun _ => ?_
  cases table.hasField name <;> simp

/-- A null that is left out is not missed. -/
theorem getD_withoutNulls (table : Table) (record : Record) (name : String) :
    ((table.withoutNulls record).get? name).getD .null = (record.get? name).getD .null := by
  cases kept : (table.withoutNulls record).get? name with
  | some value => rw [(get?_withoutNulls_eq_some_iff.1 kept).1]
  | none =>
      cases given : record.get? name with
      | none => rfl
      | some value =>
          cases null : value.isNull with
          | true => rw [Value.isNull_iff.1 null]; rfl
          | false =>
              rw [get?_withoutNulls_eq_some_iff.2 ⟨given, fun _ => null⟩] at kept
              contradiction

/-! ## Checks -/

theorem missingFields_withoutNulls (table : Table) (record : Record) :
    table.missingFields (table.withoutNulls record) = table.missingFields record := by
  unfold missingFields
  simp only [getD_withoutNulls]

/-- Entries that pass do not decide which error is the first. -/
theorem checkEntries_filter {keep : String × Value → Bool} {entries : List (String × Value)}
    (passes : ∀ entry ∈ entries, keep entry = false →
      table.checkValue entry.1 entry.2 = .ok ()) :
    table.checkEntries (entries.filter keep) = table.checkEntries entries := by
  induction entries with
  | nil => rfl
  | cons entry rest inductionHypothesis =>
      obtain ⟨first, others⟩ := List.forall_mem_cons.1 passes
      cases kept : keep entry with
      | true =>
          rw [List.filter_cons_of_pos kept, checkEntries, checkEntries, inductionHypothesis others]
      | false =>
          rw [List.filter_cons_of_neg (by rw [kept]; exact Bool.false_ne_true), checkEntries,
            first kept, inductionHypothesis others]
          rfl

theorem checkEntries_withoutNulls (complete : table.missingFields record = []) :
    table.checkEntries (table.withoutNulls record).entries =
      table.checkEntries record.entries := by
  refine checkEntries_filter fun entry member dropped => ?_
  rw [Bool.not_eq_false', Bool.and_eq_true] at dropped
  obtain ⟨field, found⟩ := Option.isSome_iff_exists.1 dropped.1
  have listed := table.field?_eq_some_iff.1 found
  have given : record.get? entry.1 = some entry.2 := Record.get?_eq_some_iff.2 member
  have absent : ((record.get? entry.1).getD .null).isNull = true := by
    rw [given]
    exact dropped.2
  rw [checkValue_of_listed listed, isRequired_of_complete complete listed absent,
    Value.isNull_iff.1 dropped.2]
  exact Field.checkValue_null

theorem checkComplete_withoutNulls (filled : (table.withoutNulls record).entries ≠ []) :
    table.checkComplete (table.withoutNulls record) = table.checkComplete record := by
  have kept : (table.withoutNulls record).isEmpty = false := List.isEmpty_eq_false_iff.2 filled
  have given : record.isEmpty = false := by
    refine List.isEmpty_eq_false_iff.2 fun none => filled ?_
    change record.entries.filter _ = []
    rw [none]
    rfl
  rw [checkComplete, checkComplete, kept, given, missingFields_withoutNulls]

theorem checkRecord_withoutNulls (filled : (table.withoutNulls record).entries ≠ []) :
    table.checkRecord .create (table.withoutNulls record) = table.checkRecord .create record := by
  unfold checkRecord
  dsimp only
  rw [checkComplete_withoutNulls filled]
  cases complete : table.checkComplete record with
  | error cause => rfl
  | ok => exact checkEntries_withoutNulls (missingFields_eq_nil complete)

/-! ## Rows -/

theorem newValue_getD (field : Field) (given : Option Value) :
    newValue field (some (given.getD .null)) = newValue field given := by
  cases given <;> rfl

theorem newRow_withoutNulls (table : Table) (record : Record) :
    table.newRow (table.withoutNulls record) = table.newRow record := by
  unfold newRow
  refine List.map_congr_left fun entry _ => ?_
  rw [← newValue_getD, getD_withoutNulls, newValue_getD]

theorem replacementRow_withoutNulls (table : Table) (record : Record) :
    table.replacementRow (table.withoutNulls record) = table.replacementRow record := by
  unfold replacementRow
  simp only [getD_withoutNulls]

theorem insertion_withoutNulls (filled : (table.withoutNulls record).entries ≠ []) :
    table.insertion (table.withoutNulls record) = table.insertion record := by
  rw [insertion, insertion, checkRecord_withoutNulls filled, newRow_withoutNulls]

theorem upsertion_withoutNulls (filled : (table.withoutNulls record).entries ≠ [])
    (updated : Option (List String)) :
    table.upsertion (table.withoutNulls record) updated = table.upsertion record updated := by
  rw [upsertion, upsertion, insertion_withoutNulls filled]

theorem replacement_withoutNulls (filled : (table.withoutNulls record).entries ≠ [])
    (query : Record) :
    table.replacement query (table.withoutNulls record) = table.replacement query record := by
  -- A record for replacing rows is checked as one for a new row is.
  have checked : table.checkRecord .update (table.withoutNulls record) =
      table.checkRecord .update record := checkRecord_withoutNulls filled
  rw [replacement, replacement, checked, replacementRow_withoutNulls]

/-! ## Requests -/

section Requests

variable {σ : Type} [Connection σ]

/-- A record may leave its nulls out if something remains: an insertion, with or without an update
of the row it collides with, and a replacement give the same answer or error, send the same
statements and leave the connection in the same state. -/
theorem nulls_omissible (table : Table) (record : Record)
    (filled : (table.withoutNulls record).entries ≠ []) (traced : Traced σ) :
    table.perform (.insert (table.withoutNulls record)) traced =
        table.perform (.insert record) traced ∧
      (∀ updated, table.perform (.upsert (table.withoutNulls record) updated) traced =
        table.perform (.upsert record updated) traced) ∧
      ∀ query, table.perform (.update query (table.withoutNulls record)) traced =
        table.perform (.update query record) traced := by
  refine ⟨?_, fun updated => ?_, fun query => ?_⟩
  · rw [perform, perform, Table.insert, Table.insert, insertion_withoutNulls filled]
  · rw [perform, perform, Table.upsert, Table.upsert, upsertion_withoutNulls filled]
  · rw [perform, perform, Table.update, Table.update, replacement_withoutNulls filled]

def nulledOrder : Record :=
  .ofList [("number", .null), ("code", .text "a"), ("state", .null), ("remark", .null)]

/-- Its code alone says the same. -/
theorem nulledOrder_shortened :
    orders.withoutNulls nulledOrder = .ofList [("code", .text "a")] ∧
      orders.perform (.insert (.ofList [("code", .text "a")])) (Traced.start emptyConnection) =
        orders.perform (.insert nulledOrder) (Traced.start emptyConnection) ∧
      (orders.perform (.insert nulledOrder)
          (Traced.start emptyConnection)).2.statements.map Statement.text =
        ["INSERT INTO `orders` (`code`, `state`, `remark`) VALUES ('a', 'new', NULL) " ++
          "RETURNING *"] := by
  have short : orders.withoutNulls nulledOrder = .ofList [("code", .text "a")] := by
    decide +kernel
  have filled : (orders.withoutNulls nulledOrder).entries ≠ [] := by
    rw [short]
    decide
  have same := (nulls_omissible orders nulledOrder filled (Traced.start emptyConnection)).1
  rw [short] at same
  exact ⟨short, same, by decide +kernel⟩

end Requests

end Table

end SchemaKeeper
