import SchemaKeeper.Proofs.Refusals

/-!
Contract: a record that may be written may also be looked up.

Records are judged twice, by different checks. A record that is written or looked up is checked
entry by entry; a lookup, a replacement and a removal turn the record into a filter, and the
filter is checked as any other. Both come down to the values that the fields take, and what a
record for writing has to have besides does not count against a lookup.

Owns: what sets a record for writing apart, and that its lookup is never refused.

Does not own: the check of filters (`FilterNodes`).
-/

namespace SchemaKeeper.Table

variable {table : Table} {record : Record}

/-! ## Records -/

/-- The record has a value for every field that can neither be null, nor number itself, nor fall
back on a default. -/
def Completes (table : Table) (record : Record) : Prop :=
  ∀ name field, (name, field) ∈ table.fields →
    field.nullable = false → field.autoIncrement = false → field.default = none →
      ∃ value, record.get? name = some value ∧ value ≠ .null

theorem isNull_getD_eq_false_iff {name : String} :
    ((record.get? name).getD .null).isNull = false ↔
      ∃ value, record.get? name = some value ∧ value ≠ .null := by
  cases record.get? name with
  | none => simp [Value.isNull]
  | some value => cases value <;> simp [Value.isNull]

theorem missingFields_eq_nil_iff : table.missingFields record = [] ↔ table.Completes record := by
  rw [missingFields, List.filter_eq_nil_iff, requiredFields, List.forall_mem_map]
  simp only [List.mem_filter, Bool.not_eq_true, isNull_getD_eq_false_iff, Field.isRequired,
    Bool.and_eq_true, Bool.not_eq_true', Option.isNone_iff_eq_none]
  constructor
  · intro given name field listed nullable numbered default
    exact given (name, field) ⟨listed, ⟨nullable, numbered⟩, default⟩
  · rintro complete ⟨name, field⟩ ⟨listed, ⟨nullable, numbered⟩, default⟩
    exact complete name field listed nullable numbered default

theorem checkRecord_lookup_iff :
    table.checkRecord .lookup record = .ok () ↔ table.Accepts record.entries :=
  checkEntries_eq_ok_iff

theorem checkRecord_write_iff {use : RecordUse} (write : use ≠ .lookup) :
    table.checkRecord use record = .ok () ↔
      record.entries ≠ [] ∧ table.Completes record ∧ table.Accepts record.entries := by
  have steps : table.checkRecord use record =
      (do table.checkComplete record; table.checkEntries record.entries) := by
    cases use with
    | lookup => contradiction
    | _ => rfl
  rw [steps, bind_eq_ok_iff, ← missingFields_eq_nil_iff, ← and_assoc, ← checkComplete_eq_ok_iff,
    ← checkEntries_eq_ok_iff]
  exact ⟨fun ⟨_, complete, accepted⟩ => ⟨complete, accepted⟩,
    fun ⟨complete, accepted⟩ => ⟨(), complete, accepted⟩⟩

/-! ## Requests -/

section Requests

open Request

variable {σ : Type} [Connection σ]

theorem find_neverRefuses (accepts : table.Accepts record.entries) {limit : Option Nat}
    (positive : limit ≠ some 0) :
    NeverRefuses (table.find record limit : Request σ (List Record)) :=
  .bind (.checked (lookup_accepted accepts positive)) fun statement =>
    .access (Connection.query statement)

theorem update_neverRefuses (accepts : table.Accepts record.entries)
    (nonempty : record.entries ≠ []) {written : Record}
    (accepted : table.checkRecord .update written = .ok ()) :
    NeverRefuses (table.update record written : Request σ (Option Record)) := by
  obtain ⟨condition, rendered⟩ :=
    Filter.exists_render_iff.2 ((check_allEqual_iff nonempty).2 accepts)
  have replaces := replacement_eq_ok_iff.2 ⟨rendered, accepted, rfl⟩
  exact .checked_bind replaces (assign_neverRefuses (accepts_replacementRow accepted) condition)

theorem delete_neverRefuses (accepts : table.Accepts record.entries)
    (nonempty : record.entries ≠ []) :
    NeverRefuses (table.delete record : Request σ Nat) := by
  obtain ⟨condition, rendered⟩ :=
    Filter.exists_render_iff.2 ((check_allEqual_iff nonempty).2 accepts)
  have removes : table.removal (.allEqual record) = .ok (.delete table.name condition) :=
    map_eq_ok_iff.2 ⟨condition, rendered, rfl⟩
  exact .checked_bind removes (.access (Connection.execute (.delete table.name condition)))

/-- Beyond what a lookup asks of a record, one for writing has to be complete and must not be
empty. A record with entries is accepted for a lookup just when the filter on all of them is. So
no record that may be written is refused as the lookup of a search, a replacement or a removal. -/
theorem writes_accepted_as_lookups (table : Table) (record : Record) :
    (∀ use, use ≠ .lookup → (table.checkRecord use record = .ok () ↔
      record.entries ≠ [] ∧ table.Completes record ∧
        table.checkRecord .lookup record = .ok ())) ∧
    (record.entries ≠ [] → (table.checkRecord .lookup record = .ok () ↔
      (Filter.allEqual record).check table = .ok ())) ∧
    (∀ use, use ≠ .lookup → table.checkRecord use record = .ok () →
      (∀ limit, limit ≠ some 0 →
        NeverRefuses (table.find record limit : Request σ (List Record))) ∧
      (∀ written, table.checkRecord .update written = .ok () →
        NeverRefuses (table.update record written : Request σ (Option Record))) ∧
      NeverRefuses (table.delete record : Request σ Nat)) := by
  refine ⟨fun use write => ?_, fun nonempty => ?_, fun use write accepted => ?_⟩
  · rw [checkRecord_write_iff write, checkRecord_lookup_iff]
  · rw [checkRecord_lookup_iff, check_allEqual_iff nonempty]
  · obtain ⟨nonempty, _, accepts⟩ := (checkRecord_write_iff write).1 accepted
    exact ⟨fun _ positive => find_neverRefuses accepts positive,
      fun _ replaces => update_neverRefuses accepts nonempty replaces,
      delete_neverRefuses accepts nonempty⟩

/-- An order with a number and without a state, both of which it could leave out. -/
def givenOrder : Record :=
  .ofList [("number", .int 7), ("code", .text "a"), ("state", .null), ("remark", .null)]

/-- The order may be inserted, so a search for it, its replacement by itself and its removal are
not refused. -/
theorem givenOrder_looked_up :
    orders.checkRecord .create givenOrder = .ok () ∧ orders.Completes givenOrder ∧
      (Filter.allEqual givenOrder).check orders = .ok () ∧
      NeverRefuses (orders.find givenOrder (some 1) : Request MemoryConnection (List Record)) ∧
      NeverRefuses
        (orders.update givenOrder givenOrder : Request MemoryConnection (Option Record)) ∧
      NeverRefuses (orders.delete givenOrder : Request MemoryConnection Nat) := by
  have inserted : orders.checkRecord .create givenOrder = .ok () := by decide +kernel
  have replaced : orders.checkRecord .update givenOrder = .ok () := by decide +kernel
  obtain ⟨records, filters, requests⟩ :=
    @writes_accepted_as_lookups MemoryConnection _ orders givenOrder
  obtain ⟨nonempty, complete, looked⟩ := (records .create (by decide)).1 inserted
  obtain ⟨finds, updates, deletes⟩ := requests .create (by decide) inserted
  exact ⟨inserted, complete, (filters nonempty).1 looked, finds (some 1) (by decide),
    updates givenOrder replaced, deletes⟩

end Requests

end SchemaKeeper.Table
