import Mathlib.Data.List.Forall2
import Mathlib.Data.List.Nodup

/-!
Contract: lists of entries that are looked up by their first part.

Owns: lookups when keys are distinct, after an addition and after a removal, and
counterparts in aligned lists.
-/

namespace SchemaKeeper

/-! ## Lookups -/

section Lookups

variable {α β : Type} [DecidableEq α] {entries : List (α × β)} {key : α}

theorem lookup_eq_none_iff_notMem : entries.lookup key = none ↔ key ∉ entries.map (·.1) := by
  rw [List.lookup_eq_none_iff, List.mem_map]
  constructor
  · rintro unlike ⟨entry, listed, rfl⟩
    simpa using unlike entry listed
  · intro absent entry listed
    have different : key ≠ entry.1 := fun same => absent ⟨entry, listed, same.symm⟩
    simpa using different

theorem lookup_eq_some_iff_mem (distinct : (entries.map (·.1)).Nodup) {value : β} :
    entries.lookup key = some value ↔ (key, value) ∈ entries := by
  rw [List.lookup_eq_some_iff]
  constructor
  · rintro ⟨before, after, split, _⟩
    simp [split]
  · intro listed
    obtain ⟨before, after, split⟩ := List.append_of_mem listed
    rw [split, List.map_append, List.nodup_append] at distinct
    refine ⟨before, after, split, fun other member => ?_⟩
    have different := distinct.2.2 other.1 (List.mem_map_of_mem member) key (by simp)
    simpa using different.symm

theorem lookup_filter (keep : α → Bool) :
    (entries.filter fun entry => keep entry.1).lookup key =
      if keep key then entries.lookup key else none := by
  induction entries with
  | nil => simp
  | cons entry rest inductionHypothesis =>
      rcases entry with ⟨name, value⟩
      by_cases kept : keep name = true
      · by_cases same : key = name
        · simp [kept, same]
        · have different : (key == name) = false := by simpa using same
          simpa [kept, List.lookup_cons, different] using inductionHypothesis
      · by_cases same : key = name
        · subst same
          simpa [kept] using inductionHypothesis
        · have different : (key == name) = false := by simpa using same
          simpa [kept, List.lookup_cons, different] using inductionHypothesis

variable {name : α} {value : β}

theorem lookup_append_entry (free : entries.lookup name = none) :
    (entries ++ [(name, value)]).lookup key =
      if key = name then some value else entries.lookup key := by
  rw [List.lookup_append]
  by_cases same : key = name
  · simp [same, free]
  · have different : (key == name) = false := by simpa using same
    simp [List.lookup_cons, different, same]

theorem nodup_append_entry (distinct : (entries.map (·.1)).Nodup)
    (free : entries.lookup name = none) : ((entries ++ [(name, value)]).map (·.1)).Nodup := by
  rw [List.map_append, List.nodup_append]
  refine ⟨distinct, by simp, ?_⟩
  intro other listed added member same
  obtain rfl : added = name := by simpa using member
  exact lookup_eq_none_iff_notMem.1 free (same ▸ listed)

end Lookups

/-! ## Alignment -/

/-- What stands on the right of aligned lists has a counterpart on the left. -/
theorem exists_of_mem_aligned {α β : Type} {relation : α → β → Prop} {left : List α}
    {right : List β} (aligned : List.Forall₂ relation left right) {entry : β}
    (member : entry ∈ right) : ∃ counterpart ∈ left, relation counterpart entry := by
  induction aligned with
  | nil => contradiction
  | @cons counterpart here _ _ related _ inductionHypothesis =>
      rcases List.mem_cons.1 member with rfl | member
      · exact ⟨counterpart, List.mem_cons_self, related⟩
      · obtain ⟨found, listed, foundRelated⟩ := inductionHypothesis member
        exact ⟨found, List.mem_cons_of_mem _ listed, foundRelated⟩

end SchemaKeeper
