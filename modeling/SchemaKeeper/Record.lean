import SchemaKeeper.Value

/-!
Contract: rows and lookups, as finite maps from field names to values.

Entries are kept in strictly increasing order of their names by code points, so a
record has one representation and every pass over it follows that order.

Owns: insertion, lookup and the order.
-/

namespace SchemaKeeper

/-- A finite map from field names to values, sorted by name. -/
structure Record where
  entries : List (String × Value)
  sorted : entries.Pairwise fun earlier later => earlier.1 < later.1

namespace Record

instance : DecidableEq Record := fun left right =>
  decidable_of_iff (left.entries = right.entries)
    ⟨fun same => by cases left; cases right; cases same; rfl, fun same => by rw [same]⟩

def empty : Record := ⟨[], .nil⟩

/-! ## Insertion -/

/-- Puts an entry at its place, replacing one of the same name. -/
def insertEntry (name : String) (value : Value) : List (String × Value) → List (String × Value)
  | [] => [(name, value)]
  | entry :: rest =>
      if name < entry.1 then (name, value) :: entry :: rest
      else if name = entry.1 then (name, value) :: rest
      else entry :: insertEntry name value rest

theorem mem_insertEntry {name : String} {value : Value} {entry : String × Value}
    {entries : List (String × Value)} (member : entry ∈ insertEntry name value entries) :
    entry = (name, value) ∨ entry ∈ entries := by
  induction entries with
  | nil => simpa [insertEntry] using member
  | cons head tail inductionHypothesis =>
      simp only [insertEntry] at member
      split at member
      · simpa using member
      · split at member
        · rcases List.mem_cons.1 member with here | there
          · exact .inl here
          · exact .inr (List.mem_cons_of_mem _ there)
        · rcases List.mem_cons.1 member with here | there
          · exact .inr (here ▸ List.mem_cons_self)
          · exact (inductionHypothesis there).imp_right (List.mem_cons_of_mem _)

private theorem lt_of_not_lt_of_ne {left right : String} (notBelow : ¬ left < right)
    (different : left ≠ right) : right < left := by
  rcases Decidable.em (right < left) with below | notAbove
  · exact below
  · exact absurd (String.le_antisymm (String.not_lt.1 notAbove) (String.not_lt.1 notBelow))
      different

theorem insertEntry_sorted (name : String) (value : Value) {entries : List (String × Value)}
    (sorted : entries.Pairwise fun earlier later => earlier.1 < later.1) :
    (insertEntry name value entries).Pairwise fun earlier later => earlier.1 < later.1 := by
  induction entries with
  | nil => simp [insertEntry]
  | cons head tail inductionHypothesis =>
      have ⟨headBelow, tailSorted⟩ := List.pairwise_cons.1 sorted
      simp only [insertEntry]
      split
      next below =>
        refine List.pairwise_cons.2 ⟨fun entry member => ?_, sorted⟩
        rcases List.mem_cons.1 member with here | there
        · exact here ▸ below
        · exact String.lt_trans below (headBelow entry there)
      next notBelow =>
        split
        next same =>
          exact List.pairwise_cons.2
            ⟨fun entry member => same ▸ headBelow entry member, tailSorted⟩
        next different =>
          refine List.pairwise_cons.2 ⟨fun entry member => ?_, inductionHypothesis tailSorted⟩
          rcases mem_insertEntry member with here | there
          · exact here ▸ lt_of_not_lt_of_ne notBelow different
          · exact headBelow entry there

def insert (record : Record) (name : String) (value : Value) : Record :=
  ⟨insertEntry name value record.entries, insertEntry_sorted name value record.sorted⟩

/-- The record of a list of entries; the last entry of a name counts. -/
def ofList (entries : List (String × Value)) : Record :=
  entries.foldl (fun record entry => record.insert entry.1 entry.2) empty

/-! ## Lookup -/

def get? (record : Record) (name : String) : Option Value :=
  record.entries.lookup name

def isEmpty (record : Record) : Bool :=
  record.entries.isEmpty

end Record

end SchemaKeeper
