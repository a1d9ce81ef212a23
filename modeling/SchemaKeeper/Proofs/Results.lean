/-!
Contract: what a result that is computed in steps comes to.

Owns: successes of sequences and of translated results, walks along a list and the first item
that stops them, sequences of calls that change a state, the causes that calls fail for, and
conditions that calls preserve.
-/

namespace SchemaKeeper

variable {α β ε δ σ : Type}

/-! ## Results -/

/-- A sequence succeeds if its parts do, one after the other. -/
theorem bind_eq_ok_iff {first : Except ε α} {next : α → Except ε β} {result : β} :
    first >>= next = .ok result ↔ ∃ value, first = .ok value ∧ next value = .ok result := by
  cases first with
  | error cause =>
      constructor
      · intro succeeded
        contradiction
      · rintro ⟨value, succeeded, _⟩
        contradiction
  | ok value =>
      constructor
      · exact fun succeeded => ⟨value, rfl, succeeded⟩
      · rintro ⟨other, same, succeeded⟩
        cases same
        exact succeeded

/-- A sequence fails where one of its parts does. -/
theorem bind_eq_error_iff {first : Except ε α} {next : α → Except ε β} {cause : ε} :
    first >>= next = .error cause ↔
      first = .error cause ∨ ∃ value, first = .ok value ∧ next value = .error cause := by
  cases first with
  | error other =>
      constructor
      · exact fun failed => .inl (by cases failed; rfl)
      · rintro (⟨⟨⟩⟩ | ⟨value, ⟨⟩, _⟩)
        rfl
  | ok value =>
      constructor
      · exact fun failed => .inr ⟨value, rfl, failed⟩
      · rintro (⟨⟨⟩⟩ | ⟨other, ⟨⟩, failed⟩)
        exact failed

/-- What a list computation fails with is what one of its steps fails with. -/
theorem exists_of_mapM_error {step : α → Except ε β} {cause : ε} {items : List α}
    (failed : items.mapM step = .error cause) : ∃ item ∈ items, step item = .error cause := by
  induction items with
  | nil => cases failed
  | cons item rest inductionHypothesis =>
      rw [List.mapM_cons, bind_eq_error_iff] at failed
      rcases failed with first | ⟨value, _, others⟩
      · exact ⟨item, by simp, first⟩
      · rcases bind_eq_error_iff.1 others with others | ⟨values, _, ⟨⟩⟩
        obtain ⟨member, listed, found⟩ := inductionHypothesis others
        exact ⟨member, List.mem_cons_of_mem item listed, found⟩

/-- A list computation gives the results that its items are said to have. -/
theorem mapM_map_eq_some {γ : Type} {written : α → β} {result : α → γ} {read : β → Option γ}
    {items : List α} (reads : ∀ item ∈ items, read (written item) = some (result item)) :
    (items.map written).mapM read = some (items.map result) := by
  induction items with
  | nil => rfl
  | cons item rest inductionHypothesis =>
      obtain ⟨first, others⟩ := List.forall_mem_cons.1 reads
      rw [List.map_cons, List.mapM_cons, first, inductionHypothesis others]
      rfl

/-- Items that are written one by one are read back if each of them is. -/
theorem mapM_map_eq_self {written : α → β} {read : β → Option α} {items : List α}
    (reads : ∀ item ∈ items, read (written item) = some item) :
    (items.map written).mapM read = some items := by
  exact (mapM_map_eq_some reads).trans (congrArg some (List.map_id items))

/-- Each item that a list computation gives comes from one that it was given. -/
theorem exists_of_mem_of_mapM {read : α → Option β} {items : List α} {results : List β}
    (found : items.mapM read = some results) {result : β} (member : result ∈ results) :
    ∃ item ∈ items, read item = some result := by
  induction items generalizing results with
  | nil =>
      cases found
      cases member
  | cons item rest inductionHypothesis =>
      rw [List.mapM_cons] at found
      obtain ⟨first, isFirst, found⟩ := Option.bind_eq_some_iff.1 found
      obtain ⟨others, areOthers, found⟩ := Option.bind_eq_some_iff.1 found
      cases found
      rcases List.mem_cons.1 member with rfl | later
      · exact ⟨item, by simp, isFirst⟩
      · obtain ⟨source, listed, read⟩ := inductionHypothesis areOthers later
        exact ⟨source, List.mem_cons_of_mem item listed, read⟩

/-- Translating errors leaves successes alone. -/
theorem mapError_eq_ok_iff {first : Except ε α} {translate : ε → δ} {result : α} :
    first.mapError translate = .ok result ↔ first = .ok result := by
  cases first with
  | error cause =>
      constructor <;>
        · intro succeeded
          contradiction
  | ok value =>
      constructor <;>
        · intro succeeded
          cases succeeded
          rfl

/-- Translating a success leaves errors alone. -/
theorem map_eq_ok_iff {first : Except ε α} {translate : α → β} {result : β} :
    first.map translate = .ok result ↔ ∃ value, first = .ok value ∧ translate value = result := by
  cases first with
  | error cause => simp [Except.map]
  | ok value => simp [Except.map]

theorem toOption_eq_some_iff {result : Except ε α} {value : α} :
    result.toOption = some value ↔ result = .ok value := by
  cases result <;> simp [Except.toOption]

/-! ## Walks -/

/-- The item is the first of the list with the property. -/
def FirstWith (property : α → Prop) (items : List α) (item : α) : Prop :=
  ∃ before after, items = before ++ item :: after ∧ property item ∧
    ∀ earlier ∈ before, ¬ property earlier

theorem not_firstWith_nil {property : α → Prop} {item : α} : ¬ FirstWith property [] item := by
  rintro ⟨before, after, split, _⟩
  simp at split

theorem firstWith_cons_iff {property : α → Prop} {head item : α} {rest : List α} :
    FirstWith property (head :: rest) item ↔
      (property head ∧ item = head) ∨ (¬ property head ∧ FirstWith property rest item) := by
  constructor
  · rintro ⟨before, after, split, holds, others⟩
    cases before with
    | nil =>
        cases split
        exact .inl ⟨holds, rfl⟩
    | cons first before =>
        cases split
        obtain ⟨headLacks, restLack⟩ := List.forall_mem_cons.1 others
        exact .inr ⟨headLacks, before, after, rfl, holds, restLack⟩
  · rintro (⟨holds, rfl⟩ | ⟨headLacks, before, after, rfl, holds, others⟩)
    · exact ⟨[], rest, rfl, holds, by simp⟩
    · exact ⟨head :: before, after, rfl, holds, List.forall_mem_cons.2 ⟨headLacks, others⟩⟩

theorem find?_eq_some_iff_firstWith {test : α → Bool} {items : List α} {item : α} :
    items.find? test = some item ↔ FirstWith (fun other => test other = true) items item := by
  rw [List.find?_eq_some_iff_append]
  constructor
  · rintro ⟨holds, before, after, split, others⟩
    exact ⟨before, after, split, holds, fun earlier member => by simpa using others earlier member⟩
  · rintro ⟨before, after, split, holds, others⟩
    exact ⟨holds, before, after, split, fun earlier member => by simpa using others earlier member⟩

theorem exists_firstWith_iff {property : α → Prop} {items : List α} :
    (∃ item, FirstWith property items item) ↔ ∃ item ∈ items, property item := by
  induction items with
  | nil => simp [not_firstWith_nil]
  | cons head rest inductionHypothesis =>
      simp only [firstWith_cons_iff, List.mem_cons, exists_or, exists_and_left,
        inductionHypothesis, exists_eq, and_true, or_and_right, exists_eq_left]
      by_cases holds : property head <;> simp [holds]

/-- A run of accepted items ends where an item is refused, or with the list. -/
theorem span_run {accept : α → Bool} {run rest : List α}
    (accepted : ∀ item ∈ run, accept item = true)
    (refused : ∀ item ∈ rest.head?, accept item = false) :
    (run ++ rest).takeWhile accept = run ∧ (run ++ rest).dropWhile accept = rest := by
  rw [List.takeWhile_append_of_pos accepted, List.dropWhile_append_of_pos accepted]
  cases rest with
  | nil => simp
  | cons item behind => simp [refused item rfl]

/-- Walks that take the same steps at the items of a list come to the same. -/
theorem forM_congr {step other : α → Except ε Unit} {items : List α}
    (same : ∀ item ∈ items, step item = other item) : forM items step = forM items other := by
  induction items with
  | nil => rfl
  | cons item rest inductionHypothesis =>
      obtain ⟨first, others⟩ := List.forall_mem_cons.1 same
      rw [List.forM_cons, List.forM_cons, first, inductionHypothesis others]

/-- A walk along a list succeeds if every step does. -/
theorem forM_eq_ok_iff {step : α → Except ε Unit} {items : List α} :
    forM items step = .ok () ↔ ∀ item ∈ items, step item = .ok () := by
  induction items with
  | nil => exact iff_of_true rfl (by simp)
  | cons item rest inductionHypothesis =>
      rw [List.forM_cons, bind_eq_ok_iff, List.forall_mem_cons, ← inductionHypothesis]
      exact ⟨fun ⟨_, first, others⟩ => ⟨first, others⟩, fun ⟨first, others⟩ => ⟨(), first, others⟩⟩

/-- A walk along a list fails as the first step that fails. -/
theorem forM_eq_error_iff {step : α → Except ε Unit} {items : List α} {cause : ε} :
    forM items step = .error cause ↔
      ∃ item, FirstWith (fun other => step other ≠ .ok ()) items item ∧
        step item = .error cause := by
  induction items with
  | nil => exact iff_of_false nofun fun ⟨_, first, _⟩ => not_firstWith_nil first
  | cons item rest inductionHypothesis =>
      rw [List.forM_cons, bind_eq_error_iff, inductionHypothesis]
      simp only [firstWith_cons_iff]
      constructor
      · rintro (failed | ⟨_, passed, other, first, failed⟩)
        · exact ⟨item, .inl ⟨by simp [failed], rfl⟩, failed⟩
        · exact ⟨other, .inr ⟨fun failed => failed passed, first⟩, failed⟩
      · rintro ⟨other, ⟨_, rfl⟩ | ⟨passed, first⟩, failed⟩
        · exact .inl failed
        · exact .inr ⟨(), Classical.not_not.1 passed, other, first, failed⟩

/-! ## Calls -/

theorem run_bind_ok {first : ExceptT ε (StateM σ) α} {next : α → ExceptT ε (StateM σ) β}
    {state later : σ} {value : α} (run : first state = (.ok value, later)) :
    (first >>= next) state = next value later := by
  change ExceptT.bindCont next (first state).1 (first state).2 = _
  rw [run]
  rfl

theorem run_bind_error {first : ExceptT ε (StateM σ) α} {next : α → ExceptT ε (StateM σ) β}
    {state later : σ} {cause : ε} (run : first state = (.error cause, later)) :
    (first >>= next) state = (.error cause, later) := by
  change ExceptT.bindCont next (first state).1 (first state).2 = _
  rw [run]
  rfl

/-- A sequence of calls succeeds if its parts do, one after the other. -/
theorem run_bind_eq_ok_iff {first : ExceptT ε (StateM σ) α} {next : α → ExceptT ε (StateM σ) β}
    {state later : σ} {result : β} :
    (first >>= next) state = (.ok result, later) ↔
      ∃ value between, first state = (.ok value, between) ∧
        next value between = (.ok result, later) := by
  rcases run : first state with ⟨cause | value, between⟩
  · rw [run_bind_error run]
    constructor
    · intro succeeded
      cases succeeded
    · rintro ⟨value, between, ⟨⟩, _⟩
  · rw [run_bind_ok run]
    constructor
    · exact fun succeeded => ⟨value, between, rfl, succeeded⟩
    · rintro ⟨value, between, ⟨⟩, succeeded⟩
      exact succeeded

theorem run_get_bind {next : σ → ExceptT ε (StateM σ) β} {state : σ} :
    (get >>= next) state = next state state :=
  rfl

/-- The call fails for no other causes, whatever the state. -/
def FailsOnly (allowed : ε → Prop) (call : ExceptT ε (StateM σ) α) : Prop :=
  ∀ state cause, (call state).1 = .error cause → allowed cause

namespace FailsOnly

variable {allowed : ε → Prop}

theorem pure (value : α) : FailsOnly allowed (pure value : ExceptT ε (StateM σ) α) := by
  intro state cause failed
  cases failed

theorem throw {cause : ε} (permitted : allowed cause) :
    FailsOnly allowed (MonadExcept.throw cause : ExceptT ε (StateM σ) α) := by
  intro state other failed
  cases failed
  exact permitted

theorem modify (change : σ → σ) :
    FailsOnly allowed (modify change : ExceptT ε (StateM σ) PUnit) := by
  intro state cause failed
  cases failed

theorem bind {first : ExceptT ε (StateM σ) α} {next : α → ExceptT ε (StateM σ) β}
    (firstFails : FailsOnly allowed first) (restFail : ∀ value, FailsOnly allowed (next value)) :
    FailsOnly allowed (first >>= next) := by
  intro state cause failed
  rcases run : first state with ⟨other | value, later⟩
  · rw [run_bind_error run] at failed
    cases failed
    exact firstFails state cause (congrArg Prod.fst run)
  · rw [run_bind_ok run] at failed
    exact restFail value later cause failed

theorem get_bind {next : σ → ExceptT ε (StateM σ) β}
    (restFail : ∀ state, FailsOnly allowed (next state)) : FailsOnly allowed (get >>= next) := by
  intro state cause failed
  rw [run_get_bind] at failed
  exact restFail state state cause failed

theorem forM {items : List α} {body : α → ExceptT ε (StateM σ) PUnit}
    (bodyFails : ∀ item, FailsOnly allowed (body item)) :
    FailsOnly allowed (items.forM body) := by
  induction items with
  | nil => exact .pure ()
  | cons item rest inductionHypothesis =>
      exact (bodyFails item).bind fun _ => inductionHypothesis

/-- A call that passes on what another one comes to fails for the translated causes. -/
theorem translate {τ : Type} {call : ExceptT ε (StateM σ) α} {inner : ExceptT δ (StateM τ) α}
    {part : σ → τ} {wording : δ → ε}
    (passes : ∀ state, (call state).1 = (inner (part state)).1.mapError wording)
    (innerFails : FailsOnly (fun cause => allowed (wording cause)) inner) :
    FailsOnly allowed call := by
  intro state cause failed
  rw [passes] at failed
  cases result : (inner (part state)).1 with
  | ok value =>
      rw [result] at failed
      cases failed
  | error other =>
      rw [result] at failed
      cases failed
      exact innerFails (part state) other result

end FailsOnly

/-- Whether it succeeds or not, the call does not take a state out of the condition. -/
def Preserves (condition : σ → Prop) (call : ExceptT ε (StateM σ) α) : Prop :=
  ∀ state, condition state → condition (call state).2

namespace Preserves

variable {condition : σ → Prop}

theorem pure (value : α) : Preserves condition (pure value : ExceptT ε (StateM σ) α) :=
  fun _ holds => holds

theorem bind {first : ExceptT ε (StateM σ) α} {next : α → ExceptT ε (StateM σ) β}
    (firstPreserves : Preserves condition first)
    (restPreserves : ∀ value, Preserves condition (next value)) :
    Preserves condition (first >>= next) := by
  intro state holds
  have between := firstPreserves state holds
  rcases run : first state with ⟨cause | value, later⟩
  · rw [run] at between
    rw [run_bind_error run]
    exact between
  · rw [run] at between
    rw [run_bind_ok run]
    exact restPreserves value later between

theorem forM {items : List α} {body : α → ExceptT ε (StateM σ) PUnit}
    (bodyPreserves : ∀ item, Preserves condition (body item)) :
    Preserves condition (items.forM body) := by
  induction items with
  | nil => exact fun _ holds => holds
  | cons item rest inductionHypothesis =>
      exact (bodyPreserves item).bind fun _ => inductionHypothesis

end Preserves

end SchemaKeeper
