import SchemaKeeper.Proofs.Refusals

/-!
Contract: rows are changed and removed only where an accepted filter says so.

A change is a statement that begins with UPDATE or DELETE. The requests on a table
send four kinds of statements that are not changes, and each change they send ends in
the condition of the filter that the caller gave, which the table has accepted: some
field of the table is tested, and nothing else is.

Owns: changes, restrictions, and that every change in a run is restricted.
-/

namespace SchemaKeeper

/-! ## Changes -/

namespace Statement

def verb (statement : Statement) : String :=
  .ofList (statement.text.toList.takeWhile (· ≠ ' '))

/-- The statement changes or removes rows that exist. -/
def IsChange (statement : Statement) : Prop :=
  statement.verb = "UPDATE" ∨ statement.verb = "DELETE"

theorem verb_of_sql {statement : Statement} {word : String} {rest : Sql}
    (begins : statement.sql = .token (.word word) :: .space :: rest)
    (noSpace : ' ' ∉ word.toList) : statement.verb = word := by
  have text : statement.text.toList = word.toList ++ ' ' :: rest.chars := by
    rw [Statement.text, begins]
    simp [Sql.text, Sql.chars, Sql.Piece.chars, Sql.Token.chars]
  have letters : ∀ character ∈ word.toList, decide (character ≠ ' ') = true := by
    intro character member
    rw [decide_eq_true_iff]
    rintro rfl
    exact noSpace member
  rw [verb, text, List.takeWhile_append_of_pos letters]
  simp

private theorem not_isChange {statement : Statement} {word : String} {rest : Sql}
    (begins : statement.sql = .token (.word word) :: .space :: rest)
    (noSpace : ' ' ∉ word.toList) (notUpdate : word ≠ "UPDATE") (notDelete : word ≠ "DELETE") :
    ¬ statement.IsChange := by
  rw [IsChange, verb_of_sql begins noSpace]
  exact not_or.2 ⟨notUpdate, notDelete⟩

theorem not_isChange_select {table : String} {fields : Option (List String)}
    {condition : Option Sql} {limit : Option Nat} :
    ¬ (select table fields condition limit).IsChange :=
  not_isChange rfl (by decide) (by decide) (by decide)

theorem not_isChange_insert {table : String} {row : Row} {returning : Bool} :
    ¬ (insert table row returning).IsChange :=
  not_isChange rfl (by decide) (by decide) (by decide)

theorem not_isChange_upsert {table : String} {row : Row} {updated : List String}
    {returning : Bool} : ¬ (upsert table row updated returning).IsChange := by
  cases updated <;> exact not_isChange rfl (by decide) (by decide) (by decide)

theorem not_isChange_of_plan {plan : Plan} {statement : Statement}
    (planned : plan.statement? = some statement) : ¬ statement.IsChange := by
  cases plan with
  | create creation =>
      cases planned
      exact not_isChange rfl (by decide) (by decide) (by decide)
  | alter table operations =>
      cases operations with
      | nil => contradiction
      | cons operation operations =>
          cases planned
          exact not_isChange rfl (by decide) (by decide) (by decide)

end Statement

theorem Sql.text_where (lead condition : Sql) :
    Sql.text (lead ++ .space :: (Sql.word "WHERE" ++ .space :: condition)) =
      lead.text ++ " WHERE " ++ condition.text := by
  have tail : Sql.chars (.space :: (Sql.word "WHERE" ++ .space :: condition)) =
      " WHERE ".toList ++ condition.chars := rfl
  rw [Sql.text, Sql.chars_append, tail, String.ofList_append, String.ofList_append,
    String.ofList_toList, ← String.append_assoc]
  rfl

theorem Statement.text_update (table : String) (row : Row) (condition : Sql) :
    ∃ lead, (Statement.update table row condition).text = lead ++ " WHERE " ++ condition.text := by
  let clauses := row.map fun entry =>
    Sql.spaced [Sql.identifier entry.1, Sql.symbol "=", entry.2.literal]
  let lead :=
    Sql.spaced [Sql.word "UPDATE", Sql.identifier table, Sql.word "SET", Sql.listed clauses]
  refine ⟨lead.text, ?_⟩
  rw [← Sql.text_where]
  simp [Statement.text, Statement.sql, lead, clauses, Sql.spaced, List.intercalate]

theorem Statement.text_delete (table : String) (condition : Sql) :
    ∃ lead, (Statement.delete table condition).text = lead ++ " WHERE " ++ condition.text := by
  refine ⟨(Sql.spaced [Sql.words ["DELETE", "FROM"], Sql.identifier table]).text, ?_⟩
  rw [← Sql.text_where]
  simp [Statement.text, Statement.sql, Sql.spaced, List.intercalate]

/-! ## Restrictions -/

namespace Filter

/-- The statement changes or removes the rows of the filter only: it ends in the
condition of the filter, which the table accepts, and the filter has predicates, all of
them on fields of the table. -/
structure Restricts (filter : Filter) (table : Table) (statement : Statement) : Prop where
  accepted : filter.check table = .ok ()
  written : ∃ condition, filter.render table = .ok condition ∧
    ((∃ row, statement = .update table.name row condition) ∨
      statement = .delete table.name condition) ∧
    ∃ lead, statement.text = lead ++ " WHERE " ++ condition.text
  nonempty : filter.fields ≠ []
  known : ∀ field ∈ filter.fields, table.hasField field = true

theorem memberFields_eq_flatMap (members : List Filter) :
    memberFields members = members.flatMap fields := by
  induction members with
  | nil => rfl
  | cons member rest inductionHypothesis =>
      rw [memberFields, inductionHypothesis, List.flatMap_cons]

/-- A filter that a table accepts tests some field, and only fields of the table. -/
theorem fields_of_check {table : Table} {filter : Filter} (checked : check table filter = .ok ()) :
    filter.fields ≠ [] ∧ ∀ field ∈ filter.fields, table.hasField field = true := by
  induction filter with
  | predicate field operator operand =>
      rw [check] at checked
      simpa [fields] using (checkPredicate_eq_ok_iff.1 checked).1
  | group combinator members inductionHypothesis =>
      cases members with
      | nil => simp [check] at checked
      | cons member rest =>
          rw [check, checkMembers_eq_ok_iff] at checked
          have held := fun other listed => inductionHypothesis other listed (checked other listed)
          rw [fields, memberFields_eq_flatMap]
          constructor
          · intro empty
            have none := List.flatMap_eq_nil_iff.1 empty member List.mem_cons_self
            exact (held member List.mem_cons_self).1 none
          · intro field tested
            obtain ⟨other, listed, fieldTested⟩ := List.mem_flatMap.1 tested
            exact (held other listed).2 field fieldTested

theorem restricts_of_render {filter : Filter} {table : Table} {condition : Sql}
    {statement : Statement} (rendered : filter.render table = .ok condition)
    (change : (∃ row, statement = .update table.name row condition) ∨
      statement = .delete table.name condition) : filter.Restricts table statement := by
  have checked := (render_eq_ok_iff.1 rendered).1
  obtain ⟨nonempty, known⟩ := fields_of_check checked
  have ends : ∃ lead, statement.text = lead ++ " WHERE " ++ condition.text := by
    rcases change with ⟨row, rfl⟩ | rfl
    · exact Statement.text_update table.name row condition
    · exact Statement.text_delete table.name condition
  exact ⟨checked, ⟨condition, rendered, change, ends⟩, nonempty, known⟩

end Filter

/-! ## Requests -/

namespace Table

section Requests

open Request

variable {σ : Type} [Connection σ] {table : Table} {property : Statement → Prop}

/-- The property holds of the statement if it is a change. -/
def OnChange (property : Statement → Prop) (statement : Statement) : Prop :=
  statement.IsChange → property statement

theorem reconcile_sends :
    Sends (OnChange property) (table.reconcile : Request (Traced σ) Plan) := by
  have planned : Sends (OnChange property) (table.livePlan : Request (Traced σ) Plan) :=
    .bind (.passOn (Connection.describe table.name)) fun live => .checked (table.planFor live)
  refine .bind planned fun plan => ?_
  split
  · exact .pure plan
  next statement sent =>
    have unchanged := Statement.not_isChange_of_plan sent
    exact .bind (.execute fun change => absurd change unchanged) fun _ => .pure plan

theorem not_isChange_of_lookup {query : Record} {limit : Option Nat} {statement : Statement}
    (looked : table.lookup query limit = .ok statement) : ¬ statement.IsChange := by
  obtain ⟨_, _, looked⟩ := bind_eq_ok_iff.1 looked
  obtain ⟨_, _, same⟩ := bind_eq_ok_iff.1 looked
  cases same
  exact Statement.not_isChange_select

theorem not_isChange_of_projection {fields : List String} {filter : Option Filter}
    {limit : Option Nat} {statement : Statement}
    (projected : table.projection fields filter limit = .ok statement) :
    ¬ statement.IsChange := by
  obtain ⟨_, _, projected⟩ := bind_eq_ok_iff.1 projected
  split at projected
  · contradiction
  · obtain ⟨_, _, projected⟩ := bind_eq_ok_iff.1 projected
    obtain ⟨_, _, same⟩ := bind_eq_ok_iff.1 projected
    cases same
    exact Statement.not_isChange_select

theorem find_sends (query : Record) (limit : Option Nat) :
    Sends (OnChange property) (table.find query limit : Request (Traced σ) (List Record)) :=
  .checked_bind fun _ looked => .query fun change => absurd change (not_isChange_of_lookup looked)

theorem findOne_sends (query : Record) :
    Sends (OnChange property) (table.findOne query : Request (Traced σ) (Option Record)) :=
  (find_sends query (some 1)).answer List.head?

theorem select_sends (fields : List String) (filter : Option Filter) (limit : Option Nat) :
    Sends (OnChange property)
      (table.select fields filter limit : Request (Traced σ) (List Record)) :=
  .checked_bind fun _ projected =>
    .query fun change => absurd change (not_isChange_of_projection projected)

theorem store_sends (row : Row) {statement : Bool → Statement}
    (unchanged : ∀ returning, ¬ (statement returning).IsChange) :
    Sends (OnChange property) (table.store row statement : Request (Traced σ) (Option Record)) := by
  refine .bind (.passOn Connection.supportsReturning) fun returning => ?_
  have permitted : OnChange property (statement returning) :=
    fun change => absurd change (unchanged returning)
  split
  · exact (Sends.query permitted).answer List.head?
  · exact .bind (.execute permitted) fun _ => findOne_sends _

theorem insert_sends (record : Record) :
    Sends (OnChange property) (table.insert record : Request (Traced σ) Record) := by
  refine .checked_bind fun row _ => ?_
  refine .bind (store_sends row fun returning => Statement.not_isChange_insert) fun stored => ?_
  cases stored with
  | none => exact .throw (.connection (.unexpectedResponse (.missingRow table.name)))
  | some record => exact .pure record

theorem upsert_sends (record : Record) (updated : Option (List String)) :
    Sends (OnChange property)
      (table.upsert record updated : Request (Traced σ) (Option Record)) :=
  .checked_bind fun (row, _) _ => store_sends row fun _ => Statement.not_isChange_upsert

theorem assign_sends {condition : Sql} {row : Row}
    (holds : property (.update table.name row condition)) :
    Sends (OnChange property)
      (table.assign condition row : Request (Traced σ) (Option Record)) :=
  .bind (.execute fun _ => holds) fun _ => findOne_sends (Record.ofList row)

theorem update_sends (query record : Record) :
    Sends (OnChange ((Filter.allEqual query).Restricts table))
      (table.update query record : Request (Traced σ) (Option Record)) := by
  refine .checked_bind fun (condition, row) written => ?_
  obtain ⟨rendered, _, _⟩ := replacement_eq_ok_iff.1 written
  exact assign_sends (Filter.restricts_of_render rendered (.inl ⟨_, rfl⟩))

theorem updateWhere_sends (filter : Filter) (record : Record) :
    Sends (OnChange (filter.Restricts table))
      (table.updateWhere filter record : Request (Traced σ) (Option Record)) := by
  refine .checked_bind fun (condition, row) written => ?_
  obtain ⟨rendered, _, _⟩ := changes_eq_ok_iff.1 written
  exact assign_sends (Filter.restricts_of_render rendered (.inl ⟨_, rfl⟩))

theorem deleteWhere_sends (filter : Filter) :
    Sends (OnChange (filter.Restricts table))
      (table.deleteWhere filter : Request (Traced σ) Nat) := by
  refine .checked_bind fun statement removed => ?_
  obtain ⟨condition, rendered, rfl⟩ := map_eq_ok_iff.1 removed
  exact .execute fun _ => Filter.restricts_of_render rendered (.inr rfl)

/-- The filter of the action restricts the statement. -/
def Action.Restricts (action : Action) (table : Table) (statement : Statement) : Prop :=
  ∃ filter, action.restriction? = some filter ∧ filter.Restricts table statement

theorem perform_sends (table : Table) (action : Action) :
    Sends (OnChange (action.Restricts table))
      (table.perform action : Request (Traced σ) Answer) := by
  have named : ∀ {filter : Filter}, action.restriction? = some filter →
      ∀ statement, OnChange (filter.Restricts table) statement →
        OnChange (action.Restricts table) statement :=
    fun restriction _ restricted change => ⟨_, restriction, restricted change⟩
  cases action with
  | register => exact reconcile_sends.answer Answer.plan
  | find query limit => exact (find_sends query limit).answer Answer.rows
  | findOne query => exact (findOne_sends query).answer Answer.row
  | findById identifier field => exact (findOne_sends _).answer Answer.row
  | select fields filter limit => exact (select_sends fields filter limit).answer Answer.rows
  | selectOne fields filter =>
      exact ((select_sends fields filter (some 1)).answer List.head?).answer Answer.row
  | insert record => exact (insert_sends record).answer (Answer.row ∘ some)
  | upsert record updated => exact (upsert_sends record updated).answer Answer.row
  | update query record => exact ((update_sends query record).mono (named rfl)).answer Answer.row
  | updateWhere filter record =>
      exact ((updateWhere_sends filter record).mono (named rfl)).answer Answer.row
  | delete query =>
      exact ((deleteWhere_sends (.allEqual query)).mono (named rfl)).answer Answer.count
  | deleteWhere filter => exact ((deleteWhere_sends filter).mono (named rfl)).answer Answer.count

theorem performAll_sends (table : Table) (actions : List Action) (traced : Traced σ) :
    ∃ sent, (table.performAll actions traced).2.statements = traced.statements ++ sent ∧
      ∀ statement ∈ sent, OnChange
        (fun statement => ∃ action ∈ actions, action.Restricts table statement) statement := by
  induction actions generalizing traced with
  | nil => exact ⟨[], (List.append_nil traced.statements).symm, by simp⟩
  | cons action rest inductionHypothesis =>
      obtain ⟨sent, grown, restricted⟩ := perform_sends table action traced
      obtain ⟨more, grownAgain, moreRestricted⟩ :=
        inductionHypothesis (table.perform action traced).2
      refine ⟨sent ++ more, ?_, List.forall_mem_append.2 ⟨?_, ?_⟩⟩
      · change (table.performAll rest (table.perform action traced).2).2.statements = _
        rw [grownAgain, grown, List.append_assoc]
      · intro statement member change
        exact ⟨action, List.mem_cons_self, restricted statement member change⟩
      · intro statement member change
        obtain ⟨later, listed, restricts⟩ := moreRestricted statement member change
        exact ⟨later, List.mem_cons_of_mem action listed, restricts⟩

/-- Every statement of a run that changes or removes rows is restricted by the filter
of one of its actions. -/
theorem changes_restricted (table : Table) (actions : List Action) (connection : σ)
    (statement : Statement)
    (sent : statement ∈ (table.performAll actions (Traced.start connection)).2.statements)
    (change : statement.IsChange) :
    ∃ action ∈ actions, ∃ filter, action.restriction? = some filter ∧
      filter.Restricts table statement := by
  obtain ⟨passed, grown, restricted⟩ := performAll_sends table actions (.start connection)
  rw [grown] at sent
  exact restricted statement sent change

/-- A run that removes, reads and changes notes. -/
def clearing : List Action :=
  [.deleteWhere (.group .or []),
    .deleteWhere (.oneOf "rank" [.int 1, .int 2]),
    .find .empty none,
    .update (.ofList [("a`b", .text "x WHERE y")]) (.ofList [("a`b", .text "z")])]

/-- An open connection without rows. -/
def emptyConnection : MemoryConnection := { isOpen := true }

def cleared : Traced MemoryConnection :=
  (Filter.notes.performAll clearing (Traced.start emptyConnection)).2

def clearedText : String :=
  "UPDATE `notes` SET `a``b` = 'z', `rank` = NULL WHERE (`a``b` = 'x WHERE y')"

def clearedTexts : List String :=
  ["DELETE FROM `notes` WHERE `rank` IN (1, 2)", "SELECT * FROM `notes`", clearedText,
    "SELECT * FROM `notes` WHERE (`a``b` = 'z' AND `rank` IS NULL) LIMIT 1"]

/-- The removal without a predicate is not sent, and the change is restricted. -/
theorem cleared_changes_restricted :
    cleared.statements.map Statement.text = clearedTexts ∧
    ∃ statement ∈ cleared.statements, statement.text = clearedText ∧ statement.IsChange ∧
      ∃ action ∈ clearing, ∃ filter, action.restriction? = some filter ∧
        filter.Restricts Filter.notes statement := by
  have texts : cleared.statements.map Statement.text = clearedTexts := by decide +kernel
  have listed : clearedText ∈ cleared.statements.map Statement.text := by
    simp [texts, clearedTexts]
  obtain ⟨statement, sent, text⟩ := List.mem_map.1 listed
  have change : statement.IsChange := by
    rw [Statement.IsChange, Statement.verb, text]
    decide
  refine ⟨texts, statement, sent, text, change, ?_⟩
  rw [cleared] at sent
  exact changes_restricted Filter.notes clearing emptyConnection statement sent change

end Requests

end Table

end SchemaKeeper
