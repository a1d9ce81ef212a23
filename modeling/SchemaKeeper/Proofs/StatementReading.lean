import SchemaKeeper.Proofs.FilterReading
import SchemaKeeper.Sql.Outline

/-!
Contract: a written statement is read as its outline.

Every statement is put together from legible pieces, so a server finds the tokens that
were written, and these are the tokens of the outline. Names, texts and numbers only
fill places that the shape of a statement provides: statements of the same shape differ
in the contents of these tokens and in nothing else.

Owns: the tokens and the legibility of statements, and what a shape decides.

Does not own: the tokens of conditions as far as they are read back (`FilterReading`).
-/

namespace SchemaKeeper

/-! ## Tokens of pieces -/

namespace Sql

theorem tokens_intercalate (separator : Sql) (parts : List Sql) :
    tokens (separator.intercalate parts) = separator.tokens.intercalate (parts.map tokens) := by
  induction parts with
  | nil => simp
  | cons part others inductionHypothesis =>
      cases others with
      | nil => simp
      | cons next others =>
          rw [List.intercalate_cons_cons, List.map_cons, List.map_cons,
            List.intercalate_cons_cons, tokens_append, tokens_append, inductionHypothesis,
            List.map_cons]

@[simp] theorem tokens_spaced (parts : List Sql) :
    (spaced parts).tokens = (parts.map tokens).flatten := by
  rw [spaced, tokens_intercalate]
  induction parts with
  | nil => rfl
  | cons part others inductionHypothesis =>
      cases others with
      | nil => simp
      | cons next others =>
          rw [List.map_cons, List.map_cons, List.intercalate_cons_cons, ← List.map_cons,
            inductionHypothesis]
          simp

@[simp] theorem tokens_listed (parts : List Sql) :
    (listed parts).tokens = Outline.listed (parts.map tokens) :=
  tokens_intercalate _ parts

@[simp] theorem tokens_enclosed (part : Sql) :
    (enclosed part).tokens = Outline.enclosed part.tokens := by
  simp [enclosed, symbol, Outline.enclosed]

@[simp] theorem tokens_word (text : String) : (word text).tokens = [.word text] := rfl

@[simp] theorem tokens_symbol (text : String) : (symbol text).tokens = [.symbol text] := rfl

@[simp] theorem tokens_identifier (name : String) : (identifier name).tokens = [.identifier name] :=
  rfl

@[simp] theorem tokens_natural (number : Nat) :
    (natural number).tokens = [.number (toString number)] :=
  rfl

@[simp] theorem tokens_words (texts : List String) :
    (words texts).tokens = Outline.words texts := by
  rw [words, tokens_spaced, List.map_map]
  induction texts with
  | nil => rfl
  | cons text others inductionHypothesis =>
      rw [List.map_cons, List.flatten_cons, inductionHypothesis]
      rfl

@[simp] theorem tokens_identifiers (names : List String) :
    (identifiers names).tokens = Outline.names names := by
  simp [identifiers, Outline.names, Function.comp_def]

end Sql

mutual

@[simp] theorem Value.tokens_literal : (value : Value) → value.literal.tokens = value.outline
  | .null => rfl
  | .bool true => rfl
  | .bool false => rfl
  | .int _ => rfl
  | .float value => by
      rw [literal, outline]
      split <;> rfl
  | .text _ => rfl
  | .list items => by rw [literal, outline, Sql.tokens_listed, Value.map_tokens_itemLiterals]

theorem Value.map_tokens_itemLiterals :
    (items : List Value) → (itemLiterals items).map Sql.tokens = itemOutlines items
  | [] => rfl
  | item :: rest => by
      rw [itemLiterals, itemOutlines, List.map_cons, Value.tokens_literal,
        Value.map_tokens_itemLiterals]

end

@[simp] theorem TypeSize.tokens_sql (size : TypeSize) : size.sql.tokens = size.outline := by
  cases size <;> simp [sql, outline]

@[simp] theorem Column.tokens_definition (name : String) (column : Column) :
    (column.definition name).tokens = column.outline name := by
  unfold definition outline typeSql
  cases column.unsigned <;> cases column.nullable <;> cases column.default <;>
    cases column.autoIncrement <;> simp [Sql.Outline.words]

@[simp] theorem ReferenceTarget.tokens_constraint (name : String) (target : ReferenceTarget) :
    (target.constraint name).tokens = target.outline name := by
  unfold constraint outline
  cases target.onDelete <;> cases target.onUpdate <;>
    simp [ReferentialAction.outline, Sql.Outline.words]

@[simp] theorem Sql.tokens_primaryKey (names : List String) :
    (primaryKey names).tokens = Outline.primaryKey names := by
  simp [primaryKey, Outline.primaryKey]

@[simp] theorem Sql.tokens_uniqueIndex (name : String) :
    (uniqueIndex name).tokens = Outline.uniqueIndex name := by
  simp [uniqueIndex, Outline.uniqueIndex]

@[simp] theorem Operation.tokens_clause (operation : Operation) :
    operation.clause.tokens = operation.outline := by
  cases operation <;> simp [clause, outline]

/-! ## Legible parts -/

namespace Sql

theorem legible_identifier (name : String) : (identifier name).Legible :=
  legible_token (.identifier name)

theorem legible_symbol {mark : String} (listed : mark ∈ marks) : (symbol mark).Legible :=
  legible_token (.symbol listed)

theorem isNumber_toString (number : Nat) : IsNumber (toString number).toList := by
  have digits : (toString number).toList = Nat.toDigits 10 number := Nat.toList_repr
  rw [digits]
  apply IsNumber.unsigned
  apply IsMagnitude.whole
  · exact Nat.toDigits_ne_nil
  · exact fun character member => Nat.isDigit_of_mem_toDigits (by decide) (by decide) member

theorem legible_natural (number : Nat) : (natural number).Legible :=
  legible_token (.number (isNumber_toString number))

theorem legible_identifiers (names : List String) : (identifiers names).Legible := by
  apply legible_listed
  intro part member
  obtain ⟨name, _, rfl⟩ := List.mem_map.1 member
  exact legible_identifier name

/-- A part between parentheses may follow at once. -/
theorem Legible.append_enclosed {left part : Sql} (leftLegible : left.Legible)
    (partLegible : part.Legible) : (left ++ enclosed part).Legible :=
  leftLegible.append (legible_enclosed partLegible) (delimited_cons _ (by decide))

/-- Keywords and what they introduce. -/
theorem legible_phrase {texts : List String}
    (keywords : ∀ text ∈ texts, isKeyword text.toList = true) {parts : List Sql}
    (legible : ∀ part ∈ parts, part.Legible) : (spaced (words texts :: parts)).Legible :=
  legible_spaced (List.forall_mem_cons.2 ⟨legible_words keywords, legible⟩)

theorem legible_primaryKey (names : List String) : (primaryKey names).Legible := by
  apply legible_phrase (by decide)
  simp [legible_enclosed (legible_identifiers names)]

theorem legible_uniqueIndex (name : String) : (uniqueIndex name).Legible := by
  apply legible_phrase (by decide)
  simp [legible_identifier, legible_enclosed]

end Sql

mutual

theorem Value.legible_literal : (value : Value) → value.literal.Legible
  | .list items => by
      rw [literal]
      exact Sql.legible_listed (Value.legible_itemLiterals items)
  | .null => (Value.exists_writtenAs rfl).choose_spec.legible
  | .bool _ => (Value.exists_writtenAs rfl).choose_spec.legible
  | .int _ => (Value.exists_writtenAs rfl).choose_spec.legible
  | .float _ => (Value.exists_writtenAs rfl).choose_spec.legible
  | .text _ => (Value.exists_writtenAs rfl).choose_spec.legible

theorem Value.legible_itemLiterals :
    (items : List Value) → ∀ part ∈ itemLiterals items, part.Legible
  | [] => by simp [itemLiterals]
  | item :: rest => by
      rw [itemLiterals, List.forall_mem_cons]
      exact ⟨Value.legible_literal item, Value.legible_itemLiterals rest⟩

end

theorem Column.legible_typeSql (column : Column) : column.typeSql.Legible := by
  have keyword : (Sql.word column.type.keyword).Legible := by
    apply Sql.legible_word
    cases column.type <;> decide
  have sized : (Sql.word column.type.keyword ++ column.size.sql).Legible := by
    cases column.size with
    | none => simpa [TypeSize.sql] using keyword
    | length size => exact keyword.append_enclosed (Sql.legible_natural size)
    | decimal precision scale =>
        -- No space stands behind the comma, which ends the precision all the same.
        have places : (Sql.symbol "," ++ Sql.natural scale).Legible :=
          Sql.legible_mark (by decide) (Sql.legible_natural scale)
        have both := (Sql.legible_natural precision).append places
          (Sql.delimited_cons _ (by decide))
        exact keyword.append_enclosed (by simpa using both)
  have unsigned : (Sql.word "UNSIGNED").Legible := Sql.legible_word (by decide)
  unfold typeSql
  dsimp only
  split
  · apply Sql.legible_spaced
    simp [sized, unsigned]
  · exact sized

theorem Column.legible_definition (name : String) (column : Column) :
    (column.definition name).Legible := by
  have notNull : (Sql.words ["NOT", "NULL"]).Legible := Sql.legible_words (by decide)
  have default : (Sql.word "DEFAULT").Legible := Sql.legible_word (by decide)
  have autoIncrement : (Sql.word "AUTO_INCREMENT").Legible := Sql.legible_word (by decide)
  apply Sql.legible_spaced
  simp only [List.forall_mem_append, List.forall_mem_cons]
  refine ⟨⟨⟨⟨Sql.legible_identifier name, column.legible_typeSql, by simp⟩, ?_⟩, ?_⟩, ?_⟩
  · split <;> simp [notNull]
  · split <;> simp [default, Value.legible_literal]
  · split <;> simp [autoIncrement]

theorem ReferentialAction.legible_keywords (action : ReferentialAction) :
    (Sql.words action.keywords).Legible := by
  apply Sql.legible_words
  cases action <;> decide

theorem ReferenceTarget.legible_constraint (name : String) (target : ReferenceTarget) :
    (target.constraint name).Legible := by
  have constraint : (Sql.word "CONSTRAINT").Legible := Sql.legible_word (by decide)
  have foreignKey : (Sql.words ["FOREIGN", "KEY"]).Legible := Sql.legible_words (by decide)
  have references : (Sql.word "REFERENCES").Legible := Sql.legible_word (by decide)
  have onDelete : (Sql.words ["ON", "DELETE"]).Legible := Sql.legible_words (by decide)
  have onUpdate : (Sql.words ["ON", "UPDATE"]).Legible := Sql.legible_words (by decide)
  apply Sql.legible_spaced
  simp only [List.forall_mem_append]
  refine ⟨⟨?_, ?_⟩, ?_⟩
  · simp [constraint, foreignKey, references, Sql.legible_identifier, Sql.legible_enclosed]
  · split <;> simp [onDelete, ReferentialAction.legible_keywords]
  · split <;> simp [onUpdate, ReferentialAction.legible_keywords]

theorem Operation.legible_clause (operation : Operation) : operation.clause.Legible := by
  have add : (Sql.word "ADD").Legible := Sql.legible_word (by decide)
  cases operation with
  | dropPrimaryKey => exact Sql.legible_words (by decide)
  | addPrimaryKey fields =>
      apply Sql.legible_spaced
      simp [add, Sql.legible_primaryKey]
  | addUniqueIndex name =>
      apply Sql.legible_spaced
      simp [add, Sql.legible_uniqueIndex]
  | addForeignKey name target =>
      apply Sql.legible_spaced
      simp [add, target.legible_constraint]
  | addColumn name column =>
      apply Sql.legible_phrase (by decide)
      simp [column.legible_definition]
  | changeColumn name column =>
      apply Sql.legible_phrase (by decide)
      simp [Sql.legible_identifier, column.legible_definition]
  | dropColumn name | dropUniqueIndex name | dropForeignKey name =>
      apply Sql.legible_phrase (by decide)
      simp [Sql.legible_identifier]

/-! ## Conditions -/

namespace Filter

theorem tokens_predicateSql? {field : String} {operator : Operator} {operand : Value} {sql : Sql}
    (accepted : Accepted operator operand)
    (written : predicateSql? field operator operand = some sql) :
    sql.tokens = (Filter.predicate field operator operand).outline := by
  cases accepted with
  | choice nonempty scalars =>
      cases written
      simp [outline]
  | bounds lowScalar highScalar =>
      cases written
      simp [outline]
  | scalar notChoice notBounds single =>
      cases operator with
      | oneOf => contradiction
      | between => contradiction
      | equal | notEqual =>
          cases operand with
          | null =>
              cases written
              simp [outline]
          | _ =>
              cases written
              simp [outline]
      | like | greater | less | atLeast | atMost =>
          cases written
          simp [outline]

private theorem tokens_group {combinator : Combinator} {members : List Filter} {parts : List Sql}
    (written : List.Forall₂ (fun member part => Sql.tokens part = member.outline) members parts) :
    (Sql.enclosed ((joint combinator).intercalate parts)).tokens =
      (Filter.group combinator members).outline := by
  have same : parts.map Sql.tokens = memberOutlines members := by
    induction written with
    | nil => rfl
    | cons first _ inductionHypothesis =>
        rw [List.map_cons, first, inductionHypothesis, memberOutlines]
  rw [Sql.tokens_enclosed, Sql.tokens_intercalate, same, outline]
  rfl

/-- The condition of an accepted filter has the tokens of its outline. -/
theorem tokens_toSql? {table : Table} (filter : Filter) (checked : check table filter = .ok ())
    {sql : Sql} (written : toSql? filter = some sql) : sql.tokens = filter.outline :=
  written_induction (motive := fun filter sql => sql.tokens = filter.outline)
    tokens_predicateSql? (fun written _ => tokens_group written) filter checked written

theorem tokens_of_render {table : Table} {filter : Filter} {sql : Sql}
    (rendered : filter.render table = .ok sql) : sql.tokens = filter.outline := by
  obtain ⟨checked, written⟩ := render_eq_ok_iff.1 rendered
  exact tokens_toSql? filter checked written

theorem legible_of_render {table : Table} {filter : Filter} {sql : Sql}
    (rendered : filter.render table = .ok sql) : sql.Legible := by
  obtain ⟨checked, written⟩ := render_eq_ok_iff.1 rendered
  exact (reads_toSql? filter checked written).legible

end Filter

/-! ## Statements -/

namespace Statement

theorem tokens_rowSql (row : Row) :
    ((rowSql row).map Sql.tokens).flatten = Sql.Outline.row row := by
  simp [rowSql, Sql.Outline.row, Function.comp_def]

theorem tokens_returningSql (returning : Bool) :
    ((returningSql returning).map Sql.tokens).flatten = Sql.Outline.returning returning := by
  cases returning <;> simp [returningSql, Sql.Outline.returning]

theorem legible_rowSql (row : Row) : ∀ part ∈ rowSql row, part.Legible := by
  have values : (Sql.word "VALUES").Legible := Sql.legible_word (by decide)
  have literals : (Sql.listed (row.map fun entry => entry.2.literal)).Legible := by
    apply Sql.legible_listed
    intro part member
    obtain ⟨entry, _, rfl⟩ := List.mem_map.1 member
    exact entry.2.legible_literal
  simp [rowSql, values, Sql.legible_enclosed, Sql.legible_identifiers, literals]

theorem legible_returningSql (returning : Bool) :
    ∀ part ∈ returningSql returning, part.Legible := by
  cases returning with
  | false => simp [returningSql]
  | true =>
      have keyword : (Sql.word "RETURNING").Legible := Sql.legible_word (by decide)
      have columns : (Sql.symbol "*").Legible := Sql.legible_symbol (by decide)
      have clause : (Sql.spaced [Sql.word "RETURNING", Sql.symbol "*"]).Legible :=
        Sql.legible_spaced (by simp [keyword, columns])
      simpa [returningSql] using clause

theorem legible_assignment (name : String) {value : Sql} (legible : value.Legible) :
    (Sql.spaced [Sql.identifier name, Sql.symbol "=", value]).Legible := by
  have mark : (Sql.symbol "=").Legible := Sql.legible_symbol (by decide)
  apply Sql.legible_spaced
  simp [Sql.legible_identifier, mark, legible]

theorem legible_create (creation : Creation) : (Statement.create creation).sql.Legible := by
  have parts : Sql.Legible (Sql.listed
      (creation.columns.map (fun entry => entry.2.definition entry.1) ++
        (if creation.primaryKey.isEmpty then [] else [Sql.primaryKey creation.primaryKey]) ++
        creation.unique.map Sql.uniqueIndex ++
        creation.foreignKeys.map fun entry => entry.2.constraint entry.1)) := by
    apply Sql.legible_listed
    simp only [List.forall_mem_append, List.forall_mem_map]
    refine ⟨⟨⟨?_, ?_⟩, ?_⟩, ?_⟩
    · exact fun entry _ => entry.2.legible_definition entry.1
    · split <;> simp [Sql.legible_primaryKey]
    · exact fun name _ => Sql.legible_uniqueIndex name
    · exact fun entry _ => entry.2.legible_constraint entry.1
  apply Sql.legible_phrase (by decide)
  simp only [List.forall_mem_cons]
  exact ⟨Sql.legible_identifier creation.name, Sql.legible_enclosed parts, by simp⟩

theorem legible_alter (table : String) (operations : List Operation) :
    (Statement.alter table operations).sql.Legible := by
  have clauses : (Sql.listed (operations.map Operation.clause)).Legible := by
    apply Sql.legible_listed
    rw [List.forall_mem_map]
    exact fun operation _ => operation.legible_clause
  apply Sql.legible_phrase (by decide)
  simp [Sql.legible_identifier, clauses]

theorem legible_select (table : String) (fields : Option (List String)) {condition : Option Sql}
    (legible : ∀ sql ∈ condition, sql.Legible) (limit : Option Nat) :
    (Statement.select table fields condition limit).sql.Legible := by
  have selectWord : (Sql.word "SELECT").Legible := Sql.legible_word (by decide)
  have fromWord : (Sql.word "FROM").Legible := Sql.legible_word (by decide)
  have whereWord : (Sql.word "WHERE").Legible := Sql.legible_word (by decide)
  have limitWord : (Sql.word "LIMIT").Legible := Sql.legible_word (by decide)
  have everything : (Sql.symbol "*").Legible := Sql.legible_symbol (by decide)
  apply Sql.legible_spaced
  simp only [List.forall_mem_append, List.forall_mem_cons]
  refine ⟨⟨⟨selectWord, ?_, fromWord, Sql.legible_identifier table, by simp⟩, ?_⟩, ?_⟩
  · split <;> simp [everything, Sql.legible_identifiers]
  · cases condition with
    | none => simp
    | some sql => simpa [whereWord] using legible
  · split <;> simp [limitWord, Sql.legible_natural]

theorem legible_insert (table : String) (row : Row) (returning : Bool) :
    (Statement.insert table row returning).sql.Legible := by
  have verb : (Sql.words ["INSERT", "INTO"]).Legible := Sql.legible_words (by decide)
  apply Sql.legible_spaced
  simp only [List.forall_mem_append, List.forall_mem_cons]
  exact ⟨⟨⟨verb, Sql.legible_identifier table, by simp⟩, legible_rowSql row⟩,
    legible_returningSql returning⟩

theorem legible_upsert (table : String) (row : Row) (updated : List String) (returning : Bool) :
    (Statement.upsert table row updated returning).sql.Legible := by
  have onDuplicate : (Sql.words ["ON", "DUPLICATE", "KEY", "UPDATE"]).Legible :=
    Sql.legible_words (by decide)
  have copies : Sql.Legible (Sql.listed (updated.map fun name => Sql.spaced
      [Sql.identifier name, Sql.symbol "=",
        Sql.word "VALUES" ++ Sql.enclosed (Sql.identifier name)])) := by
    have values : (Sql.word "VALUES").Legible := Sql.legible_word (by decide)
    apply Sql.legible_listed
    rw [List.forall_mem_map]
    intro name _
    exact legible_assignment name (values.append_enclosed (Sql.legible_identifier name))
  apply Sql.legible_spaced
  simp only [List.forall_mem_append, List.forall_mem_cons]
  refine ⟨⟨⟨⟨?_, Sql.legible_identifier table, by simp⟩, legible_rowSql row⟩, ?_⟩,
    legible_returningSql returning⟩
  · split <;> exact Sql.legible_words (by decide)
  · split <;> simp [onDuplicate, copies]

theorem legible_update (table : String) (assignments : Row) {condition : Sql}
    (legible : condition.Legible) : (Statement.update table assignments condition).sql.Legible := by
  have updateWord : (Sql.word "UPDATE").Legible := Sql.legible_word (by decide)
  have setWord : (Sql.word "SET").Legible := Sql.legible_word (by decide)
  have whereWord : (Sql.word "WHERE").Legible := Sql.legible_word (by decide)
  have clauses : (Sql.listed (assignments.map fun entry =>
      Sql.spaced [Sql.identifier entry.1, Sql.symbol "=", entry.2.literal])).Legible := by
    apply Sql.legible_listed
    rw [List.forall_mem_map]
    exact fun entry _ => legible_assignment entry.1 entry.2.legible_literal
  apply Sql.legible_spaced
  simp [updateWord, setWord, whereWord, Sql.legible_identifier, clauses, legible]

theorem legible_delete (table : String) {condition : Sql} (legible : condition.Legible) :
    (Statement.delete table condition).sql.Legible := by
  have whereWord : (Sql.word "WHERE").Legible := Sql.legible_word (by decide)
  apply Sql.legible_phrase (by decide)
  simp [whereWord, Sql.legible_identifier, legible]

end Statement

namespace Draft

/-- A statement has the tokens of the outline of its draft. -/
theorem tokens_write {declared : Table} {draft : Draft} {statement : Statement}
    (written : draft.write declared = .ok statement) :
    statement.sql.tokens = draft.outline := by
  cases draft with
  | create creation =>
      cases written
      cases primaryKey : creation.primaryKey <;>
        simp [Statement.sql, outline, Creation.parts, Function.comp_def, primaryKey]
  | alter table operations =>
      cases written
      simp [Statement.sql, outline, Function.comp_def]
  | select table fields filter limit =>
      cases filter with
      | none =>
          cases written
          cases fields <;> cases limit <;> simp [Statement.sql, outline]
      | some filter =>
          obtain ⟨sql, rendered, rfl⟩ := map_eq_ok_iff.1 written
          have same := Filter.tokens_of_render rendered
          cases fields <;> cases limit <;> simp [Statement.sql, outline, same]
  | insert table row returning =>
      cases written
      simp [Statement.sql, outline, ← Statement.tokens_rowSql, ← Statement.tokens_returningSql]
  | upsert table row updated returning =>
      cases written
      cases updated <;>
        simp [Statement.sql, outline, Function.comp_def, ← Statement.tokens_rowSql,
          ← Statement.tokens_returningSql]
  | update table assignments filter =>
      obtain ⟨sql, rendered, rfl⟩ := map_eq_ok_iff.1 written
      have same := Filter.tokens_of_render rendered
      simp [Statement.sql, outline, same, Function.comp_def]
  | delete table filter =>
      obtain ⟨sql, rendered, rfl⟩ := map_eq_ok_iff.1 written
      have same := Filter.tokens_of_render rendered
      simp [Statement.sql, outline, same, Sql.Outline.words]

/-- A server can tell the tokens of a statement apart. -/
theorem legible_write {declared : Table} {draft : Draft} {statement : Statement}
    (written : draft.write declared = .ok statement) : statement.sql.Legible := by
  cases draft with
  | create creation =>
      cases written
      exact Statement.legible_create creation
  | alter table operations =>
      cases written
      exact Statement.legible_alter table operations
  | select table fields filter limit =>
      cases filter with
      | none =>
          cases written
          exact Statement.legible_select table fields (by simp) limit
      | some filter =>
          obtain ⟨sql, rendered, rfl⟩ := map_eq_ok_iff.1 written
          have condition := Filter.legible_of_render rendered
          exact Statement.legible_select table fields (by simpa using condition) limit
  | insert table row returning =>
      cases written
      exact Statement.legible_insert table row returning
  | upsert table row updated returning =>
      cases written
      exact Statement.legible_upsert table row updated returning
  | update table assignments filter =>
      obtain ⟨sql, rendered, rfl⟩ := map_eq_ok_iff.1 written
      exact Statement.legible_update table assignments (Filter.legible_of_render rendered)
  | delete table filter =>
      obtain ⟨sql, rendered, rfl⟩ := map_eq_ok_iff.1 written
      exact Statement.legible_delete table (Filter.legible_of_render rendered)

end Draft

/-! ## Kinds and shapes -/

namespace Sql.Outline

def kinds (outline : Outline) : List TokenKind :=
  outline.map Token.kind

@[simp] theorem kinds_nil : kinds [] = [] := rfl

@[simp] theorem kinds_cons (token : Token) (rest : Outline) :
    kinds (token :: rest) = token.kind :: kinds rest :=
  rfl

@[simp] theorem kinds_append (left right : Outline) :
    kinds (left ++ right) = kinds left ++ kinds right :=
  List.map_append

theorem kinds_intercalate (separator : Outline) (parts : List Outline) :
    kinds (separator.intercalate parts) = separator.kinds.intercalate (parts.map kinds) := by
  induction parts with
  | nil => simp
  | cons part others inductionHypothesis =>
      cases others with
      | nil => simp
      | cons next others =>
          rw [List.intercalate_cons_cons, List.map_cons, List.map_cons,
            List.intercalate_cons_cons, kinds_append, kinds_append, inductionHypothesis,
            List.map_cons]

theorem kinds_listed (parts : List Outline) :
    kinds (listed parts) = [TokenKind.symbol ","].intercalate (parts.map kinds) :=
  kinds_intercalate _ parts

@[simp] theorem kinds_enclosed (part : Outline) :
    kinds (enclosed part) = .symbol "(" :: part.kinds ++ [.symbol ")"] := by
  simp [enclosed]

@[simp] theorem kinds_names (names : List String) :
    kinds (Outline.names (nameShapes names)) = kinds (Outline.names names) := by
  simp [Outline.names, kinds_listed, nameShapes, Function.comp_def]

end Sql.Outline

open Sql.Outline

mutual

@[simp] theorem Value.kinds_shape : (value : Value) → value.shape.outline.kinds = value.outline.kinds
  | .null => rfl
  | .bool _ => rfl
  | .int _ => rfl
  | .float value => by
      have zero : (Binary64.zero false).isFinite = true := rfl
      have nan : Binary64.nan.isFinite = false := rfl
      rw [shape, outline, outline]
      cases finite : value.isFinite <;> simp [zero, nan]
  | .text _ => rfl
  | .list items => by
      rw [shape, outline, outline, kinds_listed, kinds_listed, Value.kinds_itemShapes]

theorem Value.kinds_itemShapes : (items : List Value) →
    (itemOutlines (itemShapes items)).map kinds = (itemOutlines items).map kinds
  | [] => rfl
  | item :: rest => by
      rw [itemShapes, itemOutlines, itemOutlines, List.map_cons, List.map_cons, Value.kinds_shape,
        Value.kinds_itemShapes]

end

namespace Filter

theorem kinds_predicate_shape (field : String) (operator : Operator) (operand : Value) :
    (Filter.predicate field operator operand).shape.outline.kinds =
      (Filter.predicate field operator operand).outline.kinds := by
  have said : ∀ mark, [Sql.TokenKind.identifier, mark] ++ operand.shape.outline.kinds =
      [.identifier, mark] ++ operand.outline.kinds := by
    intro mark
    rw [operand.kinds_shape]
  rw [shape]
  cases operator with
  | equal | notEqual =>
      -- Null is its own shape and the only operand that is not written.
      cases operand with
      | null => rfl
      | _ => exact said _
  | between =>
      cases operand with
      | list items =>
          rcases items with _ | ⟨low, _ | ⟨high, _ | ⟨third, rest⟩⟩⟩
          · exact said _
          · exact said _
          · simp [Value.shape, Value.itemShapes, outline]
          · exact said _
      | _ => exact said _
  | like | oneOf | greater | less | atLeast | atMost => simp [outline]

mutual

@[simp] theorem kinds_shape : (filter : Filter) → filter.shape.outline.kinds = filter.outline.kinds
  | .predicate field operator operand => kinds_predicate_shape field operator operand
  | .group combinator members => by
      rw [shape, outline, outline, kinds_enclosed, kinds_enclosed, kinds_intercalate,
        kinds_intercalate, kinds_memberShapes]

theorem kinds_memberShapes : (members : List Filter) →
    (memberOutlines (memberShapes members)).map kinds = (memberOutlines members).map kinds
  | [] => rfl
  | member :: rest => by
      rw [memberShapes, memberOutlines, memberOutlines, List.map_cons, List.map_cons, kinds_shape,
        kinds_memberShapes]

end

end Filter

theorem Column.kinds_shape (name : String) (column : Column) :
    (column.shape.outline "").kinds = (column.outline name).kinds := by
  unfold outline shape
  cases column.default <;> simp [Sql.Token.kind]

theorem ReferenceTarget.kinds_shape (name : String) (target : ReferenceTarget) :
    (target.shape.outline "").kinds = (target.outline name).kinds := by
  simp [outline, shape]

namespace Sql.Outline

@[simp] theorem kinds_primaryKey (names : List String) :
    (primaryKey (nameShapes names)).kinds = (primaryKey names).kinds := by
  simp [primaryKey]

theorem kinds_uniqueIndex (name : String) :
    (uniqueIndex "").kinds = (uniqueIndex name).kinds := by
  simp [uniqueIndex]

@[simp] theorem kinds_row (entries : Row) :
    (row (Row.shape entries)).kinds = (row entries).kinds := by
  have names : (Row.shape entries).map (·.1) = nameShapes (entries.map (·.1)) := by
    simp [Row.shape, nameShapes]
  rw [row, row, names]
  simp [kinds_listed, Row.shape, Function.comp_def]

end Sql.Outline

theorem Operation.kinds_shape (operation : Operation) :
    operation.shape.outline.kinds = operation.outline.kinds := by
  cases operation with
  | addColumn name column | changeColumn name column =>
      simp [shape, outline, column.kinds_shape name]
  | addUniqueIndex name => simp [shape, outline, kinds_uniqueIndex name]
  | addForeignKey name target => simp [shape, outline, target.kinds_shape name]
  | _ => simp [shape, outline]

theorem Creation.kinds_shape (creation : Creation) :
    creation.shape.parts.map kinds = creation.parts.map kinds := by
  have columns : (creation.shape.columns.map fun entry => entry.2.outline entry.1).map kinds =
      (creation.columns.map fun entry => entry.2.outline entry.1).map kinds := by
    simp only [shape, List.map_map]
    exact List.map_congr_left fun entry _ => entry.2.kinds_shape entry.1
  have primaryKey : (if creation.shape.primaryKey.isEmpty then []
      else [Sql.Outline.primaryKey creation.shape.primaryKey]).map kinds =
        (if creation.primaryKey.isEmpty then []
          else [Sql.Outline.primaryKey creation.primaryKey]).map kinds := by
    have same : creation.shape.primaryKey.isEmpty = creation.primaryKey.isEmpty :=
      List.isEmpty_map
    rw [same]
    split <;> simp [shape]
  have unique : (creation.shape.unique.map uniqueIndex).map kinds =
      (creation.unique.map uniqueIndex).map kinds := by
    simp only [shape, Sql.nameShapes, List.map_map]
    exact List.map_congr_left fun name _ => kinds_uniqueIndex name
  have foreignKeys : (creation.shape.foreignKeys.map fun entry => entry.2.outline entry.1).map
      kinds = (creation.foreignKeys.map fun entry => entry.2.outline entry.1).map kinds := by
    simp only [shape, List.map_map]
    exact List.map_congr_left fun entry _ => entry.2.kinds_shape entry.1
  rw [parts, parts]
  simp only [List.map_append, columns, primaryKey, unique, foreignKeys]

/-- The shape of a draft decides which kinds of tokens its statement has. -/
theorem Draft.kinds_shape (draft : Draft) : draft.shape.outline.kinds = draft.outline.kinds := by
  cases draft with
  | create creation =>
      have parts := creation.kinds_shape
      simp only [shape, outline, kinds_append, kinds_enclosed, kinds_listed, parts]
      rfl
  | alter table operations =>
      have clauses : operations.map (kinds ∘ Operation.outline ∘ Operation.shape) =
          operations.map (kinds ∘ Operation.outline) :=
        List.map_congr_left fun operation _ => operation.kinds_shape
      simp [shape, outline, kinds_listed, clauses]
  | select table fields filter limit =>
      cases fields <;> cases filter <;> cases limit <;> simp [shape, outline]
  | insert table row returning => simp [shape, outline]
  | upsert table row updated returning =>
      cases updated with
      | nil => simp [shape, outline, Sql.nameShapes]
      | cons first others =>
          simp [shape, outline, kinds_listed, Sql.nameShapes, Function.comp_def]
  | update table assignments filter =>
      simp [shape, outline, kinds_listed, Row.shape, Function.comp_def]
  | delete table filter => simp [shape, outline]

namespace Draft

/-! ## Reading statements -/

private theorem readTokens_of_write {declared : Table} {draft : Draft} {statement : Statement}
    (written : draft.write declared = .ok statement) :
    Sql.readTokens statement.text.toList = some draft.outline := by
  have read := (legible_write written).readTokens_text
  rw [tokens_write written] at read
  exact read

/-- The text of a statement is read as the tokens that were meant, each name, text and
number in its place. Statements of the same shape are read as the same kinds of tokens,
whatever names, texts and numbers they hold. -/
theorem statement_reads_as_outline {declared : Table} {draft : Draft} {statement : Statement}
    (written : draft.write declared = .ok statement) :
    Sql.readTokens statement.text.toList = some draft.outline ∧
      ∀ (otherDeclared : Table) (other : Draft) (otherStatement : Statement),
        other.write otherDeclared = .ok otherStatement → other.shape = draft.shape →
          (Sql.readTokens otherStatement.text.toList).map kinds =
            (Sql.readTokens statement.text.toList).map kinds := by
  have read := readTokens_of_write written
  refine ⟨read, ?_⟩
  intro otherDeclared other otherStatement otherWritten sameShape
  have sameKinds : other.outline.kinds = draft.outline.kinds := by
    rw [← other.kinds_shape, sameShape, draft.kinds_shape]
  rw [read, readTokens_of_write otherWritten, Option.map_some, Option.map_some, sameKinds]

/-- A change whose names and texts look like statements of their own. -/
def hostile : Draft :=
  .update "notes`; DROP TABLE `users" [("rank` = 1, `code", .text "' WHERE TRUE -- \\")]
    (.predicate "a`b" .equal (.text "' OR '1' = '1"))

/-- A change of the same shape. -/
def harmless : Draft :=
  .update "notes" [("code", .text "x")] (.predicate "a`b" .equal (.text ""))

/-- The names and texts of that change stay inside their tokens. -/
theorem hostile_reads_as_outline :
    ∃ statement plain,
      hostile.write Filter.notes = .ok statement ∧
      harmless.write Filter.notes = .ok plain ∧
      harmless.shape = hostile.shape ∧
      Sql.readTokens statement.text.toList = some [
        .word "UPDATE", .identifier "notes`; DROP TABLE `users", .word "SET",
        .identifier "rank` = 1, `code", .symbol "=", .string "' WHERE TRUE -- \\",
        .word "WHERE", .identifier "a`b", .symbol "=", .string "' OR '1' = '1"] ∧
      (Sql.readTokens plain.text.toList).map kinds =
        (Sql.readTokens statement.text.toList).map kinds := by
  have rendered : ∀ text, ∃ sql,
      (Filter.predicate "a`b" .equal (.text text)).render Filter.notes = .ok sql :=
    fun _ => ⟨_, Filter.render_eq_ok_iff.2 ⟨rfl, rfl⟩⟩
  obtain ⟨sql, condition⟩ := rendered "' OR '1' = '1"
  obtain ⟨plainSql, plainCondition⟩ := rendered ""
  have written : hostile.write Filter.notes = .ok (.update _ _ sql) :=
    map_eq_ok_iff.2 ⟨sql, condition, rfl⟩
  have plainWritten : harmless.write Filter.notes = .ok (.update _ _ plainSql) :=
    map_eq_ok_iff.2 ⟨plainSql, plainCondition, rfl⟩
  obtain ⟨read, alike⟩ := statement_reads_as_outline written
  exact ⟨_, _, written, plainWritten, rfl, read, alike _ _ _ plainWritten rfl⟩

end Draft

end SchemaKeeper
