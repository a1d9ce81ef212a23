import Mathlib.Data.List.Forall2
import SchemaKeeper.Filter.Reading
import SchemaKeeper.Proofs.FilterNodes
import SchemaKeeper.Proofs.Legibility

/-!
Contract: a written filter is read as the form of that filter.

The values of an accepted predicate are scalars, each written as one token, so a
predicate is read up to the token behind it. A group is read member by member while it
stays open. Filters of different forms therefore never have the same text.

Owns: tokens of literals, accepted predicates, and reading predicates and groups.

Does not own: taking text apart into tokens (`Legibility`).
-/

namespace SchemaKeeper

/-! ## Numbers -/

theorem Decimal.isMagnitude_positional (number : Decimal) :
    Sql.IsMagnitude number.positional := by
  have isDigit : ∀ character ∈ digitChars number.digits, character.isDigit = true :=
    fun character member => Nat.isDigit_of_mem_toDigits (by decide) (by decide) member
  have nonempty : digitChars number.digits ≠ [] := Nat.toDigits_ne_nil
  have zeros : ∀ count, ∀ character ∈ List.replicate count '0', character.isDigit = true := by
    intro count character member
    rw [List.eq_of_mem_replicate member]
    decide
  unfold positional
  dsimp only
  split
  · apply Sql.IsMagnitude.whole
    · simp [nonempty]
    · intro character member
      rcases List.mem_append.1 member with digit | zero
      · exact isDigit character digit
      · exact zeros _ character zero
  · split
    next short =>
      apply Sql.IsMagnitude.pointed
      · intro empty
        have length := congrArg List.length empty
        rw [List.length_take, List.length_nil] at length
        omega
      · exact fun character member => isDigit character (List.mem_of_mem_take member)
      · exact fun character member => isDigit character (List.mem_of_mem_drop member)
    next =>
      apply @Sql.IsMagnitude.pointed ['0']
      · simp
      · simp
      · intro character member
        rcases List.mem_append.1 member with zero | digit
        · exact zeros _ character zero
        · exact isDigit character digit

theorem Value.isNumber_intText (value : Int64) : Sql.IsNumber (intText value).toList := by
  have magnitude : Sql.IsMagnitude (Decimal.digitChars value.toInt.natAbs) := by
    apply Sql.IsMagnitude.whole
    · exact Nat.toDigits_ne_nil
    · exact fun character member => Nat.isDigit_of_mem_toDigits (by decide) (by decide) member
  unfold intText
  dsimp only
  rw [String.toList_ofList]
  split
  · exact .negative magnitude
  · exact .unsigned magnitude

theorem Binary64.isNumber_toText {number : Binary64} (finite : number.isFinite = true) :
    Sql.IsNumber number.toText.toList := by
  cases number with
  | nan => contradiction
  | infinity negative => contradiction
  | finite negative significand shift canonical =>
      rw [toText, String.toList_ofList, textChars, signChars]
      cases negative with
      | true => exact .negative (Decimal.isMagnitude_positional _)
      | false => exact .unsigned (Decimal.isMagnitude_positional _)

/-! ## Literals -/

def Literal.token : Literal → Sql.Token
  | .null => .word "NULL"
  | .bool true => .word "TRUE"
  | .bool false => .word "FALSE"
  | .number text => .number text
  | .string content => .string content

@[simp] theorem Literal.ofToken?_token (literal : Literal) :
    ofToken? literal.token = some literal := by
  cases literal with
  | null => rfl
  | bool value => cases value <;> rfl
  | number text => rfl
  | string content => rfl

namespace Value

/-- A scalar is written as the token of one literal. -/
structure WrittenAs (value : Value) (literal : Literal) : Prop where
  reduced : value.literals = [literal]
  written : value.literal = [.token literal.token]
  wellFormed : literal.token.WellFormed

theorem WrittenAs.legible {value : Value} {literal : Literal} (written : value.WrittenAs literal) :
    value.literal.Legible := by
  rw [written.written]
  exact Sql.legible_token written.wellFormed

theorem exists_writtenAs {value : Value} (scalar : value.isList = false) :
    ∃ literal, value.WrittenAs literal := by
  cases value with
  | null => exact ⟨.null, rfl, rfl, .word (by decide)⟩
  | bool value =>
      cases value with
      | true => exact ⟨.bool true, rfl, rfl, .word (by decide)⟩
      | false => exact ⟨.bool false, rfl, rfl, .word (by decide)⟩
  | int value => exact ⟨.number (intText value), rfl, rfl, .number (isNumber_intText value)⟩
  | float value =>
      by_cases finite : value.isFinite = true
      · refine ⟨.number value.toText, ?_, ?_, .number (Binary64.isNumber_toText finite)⟩
        · rw [Value.literals, if_pos finite]
        · rw [Value.literal, if_pos finite]
          rfl
      · refine ⟨.null, ?_, ?_, .word (by decide)⟩
        · rw [Value.literals, if_neg finite]
        · rw [Value.literal, if_neg finite]
          rfl
  | text value => exact ⟨.string value, rfl, rfl, .string value⟩
  | list items => contradiction

/-- Scalars are written as the tokens of their literals, in order. -/
theorem exists_itemsWrittenAs {items : List Value}
    (scalars : ∀ item ∈ items, item.isList = false) :
    ∃ literals, itemsLiterals items = literals ∧
      itemLiterals items = literals.map (fun literal => [.token literal.token]) ∧
      ∀ literal ∈ literals, literal.token.WellFormed := by
  induction items with
  | nil => exact ⟨[], rfl, rfl, by simp⟩
  | cons item rest inductionHypothesis =>
      obtain ⟨literal, written⟩ := exists_writtenAs (scalars item (by simp))
      obtain ⟨others, same, othersWritten, wellFormed⟩ :=
        inductionHypothesis fun other member => scalars other (List.mem_cons_of_mem item member)
      refine ⟨literal :: others, ?_, ?_, ?_⟩
      · rw [itemsLiterals, written.reduced, same, List.singleton_append]
      · rw [itemLiterals, written.written, othersWritten, List.map_cons]
      · exact List.forall_mem_cons.2 ⟨written.wellFormed, wellFormed⟩

end Value

/-- Literals with commas between them are read up to the closing parenthesis. -/
theorem Form.readLiterals_listed {literals : List Literal} (nonempty : literals ≠ [])
    (rest : List Sql.Token) :
    readLiterals ((Sql.listed (literals.map fun literal => [.token literal.token])).tokens ++
      .symbol ")" :: rest) = some (literals, rest) := by
  induction literals with
  | nil => contradiction
  | cons literal others inductionHypothesis =>
      by_cases last : others = []
      · subst last
        simp [Sql.listed, readLiterals]
      · have separated : Sql.listed ((literal :: others).map fun literal =>
            [.token literal.token]) = .token literal.token :: .token (.symbol ",") :: .space ::
              Sql.listed (others.map fun literal => [.token literal.token]) := by
          rw [List.map_cons, Sql.listed, List.intercalate_cons_of_ne_nil (by simpa using last)]
          rfl
        rw [separated]
        simp [readLiterals, inductionHypothesis last]

namespace Filter

/-! ## Accepted predicates -/

/-- The predicates that tables accept, by the shape of their operand. -/
inductive Accepted : Operator → Value → Prop where
  | choice {items : List Value} (nonempty : items ≠ [])
      (scalars : ∀ item ∈ items, item.isList = false) : Accepted .oneOf (.list items)
  | bounds {low high : Value} (lowScalar : low.isList = false)
      (highScalar : high.isList = false) : Accepted .between (.list [low, high])
  | scalar {operator : Operator} {operand : Value} (notChoice : operator ≠ .oneOf)
      (notBounds : operator ≠ .between) (single : operand.isList = false) :
      Accepted operator operand

theorem Fits.accepted {table : Table} {field : String} {operator : Operator} {operand : Value}
    (fits : Fits table field operator operand) : Accepted operator operand := by
  cases fits with
  | choice nonempty accepted =>
      exact .choice nonempty fun item listed => isList_of_checkValue (accepted item listed)
  | bounds lowAccepted highAccepted =>
      exact .bounds (isList_of_checkValue lowAccepted) (isList_of_checkValue highAccepted)
  | single notChoice notBounds scalar _ => exact .scalar notChoice notBounds scalar

/-! ## Reading predicates -/

/-- A piece of SQL is legible and is read as a filter's form, whatever groups are open
and whatever follows. -/
structure Reads (filter : Filter) (sql : Sql) : Prop where
  legible : sql.Legible
  read : ∀ opened rest, Form.readInside opened (sql.tokens ++ rest) =
    Form.readBehind opened filter.form rest

private theorem readInside_identifier {field : String} {behind after : List Sql.Token}
    {form : Form} (read : Form.readPredicate field behind = some (form, after))
    (opened : List Form.OpenGroup) :
    Form.readInside opened (.identifier field :: behind) =
      Form.readBehind opened form after := by
  rw [Form.readInside]
  split
  next failed =>
    rw [read] at failed
    contradiction
  next found =>
    rw [read] at found
    cases found
    rfl

/-- A name and what is said of it. -/
private theorem reads_said {filter : Filter} {field : String} {said : List Sql}
    (legible : ∀ part ∈ said, part.Legible) (nonempty : said ≠ [])
    (read : ∀ rest, Form.readPredicate field ((Sql.spaced said).tokens ++ rest) =
      some (filter.form, rest)) :
    filter.Reads (Sql.spaced (Sql.identifier field :: said)) where
  legible := Sql.legible_spaced
    (List.forall_mem_cons.2 ⟨Sql.legible_token (.identifier field), legible⟩)
  read := by
    intro opened rest
    have tokens : (Sql.spaced (Sql.identifier field :: said)).tokens =
        .identifier field :: (Sql.spaced said).tokens := by
      rw [Sql.spaced, List.intercalate_cons_of_ne_nil nonempty]
      rfl
    rw [tokens, List.cons_append, readInside_identifier (read rest)]

private theorem reads_comparison {filter : Filter} {field : String} {operator : Operator}
    {operand : Value} (single : operand.isList = false)
    (known : Form.comparisonOf? operator.sql = some operator) (mark : operator.sql ∈ Sql.marks)
    (formed : filter.form = .predicate field operator operand.literals) :
    filter.Reads (Sql.spaced [Sql.identifier field, Sql.symbol operator.sql, operand.literal]) := by
  obtain ⟨literal, written⟩ := Value.exists_writtenAs single
  apply reads_said
  · simp [written.legible, Sql.symbol, Sql.legible_token (.symbol mark)]
  · simp
  · intro rest
    rw [formed, written.written, written.reduced]
    simp [Sql.spaced, List.intercalate, Sql.symbol, Form.readPredicate, known]

private theorem reads_words {filter : Filter} {field : String} {texts : List String}
    (keywords : ∀ text ∈ texts, Sql.isKeyword text.toList = true)
    (read : ∀ rest, Form.readPredicate field ((Sql.words texts).tokens ++ rest) =
      some (filter.form, rest)) :
    filter.Reads (Sql.spaced [Sql.identifier field, Sql.words texts]) := by
  apply reads_said
  · simpa using Sql.legible_words keywords
  · simp
  · intro rest
    rw [Sql.spaced, List.intercalate_singleton, read rest]

private theorem reads_choice {field : String} {items : List Value} (nonempty : items ≠ [])
    (scalars : ∀ item ∈ items, item.isList = false) :
    (Filter.predicate field .oneOf (.list items)).Reads (Sql.spaced
      [Sql.identifier field, Sql.word "IN", Sql.enclosed (Value.list items).literal]) := by
  obtain ⟨literals, reduced, listed, wellFormed⟩ := Value.exists_itemsWrittenAs scalars
  have present : literals ≠ [] := by
    rintro rfl
    cases items with
    | nil => contradiction
    | cons item rest => contradiction
  have operands : Sql.Legible (Sql.listed (literals.map fun literal =>
      [.token literal.token])) := by
    apply Sql.legible_listed
    intro part member
    obtain ⟨literal, literalMember, rfl⟩ := List.mem_map.1 member
    exact Sql.legible_token (wellFormed literal literalMember)
  have keyword : (Sql.word "IN").Legible := Sql.legible_word (by decide)
  rw [Value.literal, listed]
  apply reads_said
  · simp [Sql.legible_enclosed operands, keyword]
  · simp
  · intro rest
    have read := Form.readLiterals_listed present rest
    simp [Sql.spaced, List.intercalate, Sql.word, Sql.enclosed, Sql.symbol,
      Form.readPredicate, read, form, Value.literals, reduced]

private theorem reads_bounds {field : String} {low high : Value}
    (lowScalar : low.isList = false) (highScalar : high.isList = false) :
    (Filter.predicate field .between (.list [low, high])).Reads (Sql.spaced
      [Sql.identifier field, Sql.word "BETWEEN", low.literal, Sql.word "AND", high.literal]) := by
  obtain ⟨least, lowWritten⟩ := Value.exists_writtenAs lowScalar
  obtain ⟨greatest, highWritten⟩ := Value.exists_writtenAs highScalar
  have keyword : (Sql.word "BETWEEN").Legible := Sql.legible_word (by decide)
  have between : (Sql.word "AND").Legible := Sql.legible_word (by decide)
  apply reads_said
  · simp [lowWritten.legible, highWritten.legible, keyword, between]
  · simp
  · intro rest
    rw [lowWritten.written, highWritten.written]
    simp [Sql.spaced, List.intercalate, Sql.word, Form.readPredicate, form, Value.literals,
      Value.itemsLiterals, lowWritten.reduced, highWritten.reduced]

private theorem reads_pattern {field : String} {operand : Value}
    (single : operand.isList = false) :
    (Filter.predicate field .like operand).Reads (Sql.spaced
      [Sql.identifier field, Sql.word "LIKE", operand.literal]) := by
  obtain ⟨pattern, written⟩ := Value.exists_writtenAs single
  have keyword : (Sql.word "LIKE").Legible := Sql.legible_word (by decide)
  apply reads_said
  · simp [written.legible, keyword]
  · simp
  · intro rest
    rw [written.written]
    simp [Sql.spaced, List.intercalate, Sql.word, Form.readPredicate, form, written.reduced]

/-- The condition of an accepted predicate is read as its form. -/
theorem reads_predicateSql? {field : String} {operator : Operator} {operand : Value} {sql : Sql}
    (accepted : Accepted operator operand)
    (written : predicateSql? field operator operand = some sql) :
    (Filter.predicate field operator operand).Reads sql := by
  cases accepted with
  | choice nonempty scalars =>
      cases written
      exact reads_choice nonempty scalars
  | bounds lowScalar highScalar =>
      cases written
      exact reads_bounds lowScalar highScalar
  | scalar notChoice notBounds single =>
      cases operator with
      | oneOf => contradiction
      | between => contradiction
      | like =>
          cases written
          exact reads_pattern single
      | greater | less | atLeast | atMost =>
          cases written
          exact reads_comparison single rfl (by decide) rfl
      | equal | notEqual =>
          -- Only a null operand is not written behind the operator.
          cases operand with
          | null =>
              cases written
              exact reads_words (by decide) fun rest => rfl
          | list items => contradiction
          | _ =>
              cases written
              exact reads_comparison single rfl (by decide) rfl

/-! ## Reading groups -/

def joint (combinator : Combinator) : Sql :=
  [.space, .token (.word combinator.sql), .space]

private theorem legible_joint {parts : List Sql} (combinator : Combinator)
    (legible : ∀ part ∈ parts, part.Legible) :
    Sql.Legible ((joint combinator).intercalate parts) := by
  have keyword : Sql.isKeyword combinator.sql.toList = true := by cases combinator <;> decide
  apply Sql.legible_intercalate _ _ legible
  · intro behind
    exact Sql.delimited_cons _ (by decide)
  · intro behind behindLegible
    apply Sql.legible_space
    exact (Sql.legible_word keyword).append (Sql.legible_space behindLegible)
      (Sql.delimited_cons _ (by decide))

/-- What is read behind the members of a group: the first combinator that shows decides
for the group. -/
private theorem readInside_members {combinator : Combinator} {members : List Filter}
    {parts : List Sql} (reads : List.Forall₂ Reads members parts) (nonempty : members ≠ [])
    {innermost : Form.OpenGroup} (agrees : innermost.combinator.all (· = combinator) = true)
    (outer : List Form.OpenGroup) (rest : List Sql.Token) :
    Form.readInside (innermost :: outer)
        (Sql.tokens ((joint combinator).intercalate parts) ++ .symbol ")" :: rest) =
      Form.readBehind outer (.group
        (if members.length = 1 then innermost.combinator else some combinator)
        (innermost.members ++ forms members)) rest := by
  induction reads generalizing innermost with
  | nil => contradiction
  | @cons member part members parts first others inductionHypothesis =>
      cases others with
      | nil =>
          rw [List.intercalate_singleton, first.read, Form.readBehind]
          rfl
      | @cons next nextPart members parts second others =>
          have joined : Sql.tokens ((joint combinator).intercalate (part :: nextPart :: parts)) =
              part.tokens ++ .word combinator.sql ::
                Sql.tokens ((joint combinator).intercalate (nextPart :: parts)) := by
            rw [List.intercalate_cons_cons, Sql.tokens_append, Sql.tokens_append,
              List.append_assoc]
            rfl
          have known : Form.combinatorOf? combinator.sql = some combinator := by
            cases combinator <;> rfl
          have extended : innermost.extend? member.form combinator =
              some ⟨some combinator, innermost.members ++ [member.form]⟩ := if_pos agrees
          have further := @inductionHypothesis (by simp)
            ⟨some combinator, innermost.members ++ [member.form]⟩ (by simp)
          rw [joined, List.append_assoc, first.read, List.cons_append, Form.readBehind, known]
          simp only [bind, Option.bind, extended]
          rw [further]
          simp [forms]

theorem reads_group {combinator : Combinator} {members : List Filter} {parts : List Sql}
    (reads : List.Forall₂ Reads members parts) (nonempty : members ≠ []) :
    (Filter.group combinator members).Reads
      (Sql.enclosed ((joint combinator).intercalate parts)) where
  legible := by
    have legible : ∀ part ∈ parts, part.Legible := by
      clear nonempty
      induction reads with
      | nil => simp
      | cons first _ inductionHypothesis =>
          exact List.forall_mem_cons.2 ⟨first.legible, inductionHypothesis⟩
    exact Sql.legible_enclosed (legible_joint combinator legible)
  read := by
    intro opened rest
    have tokens : (Sql.enclosed ((joint combinator).intercalate parts)).tokens ++ rest =
        .symbol "(" :: (Sql.tokens ((joint combinator).intercalate parts) ++
          .symbol ")" :: rest) := by
      simp [Sql.enclosed, Sql.symbol]
    have opens : (⟨none, []⟩ : Form.OpenGroup).combinator.all (· = combinator) = true := rfl
    rw [tokens, Form.readInside, readInside_members reads nonempty opens opened rest, form]
    rfl

/-! ## Reading filters -/

private theorem forall₂_of_membersToSql? {members : List Filter} {parts : List Sql}
    (written : membersToSql? members = some parts) :
    List.Forall₂ (fun member part => toSql? member = some part) members parts := by
  induction members generalizing parts with
  | nil =>
      cases written
      exact .nil
  | cons member rest inductionHypothesis =>
      rw [membersToSql?] at written
      simp only [bind, Option.bind_eq_some_iff, pure] at written
      obtain ⟨part, memberWritten, others, restWritten, same⟩ := written
      cases same
      exact .cons memberWritten (inductionHypothesis restWritten)

/-- What holds of accepted predicates and passes from members to their group holds of
every accepted filter and its condition. -/
theorem written_induction {table : Table} {motive : Filter → Sql → Prop}
    (predicate : ∀ {field operator operand sql}, Accepted operator operand →
      predicateSql? field operator operand = some sql →
        motive (.predicate field operator operand) sql)
    (group : ∀ {combinator members parts}, List.Forall₂ motive members parts → members ≠ [] →
      motive (.group combinator members) (Sql.enclosed ((joint combinator).intercalate parts)))
    (filter : Filter) (checked : check table filter = .ok ()) {sql : Sql}
    (written : toSql? filter = some sql) : motive filter sql := by
  induction filter generalizing sql with
  | predicate field operator operand =>
      rw [check] at checked
      rw [toSql?] at written
      exact predicate (checkPredicate_eq_ok_iff.1 checked).2.accepted written
  | group combinator members inductionHypothesis =>
      rw [toSql?, Option.map_eq_some_iff] at written
      obtain ⟨parts, partsWritten, rfl⟩ := written
      cases members with
      | nil => contradiction
      | cons member rest =>
          rw [check] at checked
          have allChecked := checkMembers_eq_ok_iff.1 checked
          have holds : ∀ other ∈ member :: rest,
              ∀ part, toSql? other = some part → motive other part := by
            intro other listed part
            exact inductionHypothesis other listed (allChecked other listed)
          have paired := (List.forall₂_and_left _ _).2
            ⟨holds, forall₂_of_membersToSql? partsWritten⟩
          exact group (paired.imp fun other part both => both.1 part both.2) (by simp)

/-- The condition of an accepted filter is read as its form. -/
theorem reads_toSql? {table : Table} (filter : Filter) (checked : check table filter = .ok ())
    {sql : Sql} (written : toSql? filter = some sql) : filter.Reads sql :=
  written_induction reads_predicateSql? reads_group filter checked written

private theorem ofText?_of_render {table : Table} {filter : Filter} {sql : Sql}
    (rendered : filter.render table = .ok sql) : Form.ofText? sql.text = some filter.form := by
  obtain ⟨checked, written⟩ := render_eq_ok_iff.1 rendered
  have reads := reads_toSql? filter checked written
  have read := reads.read [] []
  rw [List.append_nil, Form.readBehind] at read
  rw [Form.ofText?, reads.legible.readTokens_text]
  exact read

/-- The text of a rendered filter is read, up to its end, as the filter's form. So
filters whose texts are the same have the same form. -/
theorem rendered_text_reads_as_form {table : Table} {filter : Filter} {sql : Sql}
    (rendered : filter.render table = .ok sql) :
    Form.ofText? sql.text = some filter.form ∧
      ∀ (otherTable : Table) (other : Filter) (otherSql : Sql),
        other.render otherTable = .ok otherSql → otherSql.text = sql.text →
          other.form = filter.form := by
  have read := ofText?_of_render rendered
  refine ⟨read, ?_⟩
  intro otherTable other otherSql otherRendered sameText
  have otherRead := ofText?_of_render otherRendered
  rw [sameText, read] at otherRead
  exact (Option.some.inj otherRead).symm

def notes : Table where
  name := "notes"
  fields := [
    ("a`b", { kind := .string, maxSize := some (.ofInt 40) }),
    ("rank", { kind := .signedInt, maxSize := some (.ofInt 100), nullable := true })]
  accepted := by decide +kernel

/-- A filter with an AND of bounds inside an AND of members, a group of one, and marks of
the grammar inside a name and a text. -/
def selection : Filter :=
  .group .and [
    .predicate "a`b" .notEqual (.text "' AND ) \\"),
    .group .or [.between "rank" (.int (-3)) (.int 7), .oneOf "rank" [.int 1, .null]],
    .group .or [.isNull "rank"]]

def selectionText : String :=
  "(`a``b` != '\\' AND ) \\\\' AND (`rank` BETWEEN -3 AND 7 OR `rank` IN (1, NULL)) AND (`rank` IS NULL))"

/-- The form of that filter comes out of its text. -/
theorem selection_reads_as_form :
    ∃ sql, selection.render notes = .ok sql ∧
      sql.text = selectionText ∧
      Form.ofText? sql.text = some (.group (some .and) [
        .predicate "a`b" .notEqual [.string "' AND ) \\"],
        .group (some .or) [
          .predicate "rank" .between [.number "-3", .number "7"],
          .predicate "rank" .oneOf [.number "1", .null]],
        .group none [.isNull "rank"]]) := by
  have checked : check notes selection = .ok () := by decide +kernel
  have written : (toSql? selection).map Sql.text = some selectionText := by decide +kernel
  obtain ⟨sql, sqlWritten, sameText⟩ := Option.map_eq_some_iff.1 written
  have rendered := render_eq_ok_iff.2 ⟨checked, sqlWritten⟩
  exact ⟨sql, rendered, sameText, (rendered_text_reads_as_form rendered).1⟩

end Filter

end SchemaKeeper
