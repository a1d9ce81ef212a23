import SchemaKeeper.Sql.Literal
import SchemaKeeper.Sql.Reading

/-!
Contract: what a server makes of a quoted name or text, whatever stands behind it.

A closing quote ends a name or a text only if it stands alone. In front of everything else the
quoting is undone: the characters inside, special ones included, come back one by one, and the
text behind the closing quote is left untouched.

Owns: reading names and texts back that were quoted, in front of any text.

Does not own: the other tokens, and what delimits them (`Legibility`).
-/

namespace SchemaKeeper.Sql

/-! ## Characters -/

/-- Quoted characters of a name are read one by one, and the reading goes on behind them. -/
theorem readIdentifier_append (name text : List Char) :
    readIdentifier (name.flatMap (fun character =>
      if character = '\x60' then ['\x60', '\x60'] else [character]) ++ text) =
        (readIdentifier text).map fun (read, after) => (name ++ read, after) := by
  induction name with
  | nil => simp
  | cons character name inductionHypothesis =>
      rw [List.flatMap_cons, List.append_assoc]
      by_cases quote : character = '\x60'
      · simp [readIdentifier, quote, inductionHypothesis, Function.comp_def]
      · simp [readIdentifier, quote, inductionHypothesis, Function.comp_def]

/-- An escaped character stands behind a backslash that gives it back, or for itself. -/
private theorem escapeChar_cases (character : Char) :
    (∃ mark, escapeChar character = ['\\', mark] ∧ unescape mark = [character]) ∨
      (escapeChar character = [character] ∧ character ≠ '\'' ∧ character ≠ '\\') := by
  by_cases special : character ∈
      ['\x00', '\'', '"', '\\', '\n', '\r', '\t', '\x08', '\x1a']
  · left
    simp only [List.mem_cons, List.not_mem_nil, or_false] at special
    rcases special with rfl | rfl | rfl | rfl | rfl | rfl | rfl | rfl | rfl <;>
      exact ⟨_, rfl, rfl⟩
  · right
    simp only [List.mem_cons, List.not_mem_nil, or_false, not_or] at special
    simp [escapeChar, special]

/-- Escaped characters of a text are read one by one, and the reading goes on behind them. -/
theorem readString_append (content text : List Char) :
    readString (content.flatMap escapeChar ++ text) =
      (readString text).map fun (read, after) => (content ++ read, after) := by
  induction content with
  | nil => simp
  | cons character content inductionHypothesis =>
      rw [List.flatMap_cons, List.append_assoc]
      rcases escapeChar_cases character with ⟨mark, escaped, undone⟩ | ⟨plain, noQuote, noEscape⟩
      · rw [escaped]
        simp [readString, inductionHypothesis, undone, Function.comp_def]
      · rw [plain]
        simp [readString, inductionHypothesis, noQuote, noEscape, Function.comp_def]

/-! ## Ends -/

/-- A quote closes a name exactly if no second one follows. -/
theorem readIdentifier_closing_iff (rest : List Char) :
    readIdentifier ('\x60' :: rest) = some ([], rest) ↔ rest.head? ≠ some '\x60' := by
  cases rest with
  | nil => simp [readIdentifier]
  | cons character behind =>
      by_cases quote : character = '\x60'
      · subst quote
        simp [readIdentifier]
      · simp [readIdentifier, quote]

/-- A quote closes a text exactly if no second one follows. -/
theorem readString_closing_iff (rest : List Char) :
    readString ('\'' :: rest) = some ([], rest) ↔ rest.head? ≠ some '\'' := by
  cases rest with
  | nil => simp [readString]
  | cons character behind =>
      by_cases quote : character = '\''
      · subst quote
        simp [readString]
      · simp [readString, quote]

/-! ## Quoting -/

/-- A quoted name is read back exactly if no quote follows it. -/
theorem readIdentifier_quoted_iff (name rest : List Char) :
    readIdentifier (name.flatMap (fun character =>
      if character = '\x60' then ['\x60', '\x60'] else [character]) ++ '\x60' :: rest) =
        some (name, rest) ↔ rest.head? ≠ some '\x60' := by
  rw [readIdentifier_append, ← readIdentifier_closing_iff, Option.map_eq_some_iff]
  simp

/-- A quoted text is read back exactly if no quote follows it. -/
theorem readString_quoted_iff (content rest : List Char) :
    readString (content.flatMap escapeChar ++ '\'' :: rest) = some (content, rest) ↔
      rest.head? ≠ some '\'' := by
  rw [readString_append, ← readString_closing_iff, Option.map_eq_some_iff]
  simp

/-- A token with a text of its own is the one that is read exactly if its characters are. -/
private theorem map_ofList_eq_some_iff {token : String → Token} (distinct : token.Injective)
    {read : Option (List Char × List Char)} {content : String} {rest : List Char} :
    (read.map fun (inside, after) => (token (String.ofList inside), after)) =
        some (token content, rest) ↔ read = some (content.toList, rest) := by
  rw [Option.map_eq_some_iff]
  constructor
  · rintro ⟨⟨inside, after⟩, rfl, same⟩
    obtain ⟨tokens, rfl⟩ := Prod.mk.inj same
    rw [← distinct tokens, String.toList_ofList]
  · rintro rfl
    exact ⟨_, rfl, by simp⟩

/-- What a server reads from the literal of a text is the text, and from a quoted name the name,
and it leaves what stands behind. A quote of the same kind behind it is the one exception, since
it would be read as a part of the text or the name. -/
theorem quoting_undone_iff (content : String) (rest : List Char) :
    (readToken ((Value.text content).literal.chars ++ rest) = some (.string content, rest) ↔
        rest.head? ≠ some '\'') ∧
      (readToken ((identifier content).chars ++ rest) = some (.identifier content, rest) ↔
        rest.head? ≠ some '\x60') := by
  have string : readToken ((Value.text content).literal.chars ++ rest) =
      (readString (content.toList.flatMap escapeChar ++ '\'' :: rest)).map
        fun (inside, after) => (.string (String.ofList inside), after) := by
    simp [Value.literal, chars, Piece.chars, Token.chars, quoteString, readToken]
  have name : readToken ((identifier content).chars ++ rest) =
      (readIdentifier (content.toList.flatMap (fun character =>
        if character = '\x60' then ['\x60', '\x60'] else [character]) ++ '\x60' :: rest)).map
          fun (inside, after) => (.identifier (String.ofList inside), after) := by
    simp [identifier, chars, Piece.chars, Token.chars, quoteIdentifier, readToken]
  constructor
  · rw [string, map_ofList_eq_some_iff fun _ _ => Token.string.inj, readString_quoted_iff]
  · rw [name, map_ofList_eq_some_iff fun _ _ => Token.identifier.inj, readIdentifier_quoted_iff]

end SchemaKeeper.Sql
