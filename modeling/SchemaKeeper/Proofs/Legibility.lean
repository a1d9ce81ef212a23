import SchemaKeeper.Filter.Rendering
import SchemaKeeper.Proofs.Quoting
import SchemaKeeper.Proofs.Results

/-!
Contract: written SQL is read as the tokens that it was written from.

Between tokens stand spaces, commas and parentheses, and no token runs on into one of
these. Quoting is undone whatever the name or the text holds. So a piece of SQL is
legible if its parts are, and a server finds the tokens that were meant.

Owns: reading each kind of token in front of a delimiter, and legible pieces.

Does not own: reading quoted names and texts back (`Quoting`), what the tokens say
(`FilterReading`).
-/

namespace SchemaKeeper.Sql

/-! ## Delimiters -/

/-- The characters that end every token. -/
def delimiters : List Char :=
  [' ', ',', '(', ')']

/-- A text is at its end or begins with a delimiter. -/
def Delimited (text : List Char) : Prop :=
  ∀ character ∈ text.head?, character ∈ delimiters

theorem delimited_nil : Delimited [] := by
  intro character first
  contradiction

theorem delimited_cons {character : Char} (rest : List Char)
    (delimiter : character ∈ delimiters) : Delimited (character :: rest) := by
  intro first isFirst
  cases isFirst
  exact delimiter

theorem Delimited.append {text rest : List Char} (textDelimited : Delimited text)
    (restDelimited : Delimited rest) : Delimited (text ++ rest) := by
  cases text with
  | nil => exact restDelimited
  | cons character behind =>
      exact delimited_cons (behind ++ rest) (textDelimited character rfl)

private theorem Delimited.head_ne {character : Char} {rest : List Char}
    (delimited : Delimited (character :: rest)) (mark : Char)
    (other : mark ∉ delimiters) : character ≠ mark := by
  rintro rfl
  exact other (delimited character rfl)

private theorem Delimited.head?_ne {rest : List Char} (delimited : Delimited rest) (mark : Char)
    (other : mark ∉ delimiters) : rest.head? ≠ some mark :=
  fun first => other (delimited mark first)

/-- Characters of one sort end where a delimiter of another sort follows. -/
private theorem span_delimited {accept : Char → Bool}
    (refuses : delimiters.all (fun delimiter => !accept delimiter) = true)
    {text rest : List Char} (accepted : ∀ character ∈ text, accept character = true)
    (delimited : Delimited rest) :
    (text ++ rest).takeWhile accept = text ∧ (text ++ rest).dropWhile accept = rest := by
  refine span_run accepted fun character first => ?_
  have refused := List.all_eq_true.1 refuses character (delimited character first)
  rwa [Bool.not_eq_true'] at refused

/-! ## Numbers -/

/-- Digits, with or without a point and further digits behind them. -/
inductive IsMagnitude : List Char → Prop where
  | whole {digits : List Char} (nonempty : digits ≠ [])
      (allDigits : ∀ character ∈ digits, character.isDigit = true) : IsMagnitude digits
  | pointed {digits places : List Char} (nonempty : digits ≠ [])
      (allDigits : ∀ character ∈ digits, character.isDigit = true)
      (allPlaces : ∀ character ∈ places, character.isDigit = true) :
      IsMagnitude (digits ++ '.' :: places)

inductive IsNumber : List Char → Prop where
  | unsigned {text : List Char} (magnitude : IsMagnitude text) : IsNumber text
  | negative {text : List Char} (magnitude : IsMagnitude text) : IsNumber ('-' :: text)

theorem readNumber_append {text rest : List Char} (magnitude : IsMagnitude text)
    (delimited : Delimited rest) : readNumber (text ++ rest) = (text, rest) := by
  have refuses : delimiters.all (fun delimiter => !delimiter.isDigit) = true := rfl
  cases magnitude with
  | whole nonempty allDigits =>
      obtain ⟨taken, left⟩ := span_delimited refuses allDigits delimited
      unfold readNumber
      rw [taken, left]
      cases rest with
      | nil => rfl
      | cons character behind =>
          have noPoint := delimited.head_ne '.' (by decide)
          simp [noPoint]
  | @pointed digits places nonempty allDigits allPlaces =>
      obtain ⟨taken, left⟩ := span_delimited refuses allPlaces delimited
      unfold readNumber
      rw [List.append_assoc, List.takeWhile_append_of_pos allDigits,
        List.dropWhile_append_of_pos allDigits]
      simp [taken, left]

theorem IsMagnitude.head {text : List Char} (magnitude : IsMagnitude text) :
    ∃ digit rest, text = digit :: rest ∧ digit.isDigit = true := by
  cases magnitude with
  | whole nonempty allDigits =>
      obtain ⟨digit, rest, rfl⟩ := List.exists_cons_of_ne_nil nonempty
      exact ⟨digit, rest, rfl, allDigits digit (by simp)⟩
  | @pointed digits places nonempty allDigits _ =>
      obtain ⟨digit, rest, rfl⟩ := List.exists_cons_of_ne_nil nonempty
      exact ⟨digit, rest ++ '.' :: places, rfl, allDigits digit (by simp)⟩

/-- A character inside words and numbers begins no other token. -/
private theorem readToken_wordChar {character : Char} (isWord : isWordChar character = true)
    (rest : List Char) :
    readToken (character :: rest) =
      if character.isDigit then
        some (.number (String.ofList (readNumber (character :: rest)).1),
          (readNumber (character :: rest)).2)
      else
        some (.word (String.ofList (character :: rest.takeWhile isWordChar)),
          rest.dropWhile isWordChar) := by
  unfold readToken
  split
  · contradiction
  iterate 6
    next same =>
      cases same
      contradiction
  next other behind _ _ _ _ _ _ same =>
    cases same
    rw [if_pos isWord]

/-! ## Tokens -/

/-- A text of letters, digits and underscores that does not begin with a digit. -/
def isKeyword : List Char → Bool
  | [] => false
  | first :: rest => !first.isDigit && (first :: rest).all isWordChar

/-- The symbols that are read as one token in front of a delimiter. -/
def marks : List String :=
  ["(", ")", ",", "*", "=", "!=", ">", "<", ">=", "<="]

/-- Tokens that can be read back. -/
inductive Token.WellFormed : Token → Prop where
  | word {text : String} (keyword : isKeyword text.toList = true) : WellFormed (.word text)
  | symbol {mark : String} (listed : mark ∈ marks) : WellFormed (.symbol mark)
  | identifier (name : String) : WellFormed (.identifier name)
  | string (content : String) : WellFormed (.string content)
  | number {text : String} (isNumber : IsNumber text.toList) : WellFormed (.number text)

private theorem readToken_number {text rest : List Char} (isNumber : IsNumber text)
    (delimited : Delimited rest) :
    readToken (text ++ rest) = some (.number (String.ofList text), rest) := by
  cases isNumber with
  | unsigned magnitude =>
      have read := readNumber_append magnitude delimited
      obtain ⟨digit, behind, rfl, isDigit⟩ := magnitude.head
      have isWord : isWordChar digit = true := by simp [isWordChar, Char.isAlphanum, isDigit]
      rw [List.cons_append] at read ⊢
      rw [readToken_wordChar isWord, if_pos isDigit, read]
  | negative magnitude =>
      rw [List.cons_append, readToken]
      simp only [readNumber_append magnitude delimited]

private theorem readToken_word {text rest : List Char} (keyword : isKeyword text = true)
    (delimited : Delimited rest) :
    readToken (text ++ rest) = some (.word (String.ofList text), rest) := by
  have refuses : delimiters.all (fun delimiter => !isWordChar delimiter) = true := rfl
  cases text with
  | nil => contradiction
  | cons first others =>
      simp only [isKeyword, Bool.and_eq_true, Bool.not_eq_true', List.all_cons,
        List.all_eq_true] at keyword
      obtain ⟨notDigit, isWord, allWord⟩ := keyword
      obtain ⟨taken, left⟩ := span_delimited refuses allWord delimited
      rw [List.cons_append, readToken_wordChar isWord, notDigit, taken, left]
      rfl

private theorem readToken_symbol {mark : String} (listed : mark ∈ marks) {rest : List Char}
    (delimited : Delimited rest) :
    readToken (mark.toList ++ rest) = some (.symbol mark, rest) := by
  simp only [marks, List.mem_cons, List.not_mem_nil, or_false] at listed
  rcases listed with rfl | rfl | rfl | rfl | rfl | rfl | rfl | rfl | rfl | rfl
  all_goals
    cases rest with
    | nil => rfl
    | cons character behind =>
        have different := delimited.head_ne '=' (by decide)
        simp [readToken, different, isWordChar]

/-- In front of a delimiter a token is read as itself. -/
theorem readToken_append {token : Token} (wellFormed : token.WellFormed) {rest : List Char}
    (delimited : Delimited rest) : readToken (token.chars ++ rest) = some (token, rest) := by
  cases wellFormed with
  | @word text keyword =>
      rw [Token.chars, readToken_word keyword delimited, String.ofList_toList]
  | symbol listed => exact readToken_symbol listed delimited
  | identifier name =>
      have read := (readIdentifier_quoted_iff name.toList rest).2
        (delimited.head?_ne '\x60' (by decide))
      simp [Token.chars, quoteIdentifier, readToken, read]
  | string content =>
      have read := (readString_quoted_iff content.toList rest).2
        (delimited.head?_ne '\'' (by decide))
      simp [Token.chars, quoteString, readToken, read]
  | @number text isNumber =>
      rw [Token.chars, readToken_number isNumber delimited, String.ofList_toList]

/-! ## Legible pieces -/

/-- In front of a delimiter a piece of SQL is read as its tokens. -/
def Legible (sql : Sql) : Prop :=
  ∀ rest, Delimited rest → readTokens (sql.chars ++ rest) = (readTokens rest).map (sql.tokens ++ ·)

@[simp] theorem chars_nil : chars [] = [] := rfl

@[simp] theorem chars_cons (piece : Piece) (sql : Sql) :
    chars (piece :: sql) = piece.chars ++ sql.chars :=
  rfl

@[simp] theorem chars_append (left right : Sql) :
    chars (left ++ right) = left.chars ++ right.chars :=
  List.flatMap_append

@[simp] theorem tokens_nil : tokens [] = [] := rfl

@[simp] theorem tokens_token (token : Token) (sql : Sql) :
    tokens (.token token :: sql) = token :: sql.tokens :=
  rfl

@[simp] theorem tokens_space (sql : Sql) : tokens (.space :: sql) = sql.tokens := rfl

@[simp] theorem tokens_append (left right : Sql) :
    tokens (left ++ right) = left.tokens ++ right.tokens :=
  List.filterMap_append

theorem Legible.readTokens_text {sql : Sql} (legible : sql.Legible) :
    readTokens sql.text.toList = some sql.tokens := by
  have read := legible [] delimited_nil
  rw [List.append_nil, readTokens] at read
  simpa [text] using read

theorem legible_nil : Legible [] := by
  intro rest _
  simp

theorem Legible.append {left right : Sql} (leftLegible : left.Legible)
    (rightLegible : right.Legible) (starts : Delimited right.chars) :
    Legible (left ++ right) := by
  intro rest delimited
  rw [chars_append, List.append_assoc, leftLegible _ (starts.append delimited),
    rightLegible rest delimited, Option.map_map]
  congr 1
  funext tokens
  simp

theorem legible_space {sql : Sql} (legible : sql.Legible) : Legible (.space :: sql) := by
  intro rest delimited
  rw [chars_cons, Piece.chars, List.cons_append, List.cons_append, readTokens]
  exact legible rest delimited

/-- Only a blank is skipped. -/
private theorem readTokens_of_readToken {text after : List Char} {token : Token}
    (read : readToken text = some (token, after)) (visible : token ≠ .symbol " ") :
    readTokens text = (readTokens after).map (token :: ·) := by
  rw [readTokens.eq_def text]
  split
  · contradiction
  next rest =>
    exfalso
    have blank : readToken (' ' :: rest) = some (.symbol " ", rest) := rfl
    rw [blank] at read
    cases read
    contradiction
  · split
    next failed =>
      rw [read] at failed
      contradiction
    next found =>
      rw [read] at found
      cases found
      rfl

theorem legible_token {token : Token} (wellFormed : token.WellFormed) :
    Legible [.token token] := by
  intro rest delimited
  have read := readToken_append wellFormed delimited
  have visible : token ≠ .symbol " " := by
    rintro rfl
    cases wellFormed with
    | symbol listed => contradiction
  rw [chars_cons, chars_nil, Piece.chars, List.append_nil, readTokens_of_readToken read visible]
  rfl

theorem legible_word {text : String} (keyword : isKeyword text.toList = true) :
    Legible (word text) :=
  legible_token (.word keyword)

/-- A parenthesis or a comma ends by itself, whatever follows. -/
theorem legible_mark {mark : String} (listed : mark ∈ ["(", ")", ","]) {sql : Sql}
    (legible : sql.Legible) : Legible (.token (.symbol mark) :: sql) := by
  intro rest delimited
  have read : readToken (mark.toList ++ (sql.chars ++ rest)) =
      some (.symbol mark, sql.chars ++ rest) := by
    simp only [List.mem_cons, List.not_mem_nil, or_false] at listed
    rcases listed with rfl | rfl | rfl <;> simp [readToken, isWordChar]
  have visible : Token.symbol mark ≠ .symbol " " := by
    rintro same
    cases same
    contradiction
  rw [chars_cons, Piece.chars, Token.chars, List.append_assoc,
    readTokens_of_readToken read visible, legible rest delimited, Option.map_map]
  rfl

theorem legible_enclosed {sql : Sql} (legible : sql.Legible) : Legible (enclosed sql) := by
  have closes : Legible (symbol ")") := legible_token (.symbol (by decide))
  have starts : Delimited (symbol ")").chars := delimited_cons [] (by decide)
  exact legible_mark (by decide) (legible.append closes starts)

/-- Legible parts stay legible with a separator between them that begins with a
delimiter. -/
theorem legible_intercalate {separator : Sql}
    (starts : ∀ behind : Sql, Delimited (separator ++ behind).chars)
    (separates : ∀ behind : Sql, behind.Legible → Legible (separator ++ behind))
    {parts : List Sql} (legible : ∀ part ∈ parts, part.Legible) :
    Legible (separator.intercalate parts) := by
  induction parts with
  | nil => exact legible_nil
  | cons part others inductionHypothesis =>
      have first := legible part (by simp)
      have rest := inductionHypothesis fun other member =>
        legible other (List.mem_cons_of_mem part member)
      by_cases last : others = []
      · rw [last, List.intercalate_singleton]
        exact first
      · rw [List.intercalate_cons_of_ne_nil last, List.append_assoc]
        exact first.append (separates _ rest) (starts _)

theorem legible_spaced {parts : List Sql} (legible : ∀ part ∈ parts, part.Legible) :
    Legible (spaced parts) := by
  apply legible_intercalate _ _ legible
  · intro behind
    exact delimited_cons behind.chars (by decide)
  · intro behind behindLegible
    exact legible_space behindLegible

theorem legible_words {texts : List String}
    (keywords : ∀ text ∈ texts, isKeyword text.toList = true) : Legible (words texts) := by
  apply legible_spaced
  intro part member
  obtain ⟨text, textMember, rfl⟩ := List.mem_map.1 member
  exact legible_word (keywords text textMember)

theorem legible_listed {parts : List Sql} (legible : ∀ part ∈ parts, part.Legible) :
    Legible (listed parts) := by
  apply legible_intercalate _ _ legible
  · intro behind
    exact delimited_cons (' ' :: behind.chars) (by decide)
  · intro behind behindLegible
    exact legible_mark (by decide) (legible_space behindLegible)

end SchemaKeeper.Sql
