import SchemaKeeper.Sql.Basic

/-!
Contract: how a MariaDB server reads statement text.

Names between backquotes end at a backquote that stands alone. String literals
between single quotes end at a quote that stands alone; a backslash gives some
characters a meaning, leaves itself in front of the wildcards `%` and `_`, and
stands for the following character otherwise. Everything else is a number with an
optional sign and point, a word, or the longest operator or punctuation mark.

Owns: reading names, string literals and tokens.

Does not own: the grammar of statements.
-/

namespace SchemaKeeper.Sql

/-! ## Names and strings -/

/-- Reads a name behind its opening backquote, and the text behind it. -/
def readIdentifier : List Char → Option (List Char × List Char)
  | [] => none
  | '\x60' :: '\x60' :: rest =>
      (readIdentifier rest).map fun (name, after) => ('\x60' :: name, after)
  | character :: rest =>
      if character = '\x60' then some ([], rest)
      else (readIdentifier rest).map fun (name, after) => (character :: name, after)

def unescape : Char → List Char
  | '0' => ['\x00']
  | 'b' => ['\x08']
  | 'n' => ['\n']
  | 'r' => ['\r']
  | 't' => ['\t']
  | 'Z' => ['\x1a']
  | '%' => ['\\', '%']
  | '_' => ['\\', '_']
  | character => [character]

/-- Reads a string literal behind its opening quote, and the text behind it. -/
def readString : List Char → Option (List Char × List Char)
  | [] => none
  | '\'' :: '\'' :: rest =>
      (readString rest).map fun (content, after) => ('\'' :: content, after)
  | '\\' :: escaped :: rest =>
      (readString rest).map fun (content, after) => (unescape escaped ++ content, after)
  | character :: rest =>
      if character = '\'' then some ([], rest)
      else if character = '\\' then none
      else (readString rest).map fun (content, after) => (character :: content, after)

/-! ## Tokens -/

def isWordChar (character : Char) : Bool :=
  character.isAlphanum || character = '_'

/-- The digits of a number with an optional point, and the text behind them. -/
def readNumber (text : List Char) : List Char × List Char :=
  let whole := text.takeWhile Char.isDigit
  match text.dropWhile Char.isDigit with
  | '.' :: rest => (whole ++ '.' :: rest.takeWhile Char.isDigit, rest.dropWhile Char.isDigit)
  | rest => (whole, rest)

/-- Reads the token at the beginning of a text, and the text behind it. -/
def readToken : List Char → Option (Token × List Char)
  | [] => none
  | '\x60' :: rest =>
      (readIdentifier rest).map fun (name, after) => (.identifier (String.ofList name), after)
  | '\'' :: rest =>
      (readString rest).map fun (content, after) => (.string (String.ofList content), after)
  | '!' :: '=' :: rest => some (.symbol "!=", rest)
  | '>' :: '=' :: rest => some (.symbol ">=", rest)
  | '<' :: '=' :: rest => some (.symbol "<=", rest)
  | '-' :: rest =>
      let (digits, after) := readNumber rest
      some (.number (String.ofList ('-' :: digits)), after)
  | character :: rest =>
      if character.isDigit then
        let (digits, after) := readNumber (character :: rest)
        some (.number (String.ofList digits), after)
      else if isWordChar character then
        some (.word (String.ofList (character :: rest.takeWhile isWordChar)),
          rest.dropWhile isWordChar)
      else
        some (.symbol (String.ofList [character]), rest)

/-! ## Progress -/

theorem length_readIdentifier_lt {text name after : List Char}
    (read : readIdentifier text = some (name, after)) : after.length < text.length := by
  fun_induction readIdentifier text generalizing name after with
  | case1 => contradiction
  | case2 rest inductionHypothesis =>
      obtain ⟨⟨inner, behind⟩, innerRead, same⟩ := Option.map_eq_some_iff.1 read
      cases same
      have := inductionHypothesis innerRead
      simp only [List.length_cons]
      omega
  | case3 rest => cases read; simp
  | case4 character rest _ _ inductionHypothesis =>
      obtain ⟨⟨inner, behind⟩, innerRead, same⟩ := Option.map_eq_some_iff.1 read
      cases same
      have := inductionHypothesis innerRead
      simp only [List.length_cons]
      omega

theorem length_readString_lt {text content after : List Char}
    (read : readString text = some (content, after)) : after.length < text.length := by
  fun_induction readString text generalizing content after with
  | case1 => contradiction
  | case2 rest inductionHypothesis =>
      obtain ⟨⟨inner, behind⟩, innerRead, same⟩ := Option.map_eq_some_iff.1 read
      cases same
      have := inductionHypothesis innerRead
      simp only [List.length_cons]
      omega
  | case3 escaped rest inductionHypothesis =>
      obtain ⟨⟨inner, behind⟩, innerRead, same⟩ := Option.map_eq_some_iff.1 read
      cases same
      have := inductionHypothesis innerRead
      simp only [List.length_cons]
      omega
  | case4 rest => cases read; simp
  | case5 => contradiction
  | case6 character rest _ _ _ _ inductionHypothesis =>
      obtain ⟨⟨inner, behind⟩, innerRead, same⟩ := Option.map_eq_some_iff.1 read
      cases same
      have := inductionHypothesis innerRead
      simp only [List.length_cons]
      omega

private theorem length_dropWhile_le (accept : Char → Bool) (text : List Char) :
    (text.dropWhile accept).length ≤ text.length :=
  (List.dropWhile_suffix accept).length_le

theorem length_readNumber_le (text : List Char) : (readNumber text).2.length ≤ text.length := by
  have whole := length_dropWhile_le Char.isDigit text
  unfold readNumber
  split
  next rest split =>
    rw [split] at whole
    exact Nat.le_trans (length_dropWhile_le Char.isDigit rest) (Nat.le_of_succ_le whole)
  next => exact whole

private theorem length_readNumber_lt {digit : Char} (isDigit : digit.isDigit = true)
    (text : List Char) : (readNumber (digit :: text)).2.length < (digit :: text).length := by
  have whole := length_dropWhile_le Char.isDigit text
  unfold readNumber
  rw [List.dropWhile_cons_of_pos isDigit]
  split
  next rest split =>
    rw [split] at whole
    have := length_dropWhile_le Char.isDigit rest
    simp only [List.length_cons] at whole ⊢
    omega
  next => exact Nat.lt_succ_of_le whole

/-- Reading a token takes at least one character. -/
theorem length_readToken_lt {text after : List Char} {token : Token}
    (read : readToken text = some (token, after)) : after.length < text.length := by
  unfold readToken at read
  split at read
  · contradiction
  next rest =>
    obtain ⟨⟨name, behind⟩, nameRead, same⟩ := Option.map_eq_some_iff.1 read
    cases same
    exact Nat.lt_succ_of_lt (length_readIdentifier_lt nameRead)
  next rest =>
    obtain ⟨⟨content, behind⟩, contentRead, same⟩ := Option.map_eq_some_iff.1 read
    cases same
    exact Nat.lt_succ_of_lt (length_readString_lt contentRead)
  iterate 3
    next rest =>
      cases read
      exact Nat.lt_succ_of_lt (Nat.lt_succ_self _)
  next rest =>
    cases read
    exact Nat.lt_succ_of_le (length_readNumber_le rest)
  next character rest _ _ _ _ _ _ =>
    split at read
    next isDigit =>
      cases read
      exact length_readNumber_lt isDigit rest
    · split at read
      · cases read
        exact Nat.lt_succ_of_le (length_dropWhile_le isWordChar rest)
      · cases read
        simp

/-- The tokens of a text, with blanks between them skipped; `none` if a name or a
string literal does not end. -/
def readTokens (text : List Char) : Option (List Token) :=
  match text with
  | [] => some []
  | ' ' :: rest => readTokens rest
  | text =>
      match read : readToken text with
      | none => none
      | some (token, after) =>
          have := length_readToken_lt read
          (readTokens after).map (token :: ·)
termination_by text.length

end SchemaKeeper.Sql
