import SchemaKeeper.Proofs.Comparison
import SchemaKeeper.Proofs.Declarations
import SchemaKeeper.Proofs.FilterReading

/-!
Contract: what is read from the default that a server reports.

A server reports a text between quotes, with the quotes inside doubled, and everything else
bare. A report that begins with a quote is a text, so no text is taken for the absence of a
default. The text of a number begins with a digit or a minus sign, and is neither a quoted text
nor the word for that absence.

A default that is not read back as it was declared differs on every run.

Owns: the reports of a default, and that reading one gives back its text.

Does not own: comparison of declared and described defaults (`Comparison`).
-/

namespace SchemaKeeper

/-! ## Quoted texts -/

def doubleQuotes (text : List Char) : List Char :=
  text.flatMap fun character => if character = '\'' then ['\'', '\''] else [character]

/-- A text as the server reports it. -/
def quotedReport (text : String) : String :=
  String.ofList ('\'' :: (doubleQuotes text.toList ++ ['\'']))

/-- Pairs are taken from the front, and each one is a quote of the text, also in a run. -/
theorem undoubleQuotes_doubleQuotes (text : List Char) :
    undoubleQuotes (doubleQuotes text) = text := by
  induction text with
  | nil => rfl
  | cons character rest inductionHypothesis =>
      by_cases quote : character = '\''
      · have doubled : doubleQuotes (character :: rest) = '\'' :: '\'' :: doubleQuotes rest := by
          simp [doubleQuotes, quote]
        rw [doubled, undoubleQuotes, inductionHypothesis, quote]
      · have kept : doubleQuotes (character :: rest) = character :: doubleQuotes rest := by
          simp [doubleQuotes, quote]
        rw [kept]
        simp [undoubleQuotes, quote, inductionHypothesis]

/-- Only the quotes at both ends are stripped before the pairs are replaced. -/
theorem unquoteDefault_quoted (text : List Char) :
    unquoteDefault ('\'' :: (doubleQuotes text ++ ['\''])) = text := by
  have reversed : (doubleQuotes text ++ ['\'']).reverse = '\'' :: (doubleQuotes text).reverse :=
    List.reverse_concat
  unfold unquoteDefault
  simp only [reversed, List.reverse_reverse, undoubleQuotes_doubleQuotes]

/-! ## Readings -/

section Readings

variable {text : String} {first : Char} {rest : List Char}
  (begins : text.toList = first :: rest) (notN : first.toLower ≠ 'n')

include begins notN

/-- The word for the absence of a default is told apart by its first letter. -/
private theorem not_bare_of_first : Text.sameIgnoringCase text "NULL" = false := by
  rw [Bool.eq_false_iff, ne_eq, Text.sameIgnoringCase_iff, begins]
  intro same
  exact notN (List.cons.inj same).1

/-- A report that is not quoted stands for itself. -/
private theorem normalizeDefault_of_first (notQuote : first ≠ '\'') :
    normalizeDefault (some text) = some text := by
  have unquoted : unquoteDefault text.toList = text.toList := by
    rw [begins]
    simp [unquoteDefault, notQuote]
  simp [normalizeDefault, not_bare_of_first begins notN, unquoted]

end Readings

theorem normalizeDefault_quoted (text : String) :
    normalizeDefault (some (quotedReport text)) = some text := by
  have characters : (quotedReport text).toList = '\'' :: (doubleQuotes text.toList ++ ['\'']) :=
    String.toList_ofList
  have notBare := not_bare_of_first characters (by decide)
  simp [normalizeDefault, notBare, characters, unquoteDefault_quoted]

theorem normalizeDefault_number {text : String} (number : Sql.IsNumber text.toList) :
    normalizeDefault (some text) = some text := by
  generalize characters : text.toList = written at number
  cases number with
  | unsigned magnitude =>
      obtain ⟨digit, rest, rfl, isDigit⟩ := magnitude.head
      apply normalizeDefault_of_first characters
      · rw [Text.toLower_of_isDigit isDigit]
        rintro rfl
        contradiction
      · rintro rfl
        contradiction
  | negative magnitude => exact normalizeDefault_of_first characters (by decide) (by decide)

/-! ## Reports -/

/-- How a server may report a default: a missing one as a bare word or not at all, a text
between quotes, a boolean as a digit and a number as its plain decimal text. -/
inductive ReportsDefault : Option Value → Option String → Prop
  | nothing {default : Option Value} (absent : default = none ∨ default = some .null) :
      ReportsDefault default none
  | bareWord {default : Option Value} (absent : default = none ∨ default = some .null) :
      ReportsDefault default (some "NULL")
  | bool (value : Bool) : ReportsDefault (some (.bool value)) (some (if value then "1" else "0"))
  | int (value : Int64) : ReportsDefault (some (.int value)) (some (toString value.toInt))
  | float (number : Binary64) : ReportsDefault (some (.float number)) (some number.toText)
  | text (text : String) : ReportsDefault (some (.text text)) (some (quotedReport text))

theorem Value.intText_eq_toString (value : Int64) : intText value = toString value.toInt := by
  unfold intText
  cases value.toInt with
  | ofNat number => rfl
  | negSucc number =>
      apply String.toList_inj.1
      dsimp only
      rw [if_pos (Int.negSucc_lt_zero number), String.toList_ofList]
      show '-' :: Nat.toDigits 10 (number + 1) = ("-" ++ Nat.repr (number + 1)).toList
      simp [Nat.repr]

/-- Every report of a default is read as its text. -/
theorem normalizeDefault_of_reports {default : Option Value} {report : Option String}
    (reports : ReportsDefault default report) :
    normalizeDefault report = default.bind Value.plainText? := by
  cases reports with
  | nothing absent => rcases absent with rfl | rfl <;> rfl
  | bareWord absent => rcases absent with rfl | rfl <;> decide
  | bool value => cases value <;> decide
  | int value =>
      rw [← Value.intText_eq_toString]
      exact normalizeDefault_number (Value.isNumber_intText value)
  | float number =>
      cases number with
      | nan => decide
      | infinity negative => cases negative <;> decide
      | finite negative significand shift canonical =>
          exact normalizeDefault_number (Binary64.isNumber_toText rfl)
  | text text => exact normalizeDefault_quoted text

/-! ## Defaults of tables -/

namespace Table

/-- A default that a field accepts is not a list, so it has a report. -/
theorem exists_reportsDefault {table : Table} {name : String} {field : Field}
    (listed : (name, field) ∈ table.fields) : ∃ report, ReportsDefault field.default report := by
  cases declared : field.default with
  | none => exact ⟨none, .nothing (.inl rfl)⟩
  | some value =>
      have accepted := table.checkValue_default listed declared
      cases value with
      | null => exact ⟨none, .nothing (.inr rfl)⟩
      | bool value => exact ⟨_, .bool value⟩
      | int value => exact ⟨_, .int value⟩
      | float number => exact ⟨_, .float number⟩
      | text text => exact ⟨_, .text text⟩
      | list items => contradiction

/-- The default of every field of a table, or its absence, has a report, and whatever the server
reports of it is read as the text of the default. -/
theorem default_survives_report (table : Table) {name : String} {field : Field}
    (listed : (name, field) ∈ table.fields) :
    (∃ report, ReportsDefault field.default report) ∧
      ∀ report, ReportsDefault field.default report →
        normalizeDefault report = field.default.bind Value.plainText? := by
  constructor
  · exact exists_reportsDefault listed
  · intro report reports
    exact normalizeDefault_of_reports reports

/-- Remarks that are a quoted word unless they are given. -/
def remark : Field :=
  { kind := .string, maxSize := some (.ofInt 20), default := some (.text "'NULL'") }

def remarks : Table where
  name := "remarks"
  fields := [("remark", remark)]
  accepted := by decide +kernel

/-- The word is read back with its quotes, and not as the absence of a default. -/
theorem quoted_word_survives_report :
    ("remark", remark) ∈ remarks.fields ∧ remark.default = some (.text "'NULL'") ∧
      normalizeDefault (some "'''NULL'''") = some "'NULL'" := by
  have listed : ("remark", remark) ∈ remarks.fields := List.mem_singleton.2 rfl
  have reports : ReportsDefault remark.default (some "'''NULL'''") := .text "'NULL'"
  exact ⟨listed, rfl, (default_survives_report remarks listed).2 _ reports⟩

end Table

end SchemaKeeper
