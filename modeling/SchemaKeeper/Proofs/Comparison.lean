import SchemaKeeper.PhysicalTable
import SchemaKeeper.Plan.Difference

/-!
Contract: when a described column counts as already declared.

A column that a plan has just written has to compare as unchanged, or the table is
altered for ever. Its type, nullability and numbering do. Its default does unless
the text of the default reads as `nan`, the one number that differs from itself.

Owns: comparison of written columns with their own declaration, and the texts and
numbers behind it.
-/

namespace SchemaKeeper

/-! ## Texts -/

namespace Text

theorem sameIgnoringCase_iff (left right : String) :
    sameIgnoringCase left right = true ↔
      left.toList.map Char.toLower = right.toList.map Char.toLower := by
  simp [sameIgnoringCase]

@[simp] theorem sameIgnoringCase_self (text : String) : sameIgnoringCase text text = true := by
  simp [sameIgnoringCase]

/-- Nothing is trimmed from a text that neither begins nor ends with a blank. -/
theorem trim_eq_self {text : String}
    (first : ∀ character ∈ text.toList.head?, isBlank character = false)
    (last : ∀ character ∈ text.toList.getLast?, isBlank character = false) :
    trim text = text := by
  have front : text.toList.dropWhile isBlank = text.toList := by
    cases split : text.toList with
    | nil => rfl
    | cons character rest => simp [first character (by simp [split])]
  have back : text.toList.reverse.dropWhile isBlank = text.toList.reverse := by
    cases split : text.toList.reverse with
    | nil => rfl
    | cons character rest =>
        have ending : character ∈ text.toList.getLast? := by
          rw [← List.head?_reverse, split]
          rfl
        simp [last character ending]
  rw [trim, trimChars, trimEnd, front, back, List.reverse_reverse, String.ofList_toList]

/-- Only a mark other than a letter is itself in lower case. -/
theorem eq_of_toLower_eq {character mark : Char} (lower : character.toLower = mark)
    (notLetter : ¬('a'.val ≤ mark.val ∧ mark.val ≤ 'z'.val)) : character = mark := by
  unfold Char.toLower at lower
  split at lower
  next upper =>
    subst lower
    exfalso
    apply notLetter
    rcases upper with ⟨least, greatest⟩
    constructor <;> grind
  next => exact lower

theorem toLower_of_isDigit {digit : Char} (isDigit : digit.isDigit = true) :
    digit.toLower = digit := by
  have notUpper : ¬(digit.val ≥ 'A'.val ∧ digit.val ≤ 'Z'.val) := by
    simp only [Char.isDigit, Bool.and_eq_true, decide_eq_true_eq] at isDigit
    grind
  exact dif_neg notUpper

end Text

/-! ## Numbers -/

namespace Binary64

theorem sameNumber_self {number : Binary64} (ordered : number ≠ .nan) :
    number.sameNumber number = true := by
  cases number with
  | nan => contradiction
  | infinity negative => simp only [sameNumber, position, beq_self_eq_true]
  | finite negative significand shift canonical =>
      simp only [sameNumber, position, beq_self_eq_true]

theorem ofUnits_ne_nan (negative : Bool) (numerator denominator : Nat) :
    ofUnits negative numerator denominator ≠ .nan := by
  unfold ofUnits
  dsimp only
  split
  · simp
  · split <;> simp

end Binary64

theorem Decimal.toBinary64_ne_nan (negative : Bool) (number : Decimal) :
    number.toBinary64 negative ≠ .nan := by
  unfold Decimal.toBinary64
  split
  · simp [Binary64.zero]
  · split
    · simp
    · split
      · simp [Binary64.zero]
      · exact Binary64.ofUnits_ne_nan _ _ _

namespace Binary64

private theorem readMagnitude_eq_nan_iff (negative : Bool) (text : List Char) :
    readMagnitude negative text = some .nan ↔ text.map Char.toLower = ['n', 'a', 'n'] := by
  unfold readMagnitude
  dsimp only
  split
  next named => simp [named]
  next unnamed =>
    split
    · simp [unnamed]
    · simp [unnamed, Decimal.toBinary64_ne_nan]

/-- A text reads as `nan` if it is that name in any case, with or without a sign. -/
theorem ofText?_eq_nan_iff (text : String) :
    ofText? text = some .nan ↔
      text.toList.map Char.toLower ∈
        [['n', 'a', 'n'], ['-', 'n', 'a', 'n'], ['+', 'n', 'a', 'n']] := by
  unfold ofText? ofChars?
  split
  next rest split => simp [split, readMagnitude_eq_nan_iff]
  next rest split => simp [split, readMagnitude_eq_nan_iff]
  next unsigned notMinus notPlus =>
    rw [readMagnitude_eq_nan_iff]
    cases chars : text.toList with
    | nil => simp
    | cons character rest =>
        have noMinus : character.toLower ≠ '-' := fun lower =>
          notMinus rest (by rw [chars, Text.eq_of_toLower_eq lower (by decide)])
        have noPlus : character.toLower ≠ '+' := fun lower =>
          notPlus rest (by rw [chars, Text.eq_of_toLower_eq lower (by decide)])
        simp [noMinus, noPlus]

end Binary64

/-! ## Types -/

namespace Column

private theorem head_typeSql (column : Column) :
    ∃ first, column.typeSql.chars.head? = some first ∧ Text.isBlank first.toLower = false := by
  have keyword : ∃ first, column.type.keyword.toList.head? = some first ∧
      Text.isBlank first.toLower = false := by
    cases column.type <;> exact ⟨_, rfl, by decide⟩
  rcases keyword with ⟨first, written, visible⟩
  refine ⟨first, ?_, visible⟩
  unfold typeSql
  split <;>
    simp [Sql.chars, Sql.spaced, Sql.word, Sql.Piece.chars, Sql.Token.chars, List.intercalate,
      List.intersperse, written]

private theorem last_typeSql (column : Column) :
    ∃ last, column.typeSql.chars.getLast? = some last ∧ Text.isBlank last.toLower = false := by
  have keyword : ∃ last, column.type.keyword.toList.getLast? = some last ∧
      Text.isBlank last.toLower = false := by
    cases column.type <;> exact ⟨_, rfl, by decide⟩
  unfold typeSql
  split
  · refine ⟨'D', ?_, by decide⟩
    simp [Sql.chars, Sql.spaced, Sql.word, Sql.Piece.chars, Sql.Token.chars, List.intercalate,
      List.intersperse]
  · cases column.size with
    | none => simpa [Sql.chars, Sql.word, Sql.Piece.chars, Sql.Token.chars, TypeSize.sql]
    | length size =>
        refine ⟨')', ?_, by decide⟩
        simp [Sql.chars, Sql.word, Sql.Piece.chars, Sql.Token.chars, TypeSize.sql, Sql.enclosed,
          Sql.symbol, List.getLast?_cons]
    | decimal precision scale =>
        refine ⟨')', ?_, by decide⟩
        simp [Sql.chars, Sql.word, Sql.Piece.chars, Sql.Token.chars, TypeSize.sql, Sql.enclosed,
          Sql.symbol, List.getLast?_cons]

private theorem lower_typeSql (column : Column) :
    Text.trim (Text.lower column.typeSql.text) = Text.lower column.typeSql.text ∧
      Text.lower column.typeSql.text ≠ "" := by
  rcases head_typeSql column with ⟨first, starts, firstVisible⟩
  rcases last_typeSql column with ⟨last, ends, lastVisible⟩
  refine ⟨Text.trim_eq_self ?_ ?_, ?_⟩
  · simp [Text.lower, Sql.text, starts, firstVisible]
  · simp [Text.lower, Sql.text, ends, lastVisible]
  · intro empty
    have noChars := congrArg String.toList empty
    simp only [Text.lower, Sql.text, String.toList_ofList, String.toList_empty,
      List.map_eq_nil_iff] at noChars
    rw [noChars] at starts
    contradiction

theorem trim_describedType (column : Column) :
    Text.trim column.describedType = column.describedType := by
  unfold describedType
  split
  · decide
  · exact (lower_typeSql column).1

theorem describedType_ne_empty (column : Column) : column.describedType ≠ "" := by
  unfold describedType
  split
  · decide
  · exact (lower_typeSql column).2

end Column

/-! ## Defaults -/

/-- A default whose text reads as `nan`. -/
def Value.ReadsAsNaN (default : Option Value) : Prop :=
  ∃ text, default.bind Value.plainText? = some text ∧ Binary64.ofText? text = some .nan

instance (default : Option Value) : Decidable (Value.ReadsAsNaN default) :=
  match read : default.bind Value.plainText? with
  | none => .isFalse (by rintro ⟨text, found, _⟩; simp [read] at found)
  | some text =>
      decidable_of_iff (Binary64.ofText? text = some .nan) (by simp [Value.ReadsAsNaN, read])

namespace Plan

/-- A default agrees with its own text unless that reads as `nan`. -/
theorem defaultsAgree_self {default : Option Value} (ordered : ¬Value.ReadsAsNaN default) :
    defaultsAgree default (default.bind Value.plainText?) = true := by
  unfold defaultsAgree
  cases written : default.bind Value.plainText? with
  | none => rfl
  | some text =>
      cases read : Binary64.ofText? text with
      | none => simp [read]
      | some number =>
          have notNaN : number ≠ .nan := by
            rintro rfl
            exact ordered ⟨text, written, read⟩
          simp [read, Binary64.sameNumber_self notNaN]

/-- A default that reads as `nan` agrees with no described default. -/
theorem defaultsAgree_of_readsAsNaN {default : Option Value} (isNaN : Value.ReadsAsNaN default)
    (described : Option String) : defaultsAgree default described = false := by
  rcases isNaN with ⟨text, declared, read⟩
  unfold defaultsAgree
  rw [declared]
  cases described with
  | none => rfl
  | some other =>
      dsimp only
      rw [read]
      cases otherRead : Binary64.ofText? other with
      | some number => rfl
      | none =>
          -- A text that differs from the default only in case would read as `nan` too.
          rw [Bool.eq_false_iff]
          intro same
          rw [Text.sameIgnoringCase_iff] at same
          rw [Binary64.ofText?_eq_nan_iff, same, ← Binary64.ofText?_eq_nan_iff, otherRead] at read
          contradiction

end Plan

/-! ## Columns -/

namespace PhysicalTable

@[simp] theorem isAutoIncrement_liveColumn (name : String) (column : Column) :
    (liveColumn name column).isAutoIncrement = column.autoIncrement := by
  cases numbered : column.autoIncrement with
  | false =>
      rw [liveColumn, LiveColumn.isAutoIncrement, numbered]
      show Text.occursIn "auto_increment".toList (Text.lower "").toList = false
      decide
  | true =>
      rw [liveColumn, LiveColumn.isAutoIncrement, numbered]
      show Text.occursIn "auto_increment".toList (Text.lower "auto_increment").toList = true
      decide

end PhysicalTable

namespace Plan

/-- A written column agrees with its declaration unless its default reads as `nan`. -/
theorem columnAgrees_liveColumn {column : Column} (name : String)
    (ordered : ¬Value.ReadsAsNaN column.default) :
    columnAgrees column (PhysicalTable.liveColumn name column) = true := by
  unfold columnAgrees
  rw [PhysicalTable.isAutoIncrement_liveColumn]
  simp [PhysicalTable.liveColumn, Column.trim_describedType, defaultsAgree_self ordered]

/-- A column whose default reads as `nan` never agrees. -/
theorem columnAgrees_of_readsAsNaN {column : Column} (isNaN : Value.ReadsAsNaN column.default)
    (described : LiveColumn) : columnAgrees column described = false := by
  simp [columnAgrees, defaultsAgree_of_readsAsNaN isNaN]

end Plan

end SchemaKeeper
