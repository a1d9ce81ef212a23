import SchemaKeeper.Json.Reader
import SchemaKeeper.Json.Writer
import SchemaKeeper.Proofs.Results

/-!
Contract: reading JSON text undoes writing it.

Each part of a document is read back in front of whatever may follow it there: strings
in front of anything, numbers and values in front of the end, a comma or a closing
bracket. The steps that a reader is given are bounded by the length of the text.

Owns: well-formed documents, and the way back from their text.

Does not own: which documents stand for values (`JsonRecords`, `JsonDocuments`).
-/

namespace SchemaKeeper.Json

/-! ## Strings -/

/-- Reading four hexadecimal digits undoes writing them, for control characters. -/
private theorem fourHexDigits?_control {code : Nat} (control : code < 0x20) :
    fourHexChars code = ['0', '0', (code / 16).digitChar, (code % 16).digitChar] ∧
      fourHexDigits? '0' '0' (code / 16).digitChar (code % 16).digitChar = some code := by
  have table : ∀ code < 0x20,
      fourHexChars code = ['0', '0', (code / 16).digitChar, (code % 16).digitChar] ∧
        fourHexDigits? '0' '0' (code / 16).digitChar (code % 16).digitChar = some code := by
    decide
  exact table code control

/-- The piece stands for the character, whatever pieces follow it. -/
def TextUnit.StandsFor (unit : TextUnit) (character : Char) : Prop :=
  ∀ units, joinUnits (unit :: units) = (joinUnits units).map (character :: ·)

private theorem standsFor_char (character : Char) :
    (TextUnit.char character).StandsFor character := by
  intro units
  rw [joinUnits]

/-- A code unit below the surrogates stands for its character. -/
private theorem standsFor_code {character : Char} (low : character.toNat < 0xd800) :
    (TextUnit.code character.toNat).StandsFor character := by
  intro units
  rw [joinUnits.eq_def]
  split
  · contradiction
  next same => cases same
  next same =>
    cases same
    rw [if_neg (by omega), if_neg (by omega), Char.ofNat_toNat]
  next same =>
    cases same
    rw [if_neg (by omega), Char.ofNat_toNat]

/-- A character that needs no escape is read as itself. -/
private theorem readUnits_plain {character : Char} {rest after : List Char} {units : List TextUnit}
    (quote : character ≠ '"') (backslash : character ≠ '\\') (printable : 0x20 ≤ character.toNat)
    (read : readUnits rest = some (units, after)) :
    readUnits (character :: rest) = some (.char character :: units, after) := by
  rw [readUnits.eq_def]
  split
  · contradiction
  next same => exact absurd (List.cons.inj same).1 quote
  next same => exact absurd (List.cons.inj same).1 backslash
  next same => exact absurd (List.cons.inj same).1 backslash
  next same =>
    cases same
    rw [if_neg (by rintro (control | escape); omega; exact backslash escape), read]
    rfl

/-- A two-character escape is read as the character that it names. -/
private theorem readUnits_short {escaped character : Char} {rest after : List Char}
    {units : List TextUnit} (names : shortEscape? escaped = some character)
    (read : readUnits rest = some (units, after)) :
    readUnits ('\\' :: escaped :: rest) = some (.char character :: units, after) := by
  rw [readUnits.eq_def]
  split
  · contradiction
  next same => cases same
  next same =>
    -- A `u` begins another kind of escape and names no character.
    cases same
    contradiction
  next same =>
    cases same
    rw [names, read]
    rfl
  next notShort same =>
    cases same
    exact (notShort escaped rest rfl rfl).elim

/-- A `u` escape is read as its code unit. -/
private theorem readUnits_code {code : Nat} (control : code < 0x20) {rest after : List Char}
    {units : List TextUnit} (read : readUnits rest = some (units, after)) :
    readUnits ('\\' :: 'u' :: fourHexChars code ++ rest) = some (.code code :: units, after) := by
  obtain ⟨digits, found⟩ := fourHexDigits?_control control
  rw [digits, List.cons_append, List.cons_append, List.cons_append, List.cons_append,
    List.cons_append, List.cons_append, List.nil_append, readUnits, found, read]
  rfl

/-- A character is written as a two-character escape, as a `u` escape or as itself. -/
private theorem writeChar_cases (character : Char) :
    (∃ letter, shortEscape? letter = some character ∧ writeChar character = ['\\', letter]) ∨
      (character.toNat < 0x20 ∧
        writeChar character = '\\' :: 'u' :: fourHexChars character.toNat) ∨
      (character ≠ '"' ∧ character ≠ '\\' ∧ 0x20 ≤ character.toNat ∧
        writeChar character = [character]) := by
  unfold writeChar
  split
  next same => exact .inl ⟨'"', by subst same; rfl, rfl⟩
  next quote =>
    split
    next same => exact .inl ⟨'\\', by subst same; rfl, rfl⟩
    next backslash =>
      split
      next same => exact .inl ⟨'b', by subst same; rfl, rfl⟩
      split
      next same => exact .inl ⟨'f', by subst same; rfl, rfl⟩
      split
      next same => exact .inl ⟨'n', by subst same; rfl, rfl⟩
      split
      next same => exact .inl ⟨'r', by subst same; rfl, rfl⟩
      split
      next same => exact .inl ⟨'t', by subst same; rfl, rfl⟩
      split
      next control => exact .inr (.inl ⟨control, rfl⟩)
      next printable => exact .inr (.inr ⟨quote, backslash, Nat.not_lt.1 printable, rfl⟩)

/-- A written character is read as a piece that stands for it. -/
theorem exists_readUnits_writeChar (character : Char) :
    ∃ unit : TextUnit, unit.StandsFor character ∧ ∀ rest units after,
      readUnits rest = some (units, after) →
        readUnits (writeChar character ++ rest) = some (unit :: units, after) := by
  rcases writeChar_cases character with
    ⟨letter, names, written⟩ | ⟨control, written⟩ | ⟨quote, backslash, printable, written⟩
  · refine ⟨_, standsFor_char character, fun rest units after read => ?_⟩
    rw [written]
    exact readUnits_short names read
  · refine ⟨_, standsFor_code (by omega), fun rest units after read => ?_⟩
    rw [written]
    exact readUnits_code control read
  · refine ⟨_, standsFor_char character, fun rest units after read => ?_⟩
    rw [written]
    exact readUnits_plain quote backslash printable read

/-- The content of a string literal is read back, whatever follows its closing quote. -/
theorem exists_readUnits_content (content rest : List Char) :
    ∃ units, joinUnits units = some content ∧
      readUnits (content.flatMap writeChar ++ '"' :: rest) = some (units, rest) := by
  induction content with
  | nil => exact ⟨[], rfl, rfl⟩
  | cons character behind inductionHypothesis =>
      obtain ⟨units, joined, read⟩ := inductionHypothesis
      obtain ⟨unit, standsFor, reads⟩ := exists_readUnits_writeChar character
      refine ⟨unit :: units, ?_, ?_⟩
      · rw [standsFor units, joined]
        rfl
      · rw [List.flatMap_cons, List.append_assoc]
        exact reads _ units rest read

/-- Reading a string literal behind its opening quote undoes writing it. -/
theorem readText_writeText (content : Json.Text) (rest : List Char) :
    ∃ behind, writeText content = '"' :: behind ∧
      readText (behind ++ rest) = some (content, rest) := by
  cases content with
  | none => exact ⟨_, rfl, rfl⟩
  | some content =>
      obtain ⟨units, joined, read⟩ := exists_readUnits_content content.toList rest
      refine ⟨_, rfl, ?_⟩
      rw [List.append_assoc, List.singleton_append, readText, read]
      change some ((joinUnits units).map String.ofList, rest) = _
      rw [joined, Option.map_some, String.ofList_toList]

/-! ## Numbers -/

namespace Number

def IsDigits (digits : List Char) : Prop :=
  digits ≠ [] ∧ ∀ digit ∈ digits, digit.isDigit = true

/-- A literal that the notation allows: digits wherever there have to be some, and no zero
in front of other whole digits. -/
structure WellFormed (literal : Number) : Prop where
  whole : IsDigits literal.whole
  noLeadingZero : literal.whole.head? = some '0' → literal.whole.length = 1
  fraction : ∀ digits ∈ literal.fraction, IsDigits digits
  exponent : ∀ exponent ∈ literal.exponent, IsDigits exponent.2

end Number

/-- What may follow a value inside of a document: its end, a comma or a closing bracket. -/
def Follows (rest : List Char) : Prop :=
  ∀ character ∈ rest.head?, character ∈ [',', ']', '\x7d']

theorem follows_nil : Follows [] := nofun

theorem follows_cons {character : Char} (listed : character ∈ [',', ']', '\x7d'])
    (rest : List Char) : Follows (character :: rest) := by
  rintro first ⟨⟩
  exact listed

/-- A text that does not go on with digits. -/
private def NoDigit (rest : List Char) : Prop :=
  ∀ character ∈ rest.head?, character.isDigit = false

private theorem Follows.noDigit {rest : List Char} (follows : Follows rest) : NoDigit rest := by
  intro character first
  have listed := follows character first
  simp only [List.mem_cons, List.not_mem_nil, or_false] at listed
  rcases listed with rfl | rfl | rfl <;> rfl

private theorem noDigit_cons {character : Char} (other : character.isDigit = false)
    (rest : List Char) : NoDigit (character :: rest) := by
  rintro first ⟨⟩
  exact other

private theorem readDigits_append {digits rest : List Char} (isDigits : Number.IsDigits digits)
    (noDigit : NoDigit rest) : readDigits (digits ++ rest) = some (digits, rest) := by
  obtain ⟨taken, left⟩ := span_run isDigits.2 noDigit
  rw [readDigits, taken, left]
  simp [isDigits.1]

private def fractionChars (fraction : Option (List Char)) : List Char :=
  match fraction with
  | none => []
  | some digits => '.' :: digits

private def exponentChars (exponent : Option (Bool × List Char)) : List Char :=
  match exponent with
  | none => []
  | some (negative, digits) => 'e' :: exponentSign negative :: digits

private theorem readExponent_append {exponent : Option (Bool × List Char)} {rest : List Char}
    (wellFormed : ∀ written ∈ exponent, Number.IsDigits written.2) (follows : Follows rest) :
    readExponent (exponentChars exponent ++ rest) = some (exponent, rest) := by
  cases exponent with
  | none =>
      cases rest with
      | nil => rfl
      | cons character behind =>
          have listed := follows character rfl
          simp only [List.mem_cons, List.not_mem_nil, or_false] at listed
          rcases listed with rfl | rfl | rfl <;> rfl
  | some written =>
      obtain ⟨negative, digits⟩ := written
      have read := readDigits_append (wellFormed _ rfl) follows.noDigit
      cases negative <;> simp [readExponent, exponentChars, exponentSign, read]

private theorem readFraction_append {fraction : Option (List Char)} {rest : List Char}
    (wellFormed : ∀ digits ∈ fraction, Number.IsDigits digits) (noDigit : NoDigit rest)
    (noPoint : '.' ∉ rest.head?) :
    readFraction (fractionChars fraction ++ rest) = some (fraction, rest) := by
  cases fraction with
  | none =>
      change readFraction rest = _
      unfold readFraction
      split
      · exact absurd rfl noPoint
      · rfl
  | some digits =>
      change (readDigits (digits ++ rest)).map _ = _
      rw [readDigits_append (wellFormed digits rfl) noDigit]
      rfl

private theorem readMagnitude_append {literal : Number} (wellFormed : literal.WellFormed)
    {rest : List Char} (follows : Follows rest) :
    readMagnitude literal.negative
        (literal.whole ++ (fractionChars literal.fraction ++
          (exponentChars literal.exponent ++ rest))) =
      some (literal, rest) := by
  obtain ⟨negative, whole, fraction, exponent⟩ := literal
  have exponentNoDigit : NoDigit (exponentChars exponent ++ rest) := by
    cases exponent with
    | none => exact follows.noDigit
    | some written => exact noDigit_cons rfl _
  have exponentNoPoint : '.' ∉ (exponentChars exponent ++ rest).head? := by
    cases exponent with
    | none => exact fun point => absurd (follows '.' point) (by decide)
    | some written => exact nofun
  have fractionNoDigit : NoDigit (fractionChars fraction ++ (exponentChars exponent ++ rest)) := by
    cases fraction with
    | none => exact exponentNoDigit
    | some digits => exact noDigit_cons rfl _
  have noLeadingZero : ¬ (whole.head? = some '0' ∧ whole.length ≠ 1) :=
    fun ⟨zero, longer⟩ => longer (wellFormed.noLeadingZero zero)
  unfold readMagnitude
  dsimp only
  rw [readDigits_append wellFormed.whole fractionNoDigit, Option.bind_eq_bind, Option.bind_some]
  dsimp only
  rw [if_neg noLeadingZero, readFraction_append wellFormed.fraction exponentNoDigit exponentNoPoint,
    Option.bind_eq_bind, Option.bind_some, readExponent_append wellFormed.exponent follows]
  rfl

/-- The first character of a number literal: its sign or a digit. -/
private theorem exists_head_write {literal : Number} (wellFormed : literal.WellFormed) :
    ∃ first behind, literal.write = first :: behind ∧ (first = '-' ∨ first.isDigit = true) := by
  obtain ⟨negative, whole, fraction, exponent⟩ := literal
  obtain ⟨nonempty, digits⟩ := wellFormed.whole
  cases negative with
  | true => exact ⟨'-', _, rfl, .inl rfl⟩
  | false =>
      obtain ⟨first, behind, rfl⟩ := List.exists_cons_of_ne_nil nonempty
      exact ⟨first, _, rfl, .inr (digits first (by simp))⟩

private theorem readNumber_unsigned {digit : Char} (isDigit : digit.isDigit = true)
    (behind : List Char) : readNumber (digit :: behind) = readMagnitude false (digit :: behind) := by
  unfold readNumber
  split
  next same =>
    cases same
    contradiction
  next => rfl

/-- Reading a number literal undoes writing it. -/
theorem readNumber_write {literal : Number} (wellFormed : literal.WellFormed) {rest : List Char}
    (follows : Follows rest) : readNumber (literal.write ++ rest) = some (literal, rest) := by
  have read := readMagnitude_append wellFormed follows
  have written : literal.write ++ rest = signChars literal.negative ++ (literal.whole ++
      (fractionChars literal.fraction ++ (exponentChars literal.exponent ++ rest))) := by
    change signChars literal.negative ++ literal.whole ++ fractionChars literal.fraction ++
      exponentChars literal.exponent ++ rest = _
    simp only [List.append_assoc]
  rw [written]
  obtain ⟨negative, whole, fraction, exponent⟩ := literal
  cases negative with
  | true => exact read
  | false =>
      obtain ⟨digit, behind, rfl⟩ := List.exists_cons_of_ne_nil wellFormed.whole.1
      exact (readNumber_unsigned (wellFormed.whole.2 digit (by simp)) _).trans read

/-! ## Documents -/

/-- A document whose number literals are all well-formed. -/
inductive WellFormed : Json → Prop where
  | null : WellFormed .null
  | bool (value : Bool) : WellFormed (.bool value)
  | number {literal : Number} (wellFormed : literal.WellFormed) : WellFormed (.number literal)
  | quoted (content : Json.Text) : WellFormed (.quoted content)
  | list {items : List Json} (wellFormed : ∀ item ∈ items, WellFormed item) :
      WellFormed (.list items)
  | object {members : List (Json.Text × Json)}
      (wellFormed : ∀ member ∈ members, WellFormed member.2) : WellFormed (.object members)

/-- With as many steps as its text can need, a written document is read back in front of
whatever may follow it. -/
def Reads (document : Json) : Prop :=
  ∀ steps rest, 2 * document.write.length ≤ steps → Follows rest →
    readValue steps (document.write ++ rest) = some (document, rest)

/-- A character that begins a value: no blank, which a reader would pass, and no closing
bracket, at which a list or an object would end. -/
private def Begins (first : Char) : Prop :=
  isBlank first = false ∧ first ≠ ']' ∧ first ≠ '\x7d'

private instance (first : Char) : Decidable (Begins first) :=
  inferInstanceAs (Decidable (_ ∧ _))

private theorem begins_number {first : Char} (begins : first = '-' ∨ first.isDigit = true) :
    Begins first := by
  rcases begins with rfl | digit
  · decide
  · refine ⟨?_, ?_, ?_⟩
    · rw [Bool.eq_false_iff]
      intro blank
      simp only [isBlank, Bool.or_eq_true, decide_eq_true_eq] at blank
      rcases blank with ((rfl | rfl) | rfl) | rfl <;> contradiction
    all_goals
      rintro rfl
      contradiction

private theorem exists_begins {document : Json} (wellFormed : document.WellFormed) :
    ∃ first behind, document.write = first :: behind ∧ Begins first := by
  cases wellFormed with
  | null => exact ⟨_, _, rfl, by decide⟩
  | bool value => cases value <;> exact ⟨_, _, rfl, by decide⟩
  | number literal =>
      obtain ⟨first, behind, written, begins⟩ := exists_head_write literal
      exact ⟨first, behind, written, begins_number begins⟩
  | quoted content => cases content <;> exact ⟨_, _, rfl, by decide⟩
  | list | object => exact ⟨_, _, rfl, by decide⟩

@[simp] private theorem skipBlanks_cons {first : Char} (visible : isBlank first = false)
    (behind : List Char) : skipBlanks (first :: behind) = first :: behind := by
  simp [skipBlanks, visible]

private theorem readValue_number {first : Char} (begins : first = '-' ∨ first.isDigit = true)
    (steps : Nat) (behind : List Char) :
    readValue (steps + 1) (first :: behind) =
      (readNumber (first :: behind)).map fun (literal, after) => (.number literal, after) := by
  have other : ∀ character ∈ ['n', 't', 'f', '"', '[', '\x7b'], first ≠ character := by
    intro character listed
    rintro rfl
    simp only [List.mem_cons, List.not_mem_nil, or_false] at listed
    rcases listed with rfl | rfl | rfl | rfl | rfl | rfl <;> revert begins <;> decide
  rw [readValue, skipBlanks_cons (begins_number begins).1]
  split
  case h_7 => rfl
  all_goals
    next same => exact absurd (List.cons.inj same).1 (other _ (by decide))

/-- Reading the items of a list undoes writing them. -/
private theorem readItems_write {items : List Json} (nonempty : items ≠ [])
    (reads : ∀ item ∈ items, Reads item) (steps : Nat) (rest : List Char)
    (enough : 2 * (writeItems items).length < steps) :
    readItems steps (writeItems items ++ ']' :: rest) = some (items, rest) := by
  induction items generalizing steps with
  | nil => contradiction
  | cons item behind inductionHypothesis =>
      obtain ⟨remaining, rfl⟩ := Nat.exists_eq_add_one_of_ne_zero (by omega : steps ≠ 0)
      have itemReads := reads item (by simp)
      rw [readItems]
      cases behind with
      | nil =>
          rw [writeItems] at enough ⊢
          rw [itemReads remaining _ (by omega) (follows_cons (by decide) rest)]
          rfl
      | cons next others =>
          -- The comma pays for the steps of the items behind it.
          rw [writeItems, List.length_append, List.length_cons] at enough
          rw [writeItems, List.append_assoc, List.cons_append,
            itemReads remaining _ (by omega) (follows_cons (by decide) _)]
          have others := inductionHypothesis nofun
            (fun item member => reads item (List.mem_cons_of_mem _ member)) remaining (by omega)
          change (readItems remaining _).bind _ = _
          rw [others]
          rfl

/-- The first member is read back; what is read then depends on the text behind it. -/
private theorem readMembers_first {value : Json} (reads : Reads value) (name : Json.Text)
    {steps : Nat} {rest : List Char} (enough : 2 * value.write.length ≤ steps)
    (follows : Follows rest) :
    readMembers (steps + 1) (writeText name ++ ':' :: (value.write ++ rest)) =
      match skipBlanks rest with
      | ',' :: rest => (readMembers steps rest).map fun (members, after) =>
          ((name, value) :: members, after)
      | '\x7d' :: after => some ([(name, value)], after)
      | _ => none := by
  obtain ⟨written, text, nameReads⟩ := readText_writeText name (':' :: (value.write ++ rest))
  rw [text, readMembers, List.cons_append, skipBlanks_cons rfl]
  change (readText _).bind _ = _
  rw [nameReads]
  change (readValue steps _).bind _ = _
  rw [reads steps rest enough follows]
  change (match skipBlanks rest with
    | ',' :: rest => _
    | '\x7d' :: after => _
    | _ => _) = _
  split
  next => cases readMembers steps _ <;> rfl
  next => rfl
  next => rfl

/-- Reading the members of an object undoes writing them. -/
private theorem readMembers_write {members : List (Json.Text × Json)} (nonempty : members ≠ [])
    (reads : ∀ member ∈ members, Reads member.2) (steps : Nat) (rest : List Char)
    (enough : 2 * (writeMembers members).length < steps) :
    readMembers steps (writeMembers members ++ '\x7d' :: rest) = some (members, rest) := by
  induction members generalizing steps with
  | nil => contradiction
  | cons member behind inductionHypothesis =>
      obtain ⟨name, value⟩ := member
      obtain ⟨remaining, rfl⟩ := Nat.exists_eq_add_one_of_ne_zero (by omega : steps ≠ 0)
      have valueReads : Reads value := reads (name, value) (by simp)
      cases behind with
      | nil =>
          rw [writeMembers, List.length_append, List.length_cons] at enough
          rw [writeMembers, List.append_assoc, List.cons_append,
            readMembers_first valueReads name (by omega) (follows_cons (by decide) rest)]
          rfl
      | cons next others =>
          rw [writeMembers, List.length_append, List.length_cons, List.length_append,
            List.length_cons] at enough
          rw [writeMembers, List.append_assoc, List.cons_append, List.append_assoc,
            List.cons_append,
            readMembers_first valueReads name (by omega) (follows_cons (by decide) _)]
          have others := inductionHypothesis nofun
            (fun member listed => reads member (List.mem_cons_of_mem _ listed)) remaining (by omega)
          rw [skipBlanks_cons rfl]
          change (readMembers remaining _).map _ = _
          rw [others]
          rfl

/-- The items of a list that has some begin a value. -/
private theorem exists_begins_items {item : Json} (wellFormed : item.WellFormed)
    (rest : List Json) (behind : List Char) :
    ∃ first text, writeItems (item :: rest) ++ behind = first :: text ∧ Begins first := by
  obtain ⟨first, text, written, begins⟩ := exists_begins wellFormed
  cases rest <;> exact ⟨first, _, by rw [writeItems, written]; rfl, begins⟩

private theorem readValue_list {item : Json} (wellFormed : item.WellFormed) {rest : List Json}
    {steps : Nat} {behind after : List Char}
    (reads : readItems steps (writeItems (item :: rest) ++ behind) = some (item :: rest, after)) :
    readValue (steps + 1) ('[' :: (writeItems (item :: rest) ++ behind)) =
      some (.list (item :: rest), after) := by
  obtain ⟨first, text, written, visible, noBracket, _⟩ := exists_begins_items wellFormed rest behind
  rw [readValue, skipBlanks_cons rfl]
  rw [written] at reads ⊢
  simp only [skipBlanks_cons visible]
  split
  next same => exact absurd (List.cons.inj same).1 noBracket
  next =>
    rw [reads]
    rfl

private theorem readValue_object {member : Json.Text × Json} {rest : List (Json.Text × Json)}
    {steps : Nat} {behind after : List Char}
    (reads : readMembers steps (writeMembers (member :: rest) ++ behind) =
      some (member :: rest, after)) :
    readValue (steps + 1) ('\x7b' :: (writeMembers (member :: rest) ++ behind)) =
      some (.object (member :: rest), after) := by
  obtain ⟨text, written⟩ : ∃ text, writeMembers (member :: rest) ++ behind = '"' :: text := by
    obtain ⟨name, value⟩ := member
    cases rest <;> cases name <;> exact ⟨_, rfl⟩
  rw [readValue, skipBlanks_cons rfl]
  rw [written] at reads ⊢
  change (readMembers steps _).map _ = _
  rw [reads]
  rfl

/-- A reader of a written document has a step to begin with. -/
private theorem reads_of_step {document : Json} (wellFormed : document.WellFormed)
    (reads : ∀ steps rest, 2 * document.write.length ≤ steps + 1 → Follows rest →
      readValue (steps + 1) (document.write ++ rest) = some (document, rest)) :
    Reads document := by
  intro steps rest enough follows
  obtain ⟨first, behind, written, _⟩ := exists_begins wellFormed
  cases steps with
  | zero =>
      rw [written, List.length_cons] at enough
      omega
  | succ steps => exact reads steps rest enough follows

/-- Every well-formed document is read back. -/
theorem WellFormed.reads {document : Json} (wellFormed : document.WellFormed) :
    Reads document := by
  induction wellFormed with
  | null => exact reads_of_step .null fun _ _ _ _ => rfl
  | bool value =>
      refine reads_of_step (.bool value) fun _ _ _ _ => ?_
      cases value <;> rfl
  | @number literal wellFormed =>
      refine reads_of_step (.number wellFormed) fun steps rest _ follows => ?_
      obtain ⟨first, behind, written, begins⟩ := exists_head_write wellFormed
      have read := readNumber_write wellFormed follows
      change readValue (steps + 1) (literal.write ++ rest) = _
      rw [written, List.cons_append] at read ⊢
      rw [readValue_number begins, read]
      rfl
  | quoted content =>
      refine reads_of_step (.quoted content) fun steps rest _ _ => ?_
      obtain ⟨behind, written, read⟩ := readText_writeText content rest
      change readValue (steps + 1) (writeText content ++ rest) = _
      rw [written, List.cons_append]
      change (readText _).map _ = _
      rw [read]
      rfl
  | @list items wellFormed reads =>
      refine reads_of_step (.list wellFormed) fun steps rest enough _ => ?_
      cases items with
      | nil => rfl
      | cons item others =>
          rw [write, List.length_cons, List.length_append] at enough
          rw [write, List.cons_append, List.append_assoc, List.singleton_append]
          exact readValue_list (wellFormed item (by simp))
            (readItems_write (List.cons_ne_nil _ _) reads steps rest (by omega))
  | @object members wellFormed reads =>
      refine reads_of_step (.object wellFormed) fun steps rest enough _ => ?_
      cases members with
      | nil => rfl
      | cons member others =>
          rw [write, List.length_cons, List.length_append] at enough
          rw [write, List.cons_append, List.append_assoc, List.singleton_append]
          exact readValue_object
            (readMembers_write (List.cons_ne_nil _ _) reads steps rest (by omega))

/-- Reading the text of a well-formed document gives the document back. -/
theorem read?_toText {document : Json} (wellFormed : document.WellFormed) :
    read? document.toText = some document := by
  have reads := wellFormed.reads (2 * document.write.length + 2) [] (by omega) follows_nil
  rw [List.append_nil] at reads
  change (readValue _ _).bind _ = _
  rw [toText, String.toList_ofList, reads]
  rfl

end SchemaKeeper.Json
