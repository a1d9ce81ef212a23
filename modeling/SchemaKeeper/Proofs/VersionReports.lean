import Mathlib.Data.Nat.Digits.Defs
import Mathlib.Data.Prod.Lex
import SchemaKeeper.MariaDb.Catalogue
import SchemaKeeper.Proofs.Lifecycle
import SchemaKeeper.Proofs.Writes

/-!
Contract: which version a server's report stands for, and what follows for insertions.

A report begins with the version: digits for the major number, one other character, and a run of
digits for the minor number. This grammar is stated apart from the reader, with numbers by the
value of their digits, and the reader follows it on every text. A session keeps the version
that was read when it was opened, and asks for stored rows by it alone.

Owns: the grammar of reports, and the statements that insert rows over a session.

Does not own: when a session is open (`Lifecycle`).
-/

namespace SchemaKeeper.MariaDb

namespace Version

/-! ## Grammar -/

/-- Decimal digits, at least one, that have the value of the number. -/
structure Denotes (digits : List Char) (number : UInt32) : Prop where
  nonempty : digits ≠ []
  decimal : ∀ digit ∈ digits, digit.isDigit = true
  value : Nat.ofDigits 10 (digits.reverse.map fun digit => digit.toNat - '0'.toNat) =
    number.toNat

/-- The report begins with the version, and the digits of the minor number end where they do not
go on. -/
inductive Heads (version : Version) : List Char → Prop where
  | intro {major minor rest : List Char} {mark : Char}
      (majorNumber : Denotes major version.major) (separates : mark.isDigit = false)
      (minorNumber : Denotes minor version.minor)
      (ends : ∀ next ∈ rest.head?, next.isDigit = false) :
      Heads version (major ++ mark :: (minor ++ rest))

/-! ## Numbers -/

/-- The value of digits that are read from the front is the value of their places. -/
private theorem ofDigitChars_eq_ofDigits (digits : List Char) :
    Nat.ofDigitChars 10 digits 0 =
      Nat.ofDigits 10 (digits.reverse.map fun digit => digit.toNat - '0'.toNat) := by
  induction digits with
  | nil => rfl
  | cons digit rest inductionHypothesis =>
      rw [Nat.ofDigitChars_cons, Nat.ofDigitChars_eq_ofDigitChars_zero, inductionHypothesis,
        List.map_reverse, List.map_reverse, List.map_cons, Nat.ofDigits_reverse_cons,
        List.length_map, Nat.mul_zero, Nat.zero_add, Nat.add_comm]

theorem number?_eq_some_iff {digits : List Char} {number : UInt32} :
    number? digits = some number ↔ Denotes digits number := by
  unfold number? Decimal.natural?
  rw [ofDigitChars_eq_ofDigits]
  constructor
  · intro read
    split at read
    next => contradiction
    next wellFormed =>
      rw [Option.bind_some] at read
      split at read
      next fits =>
        cases read
        simp only [Bool.or_eq_true, List.isEmpty_iff, Bool.not_eq_true', Bool.not_eq_false,
          not_or, List.all_eq_true] at wellFormed
        exact ⟨wellFormed.1, wellFormed.2, (UInt32.toNat_ofNat_of_lt' fits).symm⟩
      next => contradiction
  · rintro ⟨nonempty, decimal, value⟩
    rw [value, if_neg (by simpa [nonempty] using decimal), Option.bind_some,
      if_pos number.toNat_lt, UInt32.ofNat_toNat]

theorem denotes_toDigits (number : UInt32) : Denotes (Nat.toDigits 10 number.toNat) number where
  nonempty := Nat.toDigits_ne_nil
  decimal _ member := Nat.isDigit_of_mem_toDigits (by decide) (by decide) member
  value := by rw [← ofDigitChars_eq_ofDigits, Nat.ofDigitChars_ten_toDigits]

/-! ## Reports -/

theorem ofChars?_eq_some_iff {report : List Char} {version : Version} :
    ofChars? report = some version ↔ version.Heads report := by
  constructor
  · intro read
    unfold ofChars? at read
    obtain ⟨major, majorRead, read⟩ := Option.bind_eq_some_iff.1 read
    have whole := List.takeWhile_append_dropWhile (p := Char.isDigit) (l := report)
    have stops := List.head?_dropWhile_not Char.isDigit report
    cases behind : report.dropWhile Char.isDigit with
    | nil =>
        rw [behind] at read
        contradiction
    | cons mark others =>
        rw [behind] at read whole stops
        obtain ⟨minor, minorRead, read⟩ := Option.bind_eq_some_iff.1 read
        cases read
        rw [← whole, ← List.takeWhile_append_dropWhile (p := Char.isDigit) (l := others)]
        refine .intro (number?_eq_some_iff.1 majorRead) stops (number?_eq_some_iff.1 minorRead) ?_
        intro next first
        have stopsAgain := List.head?_dropWhile_not Char.isDigit others
        rwa [first] at stopsAgain
  · rintro @⟨major, minor, rest, mark, majorNumber, separates, minorNumber, ends⟩
    have stops : ∀ next ∈ (mark :: (minor ++ rest)).head?, next.isDigit = false := by
      rintro next ⟨⟩
      exact separates
    obtain ⟨majorTaken, behind⟩ := span_run majorNumber.decimal stops
    obtain ⟨minorTaken, -⟩ := span_run minorNumber.decimal ends
    unfold ofChars?
    rw [majorTaken, behind, number?_eq_some_iff.2 majorNumber]
    dsimp only [bind, Option.bind]
    rw [minorTaken, number?_eq_some_iff.2 minorNumber]
    rfl

/-- The numbers of a version with a point between them are read as the version, whatever follows
them but a digit. -/
theorem ofReport?_pointed (version : Version) {suffix : String}
    (ends : ∀ next ∈ suffix.toList.head?, next.isDigit = false) :
    ofReport? (toString version.major ++ "." ++ toString version.minor ++ suffix) =
      some version := by
  have written (number : UInt32) : (toString number).toList = Nat.toDigits 10 number.toNat :=
    Nat.toList_repr
  have parts : (toString version.major ++ "." ++ toString version.minor ++ suffix).toList =
      Nat.toDigits 10 version.major.toNat ++
        '.' :: (Nat.toDigits 10 version.minor.toNat ++ suffix.toList) := by
    simp [written]
  rw [ofReport?, parts, ofChars?_eq_some_iff]
  exact .intro (denotes_toDigits version.major) rfl (denotes_toDigits version.minor) ends

end Version

/-! ## Insertions -/

namespace Session

variable {σ : Type} [Server σ]

/-- Over the session, rows are inserted by statements that ask for the stored row, or by none
that do. -/
structure AsksForRows (session : Session σ) (returning : Bool) : Prop where
  available : Connection.supportsReturning session = (.ok returning, session)
  inserts : ∀ (table : Table) (record : Record) (row : Row), table.insertion record = .ok row →
    Request.SendsFirst (.insert table.name row returning) (table.ReadsBack row)
      (table.insert record) (Traced.start session)
  upserts : ∀ (table : Table) (record : Record) (updated : Option (List String)) (row : Row)
    (names : List String), table.upsertion record updated = .ok (row, names) →
      Request.SendsFirst (.upsert table.name row names returning) (table.ReadsBack row)
        (table.upsert record updated) (Traced.start session)

/-- The version that an open session holds says how rows are inserted over it. -/
theorem asksForRows_open (server : σ) (version : Version) :
    AsksForRows ⟨server, some version⟩ version.supportsReturning where
  available := rfl
  inserts _ _ _ written := Table.insert_sendsFirst written rfl
  upserts _ _ _ _ _ written := Table.upsert_sendsFirst written rfl

/-- Opening a session with a server that reports a version keeps the version. -/
theorem connect_reported {server entered later : σ} {report : String} {version : Version}
    (admitted : Server.login server = (some (), entered))
    (reported : Server.version entered = (some report, later))
    (read : Version.ofReport? report = some version) :
    Connection.connect (closed server) = (.ok (), ⟨later, some version⟩) := by
  have logsIn : ask Server.login (closed server) = (.ok (), ⟨entered, none⟩) :=
    ask_eq_ok_iff.2 ⟨entered, admitted, rfl⟩
  have reports : ask Server.version ⟨entered, none⟩ = (.ok report, ⟨later, none⟩) :=
    ask_eq_ok_iff.2 ⟨later, reported, rfl⟩
  change openClosed (closed server) = _
  rw [openClosed, run_bind_ok logsIn, run_bind_ok reports, read]
  rfl

end Session

/-- A report is read as the version that it begins with, and as none if it begins with none. A
session with the server that gave it asks for stored rows exactly if that version is not before
10.5. -/
theorem report_decides_returning (report : String) :
    (∀ version, Version.ofReport? report = some version ↔ version.Heads report.toList) ∧
      (Version.ofReport? report = none ↔ ∀ version : Version, ¬ version.Heads report.toList) ∧
      (∀ (major minor : UInt32) (suffix : String),
        (∀ next ∈ suffix.toList.head?, next.isDigit = false) →
          report = toString major ++ "." ++ toString minor ++ suffix →
            Version.ofReport? report = some ⟨major, minor⟩) ∧
      ∀ {σ : Type} [Server σ] {server entered later : σ} {version : Version},
        Server.login server = (some (), entered) →
          Server.version entered = (some report, later) → version.Heads report.toList →
            Connection.connect (Session.closed server) = (.ok (), ⟨later, some version⟩) ∧
              ∃ returning, Session.AsksForRows ⟨later, some version⟩ returning ∧
                (returning = true ↔
                  toLex ((10 : UInt32), (5 : UInt32)) ≤ toLex (version.major, version.minor)) := by
  have read : ∀ version, Version.ofReport? report = some version ↔ version.Heads report.toList :=
    fun _ => Version.ofChars?_eq_some_iff
  refine ⟨read, ?_, ?_, ?_⟩
  · simp only [Option.eq_none_iff_forall_ne_some, ne_eq, read]
  · rintro major minor suffix ends rfl
    exact Version.ofReport?_pointed ⟨major, minor⟩ ends
  · intro σ _ server entered later version admitted reported heads
    refine ⟨Session.connect_reported admitted reported ((read version).2 heads),
      version.supportsReturning, Session.asksForRows_open later version, ?_⟩
    rw [Prod.Lex.toLex_le_toLex, Session.supportsReturning_iff, eq_comm (a := version.major)]

/-- A server that reports 10.11.6 is asked for stored rows. -/
theorem catalogue_asked_for_rows :
    Version.Heads ⟨10, 11⟩ "10.11.6-MariaDB".toList ∧
      Connection.connect (Session.closed Catalogue.empty) =
        (.ok (), ⟨Catalogue.empty, some ⟨10, 11⟩⟩) ∧
      Session.AsksForRows ⟨Catalogue.empty, some ⟨10, 11⟩⟩ true := by
  obtain ⟨read, -, -, asks⟩ := report_decides_returning "10.11.6-MariaDB"
  have heads : Version.Heads ⟨10, 11⟩ "10.11.6-MariaDB".toList := (read ⟨10, 11⟩).1 (by decide)
  obtain ⟨connected, returning, asked, recent⟩ :=
    @asks Catalogue _ Catalogue.empty Catalogue.empty Catalogue.empty ⟨10, 11⟩ rfl rfl heads
  obtain rfl : returning = true := recent.2 (Prod.Lex.toLex_le_toLex.2 (by decide))
  exact ⟨heads, connected, asked⟩

end SchemaKeeper.MariaDb
