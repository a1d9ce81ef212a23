import SchemaKeeper.Decimal

/-!
Contract: server versions.

A version report begins with the major and the minor version: two runs of digits
with one other character between them. What follows the second run is ignored.

Owns: reading reports, and since when insertions can return the stored row.
-/

namespace SchemaKeeper.MariaDb

structure Version where
  major : UInt32
  minor : UInt32
deriving DecidableEq

namespace Version

/-- The number that digits stand for, if there are any and it fits into 32 bits. -/
def number? (digits : List Char) : Option UInt32 :=
  (Decimal.natural? digits).bind fun value =>
    if value < Nat.pow 2 32 then some (.ofNat value) else none

/-- The version at the beginning of a report. -/
def ofChars? (report : List Char) : Option Version := do
  let major ← number? (report.takeWhile Char.isDigit)
  match report.dropWhile Char.isDigit with
  | [] => none
  | _ :: rest => return ⟨major, ← number? (rest.takeWhile Char.isDigit)⟩

def ofReport? (report : String) : Option Version :=
  ofChars? report.toList

def atLeast (version bound : Version) : Bool :=
  bound.major < version.major || (bound.major == version.major && bound.minor ≤ version.minor)

/-- The first version in which insertions can return the stored row. -/
def returningSince : Version := ⟨10, 5⟩

def supportsReturning (version : Version) : Bool :=
  version.atLeast returningSince

end Version

end SchemaKeeper.MariaDb
