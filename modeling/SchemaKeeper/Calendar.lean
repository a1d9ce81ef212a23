import SchemaKeeper.Decimal
import SchemaKeeper.Text.Parts

/-!
Contract: dates and times of day as databases write them.

A date is `year-month-day` and exists in the calendar; a time of day is
`hour:minute:second` with an optional fraction in microseconds and stays below
twenty-four hours. Written fractions have no, three or six digits, whichever
suffices.

Owns: reading, the calendar's bounds, and writing.
-/

namespace SchemaKeeper

namespace Text

/-- Writes a number with at least `width` digits. -/
def padded (width number : Nat) : List Char :=
  let digits := Decimal.digitChars number
  List.replicate (width - digits.length) '0' ++ digits

end Text

/-! ## Dates -/

namespace Date

def isLeap (year : Nat) : Bool :=
  year % 4 = 0 && (year % 100 ≠ 0 || year % 400 = 0)

def daysIn (year month : Nat) : Nat :=
  if month = 2 then (if isLeap year then 29 else 28)
  else if month = 4 ∨ month = 6 ∨ month = 9 ∨ month = 11 then 30
  else 31

end Date

structure Date where
  year : Nat
  month : Nat
  day : Nat
  month_le : 1 ≤ month ∧ month ≤ 12
  day_le : 1 ≤ day ∧ day ≤ Date.daysIn year month

namespace Date

def ofNumbers? (year month day : Nat) : Option Date :=
  if bounds : (1 ≤ month ∧ month ≤ 12) ∧ (1 ≤ day ∧ day ≤ daysIn year month) then
    some ⟨year, month, day, bounds.1, bounds.2⟩
  else
    none

/-- Reads `year-month-day`. -/
def ofChars? (text : List Char) : Option Date :=
  match Text.parts '-' text with
  | [year, month, day] => do
      ofNumbers? (← Decimal.natural? year) (← Decimal.natural? month) (← Decimal.natural? day)
  | _ => none

/-- Writes `year-month-day`; a year beyond four digits carries a sign. -/
def chars (date : Date) : List Char :=
  (if 9999 < date.year then ['+'] else []) ++ Text.padded 4 date.year ++ '-' ::
    Text.padded 2 date.month ++ '-' :: Text.padded 2 date.day

end Date

/-! ## Times -/

/-- A time of day, exact to the microsecond. -/
structure TimeOfDay where
  hour : Nat
  minute : Nat
  second : Nat
  microsecond : Nat
  hour_lt : hour < 24
  minute_lt : minute < 60
  second_lt : second < 60
  microsecond_lt : microsecond < 1000000

namespace TimeOfDay

def midnight : TimeOfDay :=
  ⟨0, 0, 0, 0, by decide, by decide, by decide, by decide⟩

def ofNumbers? (hour minute second microsecond : Nat) : Option TimeOfDay :=
  if bounds : hour < 24 ∧ minute < 60 ∧ second < 60 ∧ microsecond < 1000000 then
    some ⟨hour, minute, second, microsecond, bounds.1, bounds.2.1, bounds.2.2.1, bounds.2.2.2⟩
  else
    none

def microseconds? (digits : List Char) : Option Nat :=
  if 6 < digits.length then none
  else Decimal.natural? (digits ++ List.replicate (6 - digits.length) '0')

/-- Reads `hour:minute:second` with an optional fraction. -/
def ofChars? (text : List Char) : Option TimeOfDay :=
  match Text.parts ':' text with
  | [hour, minute, second] => do
      let hour ← Decimal.natural? hour
      let minute ← Decimal.natural? minute
      match Text.parts '.' second with
      | [second] => ofNumbers? hour minute (← Decimal.natural? second) 0
      | [second, fraction] =>
          ofNumbers? hour minute (← Decimal.natural? second) (← microseconds? fraction)
      | _ => none
  | _ => none

/-- The fraction with its point: nothing, three digits or six. -/
def fractionChars (time : TimeOfDay) : List Char :=
  if time.microsecond = 0 then []
  else if time.microsecond % 1000 = 0 then '.' :: Text.padded 3 (time.microsecond / 1000)
  else '.' :: Text.padded 6 time.microsecond

def chars (time : TimeOfDay) : List Char :=
  Text.padded 2 time.hour ++ ':' :: Text.padded 2 time.minute ++ ':' ::
    Text.padded 2 time.second ++ time.fractionChars

end TimeOfDay

/-! ## Both together -/

structure DateTime where
  date : Date
  time : TimeOfDay

namespace DateTime

/-- Reads a date and, behind a space, a time; midnight if there is none. -/
def ofChars? (text : List Char) : Option DateTime :=
  match Text.parts ' ' text with
  | [date] => do return ⟨← Date.ofChars? date, .midnight⟩
  | [date, time] => do return ⟨← Date.ofChars? date, ← TimeOfDay.ofChars? time⟩
  | _ => none

def chars (moment : DateTime) : List Char :=
  moment.date.chars ++ ' ' :: moment.time.chars

end DateTime

end SchemaKeeper
