/-! # Calendar dates

Dates of the Gregorian calendar, extended to all years from zero to 9999, and the count of days
before and after the first of January 1970. A date carries the proof that it exists. A date of the
year zero can be read and not be kept: `Date.isKept` tells the others.
-/

namespace TableSchema.Format

/-- Whether a year has a leap day. -/
def isLeapYear (year : Nat) : Bool :=
  year % 4 == 0 && (year % 100 != 0 || year % 400 == 0)

/-- The number of days in a month, and none outside the twelve months. -/
def daysInMonth (year month : Nat) : Nat :=
  match month with
  | 1 | 3 | 5 | 7 | 8 | 10 | 12 => 31
  | 4 | 6 | 9 | 11 => 30
  | 2 => if isLeapYear year then 29 else 28
  | _ => 0

/-- A calendar date. -/
structure Date where
  year : Nat
  month : Nat
  day : Nat
  year_bound : year ≤ 9999
  day_bounds : 1 ≤ day ∧ day ≤ daysInMonth year month

namespace Date

/-- The date of a year, a month and a day, if there is one. -/
def of? (year month day : Nat) : Option Date :=
  if exists_ : year ≤ 9999 ∧ (1 ≤ day ∧ day ≤ daysInMonth year month) then
    some ⟨year, month, day, exists_.1, exists_.2⟩
  else none

/-- The date that lies the given number of days after the first of January 1970. Days are counted
in eras of 400 years that begin with a March, so that a leap day ends a year. -/
def ofDays? (days : Int) : Option Date :=
  let shifted := days + 719468
  let era := shifted.fdiv 146097
  let dayOfEra := (shifted - era * 146097).toNat
  let yearOfEra := (dayOfEra - dayOfEra / 1460 + dayOfEra / 36524 - dayOfEra / 146096) / 365
  let dayOfYear := dayOfEra - (365 * yearOfEra + yearOfEra / 4 - yearOfEra / 100)
  let monthFromMarch := (5 * dayOfYear + 2) / 153
  let day := dayOfYear - (153 * monthFromMarch + 2) / 5 + 1
  let month := if monthFromMarch < 10 then monthFromMarch + 3 else monthFromMarch - 9
  let year := yearOfEra + era * 400 + (if month ≤ 2 then 1 else 0)
  if year < 0 then none else of? year.toNat month day

/-- Whether a date can be kept as a value. -/
def isKept (date : Date) : Bool :=
  0 < date.year

end Date

end TableSchema.Format
