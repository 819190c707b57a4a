import TableSchema.Format.Calendar
import TableSchema.Text.Digit
import TableSchema.Text.Identifier
import TableSchema.Value.Numeral

/-! # Dates and times as text

Dates, times of day and timestamps are read from their ISO spellings and written in one canonical
spelling: seconds always, six digits of a fraction where there is one, and an offset from universal
time in hours and minutes. A timestamp may also be a count of seconds, or of milliseconds, since
1970; it is then in universal time. A count with a point is a floating point number, and its
microseconds are those of that number. Numbers that are no texts count, too: seconds since 1970 or
since midnight.
-/

namespace TableSchema.Format

/-- A time of day, and its offset from universal time in minutes if it has one. -/
structure TimeOfDay where
  hour : Nat := 0
  minute : Nat := 0
  second : Nat := 0
  microsecond : Nat := 0
  offset : Option Int := none
deriving DecidableEq

/-- A date with a time of day. -/
structure Timestamp where
  date : Date
  time : TimeOfDay := {}

/-- Reads exactly `count` ASCII digits as a number. -/
def takeDigits? (count : Nat) (text : List Char) : Option (Nat × List Char) :=
  let digits := text.take count
  if digits.length = count ∧ digits.all Text.isAsciiDigit then
    some (Text.digitsValue digits, text.drop count)
  else none

/-- Reads one of the given characters. -/
def takeMark? (marks : List Char) : List Char → Option (List Char)
  | c :: rest => if marks.contains c then some rest else none
  | [] => none

/-- Reads a date. -/
def takeDate? (text : List Char) : Option (Date × List Char) := do
  let (year, text) ← takeDigits? 4 text
  let text ← takeMark? ['-'] text
  let (month, text) ← takeDigits? 2 text
  let text ← takeMark? ['-'] text
  let (day, text) ← takeDigits? 2 text
  return (← Date.of? year month day, text)

/-- Reads the fraction of a second as microseconds; digits after the sixth are dropped. -/
def takeFraction? (text : List Char) : Option (Nat × List Char) :=
  let digits := text.takeWhile Text.isAsciiDigit
  if digits.isEmpty then none
  else
    let six := (digits ++ List.replicate 6 '0').take 6
    some (Text.digitsValue six, text.drop digits.length)

/-- Reads the seconds of a time, with or without a fraction; a time may end at its minutes. -/
def takeSeconds? (text : List Char) : Option ((Nat × Nat) × List Char) :=
  match text with
  | ':' :: rest => do
    let (second, rest) ← takeDigits? 2 rest
    if 59 < second then none
    else match takeMark? ['.', ','] rest with
      | some rest => do
        let (microsecond, rest) ← takeFraction? rest
        return ((second, microsecond), rest)
      | none => return ((second, 0), rest)
  | rest => some ((0, 0), rest)

/-- Reads the offset from universal time that ends a text. -/
def offset? (text : List Char) : Option (Option Int) :=
  match text with
  | [] => some none
  | ['Z'] => some (some 0)
  | ['z'] => some (some 0)
  | sign :: rest => do
    let negative ← if sign = '+' then some false
      else if sign = '-' ∨ sign = '\u2212' then some true else none
    let (hours, rest) ← takeDigits? 2 rest
    let (minutes, rest) ← takeDigits? 2 ((takeMark? [':'] rest).getD rest)
    if rest.isEmpty ∧ hours < 24 ∧ minutes < 60 then
      let offset : Int := hours * 60 + minutes
      return some (if negative then -offset else offset)
    else none

/-- The time of day that a text writes. -/
def TimeOfDay.ofText? (text : List Char) : Option TimeOfDay := do
  let (hour, text) ← takeDigits? 2 text
  let text ← takeMark? [':'] text
  let (minute, text) ← takeDigits? 2 text
  let ((second, microsecond), text) ← takeSeconds? text
  let offset ← offset? text
  if hour < 24 ∧ minute < 60 then return { hour, minute, second, microsecond, offset }
  else none

/-- The greatest number that is taken for seconds and not for milliseconds. -/
def secondsLimit : Nat :=
  20000000000

/-- The moment a number of microseconds after the beginning of 1970, in universal time. -/
def Timestamp.ofMicroseconds? (microseconds : Int) : Option Timestamp := do
  let seconds := microseconds.fdiv 1000000
  let days := seconds.fdiv 86400
  let second := (seconds - days * 86400).toNat
  let date ← Date.ofDays? days
  return {
    date
    time := {
      hour := second / 3600
      minute := second / 60 % 60
      second := second % 60
      microsecond := (microseconds - seconds * 1000000).toNat
      offset := some 0 } }

/-- The moment that lies a count of seconds, or of milliseconds where the count is too great for
seconds, and some microseconds after the beginning of 1970. -/
def Timestamp.ofCount? (count : Int) (microseconds : Nat := 0) : Option Timestamp :=
  Timestamp.ofMicroseconds?
    (count * (if count.natAbs ≤ secondsLimit then 1000000 else 1000) + microseconds)

/-- The microseconds of a fraction of a second that is given in units of floating point numbers, to
the nearest one. -/
def microsecondsOfUnits? (units : Nat) : Option Nat := do
  let one := Binary64.unitsInOne
  let microseconds ← (← (Binary64.ofQuotient false units one).scaled? 1000000 1).units?
  return (2 * microseconds.toNat + one) / (2 * one)

/-- The moment that a floating point count gives, to the nearest microsecond. -/
def Timestamp.ofBinary64? (count : Binary64) : Option Timestamp := do
  let isGreat := (Binary64.ofInt secondsLimit).less count ||
    count.less (Binary64.ofInt (-(secondsLimit : Int)))
  let seconds ← if isGreat then count.scaled? 1 1000 else some count
  let units ← seconds.units?
  let whole := units.fdiv Binary64.unitsInOne
  Timestamp.ofCount? whole
    (← microsecondsOfUnits? (units - whole * Binary64.unitsInOne).toNat)

/-- The time of day that lies a count of seconds and some microseconds after midnight. -/
def TimeOfDay.ofCount? (count : Int) (microseconds : Nat := 0) : Option TimeOfDay :=
  let second := count.toNat + microseconds / 1000000
  if 0 ≤ count ∧ second < 86400 then
    some {
      hour := second / 3600
      minute := second / 60 % 60
      second := second % 60
      microsecond := microseconds % 1000000 }
  else none

/-- The whole number below a number that is no text, and the microseconds of its fraction. The
fraction is taken without its sign, and as one of a second also where the count is in milliseconds.
-/
def splitCount? (count : Binary64) : Option (Int × Nat) := do
  let units ← count.units?
  return (units.fdiv Binary64.unitsInOne,
    ← microsecondsOfUnits? (units.natAbs % Binary64.unitsInOne))

/-- A count as a text writes it. -/
inductive Count where
  | whole (count : Int)
  /-- A count with a point. -/
  | fractional (count : Binary64)

/-- The count that a text writes in ASCII digits, on one side of its point at least. -/
def Count.ofText? (text : List Char) : Option Count :=
  let (negative, unsigned) := Numeral.splitSign text
  let whole := unsigned.takeWhile Text.isAsciiDigit
  match unsigned.drop whole.length with
  | [] =>
    if whole.isEmpty then none
    else
      let count : Int := Text.digitsValue whole
      some (.whole (if negative then -count else count))
  | '.' :: fraction =>
    if fraction.all Text.isAsciiDigit && !(whole ++ fraction).isEmpty then
      some (.fractional { negative, whole, fraction, exponent := 0 : Numeral }.toBinary64)
    else none
  | _ => none

/-- The moment that a count gives. -/
def Count.moment? : Count → Option Timestamp
  | .whole count => Timestamp.ofCount? count
  | .fractional count => Timestamp.ofBinary64? count

/-- The date at whose beginning a whole number of seconds ends. Milliseconds beyond the last whole
second do not count. -/
def Date.ofCount? (count : Int) : Option Date :=
  let seconds := if count.natAbs ≤ secondsLimit then count else count.fdiv 1000
  if seconds % 86400 = 0 then Date.ofDays? (seconds / 86400) else none

/-- The date that a text writes, or that it gives as a count. -/
def Date.ofText? (text : List Char) : Option Date :=
  match takeDate? text with
  | some (date, rest) => if rest.isEmpty then some date else none
  | none =>
    match Count.ofText? text with
    | some (.whole count) => Date.ofCount? count
    | _ => none

/-- The timestamp that a text writes with a date and perhaps a time. -/
def Timestamp.ofParts? (text : List Char) : Option Timestamp := do
  let (date, rest) ← takeDate? text
  if rest.isEmpty then return { date }
  else
    let rest ← takeMark? ['T', 't', ' ', '_'] rest
    return { date, time := ← TimeOfDay.ofText? rest }

/-- The timestamp that a text writes. -/
def Timestamp.ofText? (text : List Char) : Option Timestamp :=
  (Timestamp.ofParts? text).or ((Count.ofText? text).bind Count.moment?)

/-- A number in base ten, padded with zeros to `width` digits. -/
def padded (width n : Nat) : List Char :=
  let digits := Nat.toDigits 10 n
  List.replicate (width - digits.length) '0' ++ digits

/-- The canonical text of a date. -/
def Date.text (date : Date) : List Char :=
  padded 4 date.year ++ '-' :: padded 2 date.month ++ '-' :: padded 2 date.day

/-- The canonical text of an offset. -/
def offsetText (offset : Int) : List Char :=
  (if offset < 0 then '-' else '+') ::
    padded 2 (offset.natAbs / 60) ++ ':' :: padded 2 (offset.natAbs % 60)

/-- The canonical text of a time of day. -/
def TimeOfDay.text (time : TimeOfDay) : List Char :=
  padded 2 time.hour ++ ':' :: padded 2 time.minute ++ ':' :: padded 2 time.second ++
    (if time.microsecond = 0 then [] else '.' :: padded 6 time.microsecond) ++
    (match time.offset with
      | some offset => offsetText offset
      | none => [])

/-- The canonical text of a timestamp. -/
def Timestamp.text (timestamp : Timestamp) : List Char :=
  timestamp.date.text ++ 'T' :: timestamp.time.text

/-- Whether a timestamp is the beginning of a day. -/
def Timestamp.isMidnight (timestamp : Timestamp) : Bool :=
  timestamp.time.hour == 0 && timestamp.time.minute == 0 && timestamp.time.second == 0 &&
    timestamp.time.microsecond == 0

end TableSchema.Format
