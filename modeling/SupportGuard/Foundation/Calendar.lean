import Mathlib.Data.List.Basic
import Mathlib.Data.Nat.Basic
import Mathlib.Order.Basic

/-! # Instants and civil time

Instants are microseconds of the proleptic Gregorian calendar, counted from the
start of year 1 and ending with year 9999. A date-time has a local reading and,
unless it is naive, an offset from UTC. -/

namespace Foundation

/-! ## Instants -/

def microsecondsPerDay : Nat := 86400000000

/-- The days of the years 1 to 9999. -/
def calendarDays : Nat := 3652059

structure Instant where
  microseconds : Nat
  inRange : microseconds < calendarDays * microsecondsPerDay
deriving DecidableEq

namespace Instant

theorem first_inRange : 0 < calendarDays * microsecondsPerDay := by decide

theorem twoMilliseconds_inRange : 2000 < calendarDays * microsecondsPerDay := by decide

theorem halfMinute_inRange : 30000000 < calendarDays * microsecondsPerDay := by decide

theorem minute_inRange : 60000000 < calendarDays * microsecondsPerDay := by decide

theorem minuteAndHalf_inRange : 90000000 < calendarDays * microsecondsPerDay := by decide

theorem july2026_inRange : 63919670400000000 < calendarDays * microsecondsPerDay := by decide

theorem ext_microseconds {left right : Instant}
    (equal : left.microseconds = right.microseconds) : left = right := by
  cases left
  cases right
  cases equal
  rfl

instance : LinearOrder Instant :=
  LinearOrder.lift' Instant.microseconds fun _ _ => ext_microseconds

/-- The instant some microseconds later; none outside the calendar. -/
def add? (instant : Instant) (duration : Int) : Option Instant :=
  let shifted := (instant.microseconds : Int) + duration
  if inRange : 0 ≤ shifted ∧ shifted.toNat < calendarDays * microsecondsPerDay then
    some ⟨shifted.toNat, inRange.2⟩
  else none

theorem add?_zero (instant : Instant) : instant.add? 0 = some instant := by
  have inRange := instant.inRange
  simp [add?, inRange]

end Instant

/-- The magnitude of a duration is at most 999999999 days, and it ends before the
next day begins. -/
def duration? (microseconds : Int) : Option Int :=
  if -999999999 * microsecondsPerDay ≤ microseconds ∧
      microseconds < 1000000000 * microsecondsPerDay then some microseconds
  else none

/-- An offset from UTC is less than a day. -/
structure UtcOffset where
  microseconds : Int
  bounded : microseconds.natAbs < microsecondsPerDay
deriving DecidableEq

theorem UtcOffset.utc_bounded : (0 : Int).natAbs < microsecondsPerDay := by decide

structure DateTime where
  reading : Instant
  offset : Option UtcOffset
deriving DecidableEq

namespace DateTime

/-- The instant of a date-time; a naive one reads UTC. None when subtracting the
offset leaves the calendar. -/
def instant? (value : DateTime) : Option Instant :=
  match value.offset with
  | none => some value.reading
  | some offset => value.reading.add? (-offset.microseconds)

end DateTime

/-! ## Civil fields -/

structure CivilDate where
  year : Nat
  month : Nat
  day : Nat
deriving DecidableEq

def isLeapYear (year : Nat) : Bool :=
  year % 4 == 0 && (year % 100 != 0 || year % 400 == 0)

def monthLengths (year : Nat) : List Nat :=
  [31, if isLeapYear year then 29 else 28, 31, 30, 31, 30, 31, 31, 30, 31, 30, 31]

/-- The month and day of a day of the year, walking the months in order. -/
def monthAndDay : Nat → List Nat → Nat → Nat × Nat
  | month, [], day => (month, day + 1)
  | month, length :: rest, day =>
      if day < length then (month, day + 1)
      else monthAndDay (month + 1) rest (day - length)

/-- The civil date of a day counted from the first day of year 1, by cycles of
400, 100, 4 and 1 years. -/
def civilDate (days : Nat) : CivilDate :=
  let cycle := days % 146097
  let century := min (cycle / 36524) 3
  let inCentury := cycle - century * 36524
  let quadrennium := inCentury / 1461
  let inQuadrennium := inCentury % 1461
  let single := min (inQuadrennium / 365) 3
  let year := days / 146097 * 400 + century * 100 + quadrennium * 4 + single + 1
  let (month, day) := monthAndDay 1 (monthLengths year) (inQuadrennium - single * 365)
  { year, month, day }

structure ClockTime where
  hour : Nat
  minute : Nat
  second : Nat
  microsecond : Nat
deriving DecidableEq

def clockTime (microseconds : Nat) : ClockTime where
  hour := microseconds / 3600000000
  minute := microseconds / 60000000 % 60
  second := microseconds / 1000000 % 60
  microsecond := microseconds % 1000000

namespace Instant

def date (instant : Instant) : CivilDate :=
  civilDate (instant.microseconds / microsecondsPerDay)

def time (instant : Instant) : ClockTime :=
  clockTime (instant.microseconds % microsecondsPerDay)

end Instant

/-! ## Text -/

/-- Decimal digits, filled with zeros on the left up to `width`. -/
def zeroPadded (width value : Nat) : String :=
  let digits := Nat.toDigits 10 value
  String.ofList (List.replicate (width - digits.length) '0' ++ digits)

def CivilDate.isoformat (date : CivilDate) : String :=
  zeroPadded 4 date.year ++ "-" ++ zeroPadded 2 date.month ++ "-" ++
    zeroPadded 2 date.day

def ClockTime.isoformat (time : ClockTime) : String :=
  zeroPadded 2 time.hour ++ ":" ++ zeroPadded 2 time.minute ++ ":" ++
    zeroPadded 2 time.second ++ "." ++ zeroPadded 6 time.microsecond

/-- The ISO form of a UTC date-time with six fractional digits. -/
def Instant.isoformat (instant : Instant) : String :=
  instant.date.isoformat ++ "T" ++ instant.time.isoformat ++ "+00:00"

/-- Hours and minutes, then seconds and their fraction as far as they are not zero. -/
def UtcOffset.isoformat (offset : UtcOffset) : String :=
  let time := clockTime offset.microseconds.natAbs
  (if offset.microseconds < 0 then "-" else "+") ++
    zeroPadded 2 time.hour ++ ":" ++ zeroPadded 2 time.minute ++
    (if time.second = 0 ∧ time.microsecond = 0 then ""
      else ":" ++ zeroPadded 2 time.second ++
        if time.microsecond = 0 then "" else "." ++ zeroPadded 6 time.microsecond)

/-- The ISO form of a date-time: a fraction that is zero and an offset that is missing
are left out. -/
def DateTime.isoformat (value : DateTime) : String :=
  let time := value.reading.time
  value.reading.date.isoformat ++ "T" ++ zeroPadded 2 time.hour ++ ":" ++
    zeroPadded 2 time.minute ++ ":" ++ zeroPadded 2 time.second ++
    (if time.microsecond = 0 then "" else "." ++ zeroPadded 6 time.microsecond) ++
    (value.offset.map UtcOffset.isoformat).getD ""

example : Instant.isoformat ⟨63919670400000000, by decide⟩ =
    "2026-07-15T00:00:00.000000+00:00" := by
  decide

end Foundation
