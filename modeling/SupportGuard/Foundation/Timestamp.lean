import Mathlib.Tactic.IntervalCases
import SupportGuard.Foundation.Calendar

/-! # Reading timestamps

The six-digit ISO form of a UTC instant is read back field by field, and every instant
is read back from its own form. -/

namespace Foundation

/-! ## Dates as days -/

/-- The days before the first day of a year. -/
def yearStart (year : Nat) : Nat :=
  365 * (year - 1) + (year - 1) / 4 - (year - 1) / 100 + (year - 1) / 400

def yearLength (year : Nat) : Nat :=
  if isLeapYear year then 366 else 365

def CivilDate.days (date : CivilDate) : Nat :=
  yearStart date.year + ((monthLengths date.year).take (date.month - 1)).sum + (date.day - 1)

theorem isLeapYear_eq_true {year : Nat} :
    isLeapYear year = true ↔ year % 4 = 0 ∧ (year % 100 ≠ 0 ∨ year % 400 = 0) := by
  simp [isLeapYear]

theorem sum_monthLengths (year : Nat) : (monthLengths year).sum = yearLength year := by
  unfold monthLengths yearLength
  split <;> rfl

/-- The walk over the months stops at the month that holds the day. -/
theorem monthAndDay_spec (month : Nat) (lengths : List Nat) (day : Nat)
    (within : day < lengths.sum) :
    ∃ passed rest length, lengths = passed ++ length :: rest ∧
      (monthAndDay month lengths day).1 = month + passed.length ∧
      1 ≤ (monthAndDay month lengths day).2 ∧
      (monthAndDay month lengths day).2 ≤ length ∧
      day = passed.sum + ((monthAndDay month lengths day).2 - 1) := by
  induction lengths generalizing month day with
  | nil => simp at within
  | cons length rest induction =>
      rw [List.sum_cons] at within
      by_cases here : day < length
      · refine ⟨[], rest, length, rfl, ?_⟩
        simp only [monthAndDay, if_pos here, List.sum_nil, List.length_nil]
        omega
      · obtain ⟨passed, later, found, split, number, positive, bounded, total⟩ :=
          induction (month + 1) (day - length) (by omega)
        have step : monthAndDay month (length :: rest) day =
            monthAndDay (month + 1) rest (day - length) := by
          rw [monthAndDay, if_neg here]
        refine ⟨length :: passed, later, found, by rw [split]; rfl, ?_⟩
        rw [step, List.length_cons, List.sum_cons]
        refine ⟨by omega, positive, bounded, by omega⟩

/-- The years before a year that is given by its cycles. -/
theorem yearStart_of_cycles {cycle century quadrennium single : Nat} (centuries : century ≤ 3)
    (quadrennia : quadrennium ≤ 24) (singles : single ≤ 3) :
    yearStart (cycle * 400 + century * 100 + quadrennium * 4 + single + 1) =
      cycle * 146097 + century * 36524 + quadrennium * 1461 + single * 365 := by
  have quarters : (cycle * 400 + century * 100 + quadrennium * 4 + single) / 4 =
      cycle * 100 + century * 25 + quadrennium := by omega
  have hundreds : (cycle * 400 + century * 100 + quadrennium * 4 + single) / 100 =
      cycle * 4 + century := by omega
  have cycles : (cycle * 400 + century * 100 + quadrennium * 4 + single) / 400 = cycle := by
    omega
  rw [yearStart, Nat.add_sub_cancel, quarters, hundreds, cycles]
  omega

/-- The last year of four is longer, unless its century is cut short. -/
theorem lt_yearLength_of_cycles {cycle century quadrennium single day : Nat}
    (centuries : century ≤ 3) (quadrennia : quadrennium ≤ 24) (singles : single ≤ 3)
    (short : single < 3 → day < 365)
    (long : single = 3 → day ≤ 365 ∧ (quadrennium = 24 → century < 3 → day ≤ 364)) :
    day < yearLength (cycle * 400 + century * 100 + quadrennium * 4 + single + 1) := by
  unfold yearLength
  split
  · by_cases last : single = 3
    · have bound := (long last).1
      omega
    · have bound := short (by omega)
      omega
  · rename_i common
    rw [isLeapYear_eq_true] at common
    by_cases last : single = 3
    · obtain ⟨bound, cut⟩ := long last
      by_cases edge : quadrennium = 24 ∧ century < 3
      · have shorter := cut edge.1 edge.2
        omega
      · omega
    · exact short (by omega)

/-- A day, its year and the day of the year. -/
theorem civilDate_year (days : Nat) :
    ∃ dayOfYear, dayOfYear < yearLength (civilDate days).year ∧
      days = yearStart (civilDate days).year + dayOfYear ∧
      civilDate days =
        { year := (civilDate days).year
          month := (monthAndDay 1 (monthLengths (civilDate days).year) dayOfYear).1
          day := (monthAndDay 1 (monthLengths (civilDate days).year) dayOfYear).2 } := by
  refine ⟨(days % 146097 - min (days % 146097 / 36524) 3 * 36524) % 1461 -
    min ((days % 146097 - min (days % 146097 / 36524) 3 * 36524) % 1461 / 365) 3 * 365,
    ?_, ?_, rfl⟩
  · apply lt_yearLength_of_cycles
    · omega
    · omega
    · omega
    · omega
    · omega
  · have start : yearStart (civilDate days).year = _ :=
      yearStart_of_cycles (by omega) (by omega) (by omega)
    rw [start]
    omega

theorem civilDate_days (days : Nat) : (civilDate days).days = days := by
  obtain ⟨dayOfYear, within, total, shape⟩ := civilDate_year days
  rw [← sum_monthLengths] at within
  obtain ⟨passed, rest, length, split, number, positive, bounded, walked⟩ :=
    monthAndDay_spec 1 _ dayOfYear within
  have month : (civilDate days).month = 1 + passed.length := by
    rw [shape, number]
  have day : (civilDate days).day =
      (monthAndDay 1 (monthLengths (civilDate days).year) dayOfYear).2 := by
    rw [shape]
  have before : ((monthLengths (civilDate days).year).take passed.length) = passed := by
    rw [split, List.take_left]
  rw [CivilDate.days, month, day, Nat.add_sub_cancel_left, before]
  omega

/-- The fields of a date are in range. -/
def CivilDate.Valid (date : CivilDate) : Prop :=
  1 ≤ date.year ∧ date.year ≤ 9999 ∧ 1 ≤ date.month ∧ date.month ≤ 12 ∧ 1 ≤ date.day ∧
    date.day ≤ (monthLengths date.year).getD (date.month - 1) 0

instance (date : CivilDate) : Decidable date.Valid :=
  inferInstanceAs (Decidable (_ ∧ _ ∧ _ ∧ _ ∧ _ ∧ _))

theorem civilDate_valid {days : Nat} (within : days < calendarDays) :
    (civilDate days).Valid := by
  obtain ⟨dayOfYear, inYear, total, shape⟩ := civilDate_year days
  have low : 1 ≤ (civilDate days).year := by
    rw [civilDate]
    dsimp only
    omega
  have high : (civilDate days).year ≤ 9999 := by
    rw [civilDate]
    dsimp only
    rw [calendarDays] at within
    omega
  rw [← sum_monthLengths] at inYear
  obtain ⟨passed, rest, length, split, number, positive, bounded, walked⟩ :=
    monthAndDay_spec 1 _ dayOfYear inYear
  have month : (civilDate days).month = 1 + passed.length := by
    rw [shape, number]
  have day : (civilDate days).day =
      (monthAndDay 1 (monthLengths (civilDate days).year) dayOfYear).2 := by
    rw [shape]
  have twelve : passed.length + (rest.length + 1) = 12 := by
    have lengths := congrArg List.length split
    rw [List.length_append, List.length_cons] at lengths
    exact lengths.symm
  refine ⟨low, high, by omega, by omega, ?_, ?_⟩
  · rw [day]
    exact positive
  · have found : (monthLengths (civilDate days).year).getD passed.length 0 = length := by
      rw [split]
      simp
    rw [day, month, Nat.add_sub_cancel_left, found]
    exact bounded

/-! ## Fields -/

def ClockTime.Valid (time : ClockTime) : Prop :=
  time.hour < 24 ∧ time.minute < 60 ∧ time.second < 60 ∧ time.microsecond < 1000000

instance (time : ClockTime) : Decidable time.Valid :=
  inferInstanceAs (Decidable (_ ∧ _ ∧ _ ∧ _))

def ClockTime.microseconds (time : ClockTime) : Nat :=
  ((time.hour * 60 + time.minute) * 60 + time.second) * 1000000 + time.microsecond

theorem clockTime_microseconds (microseconds : Nat) :
    (clockTime microseconds).microseconds = microseconds := by
  rw [ClockTime.microseconds, clockTime]
  dsimp only
  omega

theorem clockTime_valid {microseconds : Nat} (within : microseconds < microsecondsPerDay) :
    (clockTime microseconds).Valid := by
  rw [microsecondsPerDay] at within
  rw [ClockTime.Valid, clockTime]
  dsimp only
  omega

/-- The instant of a date and a time; none when a field is out of range. -/
def instantOf? (date : CivilDate) (time : ClockTime) : Option Instant :=
  let microseconds := date.days * microsecondsPerDay + time.microseconds
  if inRange : (date.Valid ∧ time.Valid) ∧
      microseconds < calendarDays * microsecondsPerDay then
    some ⟨microseconds, inRange.2⟩
  else none

theorem instantOf?_fields (instant : Instant) :
    instantOf? instant.date instant.time = some instant := by
  have within := instant.inRange
  have days : instant.microseconds / microsecondsPerDay < calendarDays := by
    rw [microsecondsPerDay] at within ⊢
    omega
  have inDay : instant.microseconds % microsecondsPerDay < microsecondsPerDay :=
    Nat.mod_lt _ (by decide)
  have whole : instant.date.days * microsecondsPerDay + instant.time.microseconds =
      instant.microseconds := by
    rw [Instant.date, Instant.time, civilDate_days, clockTime_microseconds]
    exact Nat.div_add_mod' _ _
  rw [instantOf?,
    dif_pos ⟨⟨civilDate_valid days, clockTime_valid inDay⟩, by rw [whole]; exact within⟩]
  exact congrArg some (Instant.ext_microseconds whole)

/-! ## Text -/

/-- Exactly so many decimal digits. -/
def readPadded (width : Nat) (text : List Char) : Option (Nat × List Char) :=
  if (text.take width).length = width ∧ (text.take width).all Char.isDigit then
    some (Nat.ofDigitChars 10 (text.take width) 0, text.drop width)
  else none

/-- One given character. -/
def readMark (mark : Char) : List Char → Option (List Char)
  | [] => none
  | character :: rest => if character = mark then some rest else none

/-- A six-digit ISO form with the offset zero. -/
def readTimestamp (text : List Char) : Option Instant := do
  let (year, text) ← readPadded 4 text
  let text ← readMark '-' text
  let (month, text) ← readPadded 2 text
  let text ← readMark '-' text
  let (day, text) ← readPadded 2 text
  let text ← readMark 'T' text
  let (hour, text) ← readPadded 2 text
  let text ← readMark ':' text
  let (minute, text) ← readPadded 2 text
  let text ← readMark ':' text
  let (second, text) ← readPadded 2 text
  let text ← readMark '.' text
  let (microsecond, text) ← readPadded 6 text
  if text = ['+', '0', '0', ':', '0', '0'] then
    instantOf? { year, month, day } { hour, minute, second, microsecond }
  else none

theorem readPadded_zeroPadded {width value : Nat} (rest : List Char) (positive : 0 < width)
    (small : value < 10 ^ width) :
    readPadded width ((zeroPadded width value).toList ++ rest) = some (value, rest) := by
  have short : (Nat.toDigits 10 value).length ≤ width :=
    (Nat.length_toDigits_le_iff (by decide) positive).mpr small
  have text : (zeroPadded width value).toList =
      List.replicate (width - (Nat.toDigits 10 value).length) '0' ++ Nat.toDigits 10 value := by
    rw [zeroPadded, String.toList_ofList]
  have length : (zeroPadded width value).toList.length = width := by
    rw [text, List.length_append, List.length_replicate]
    omega
  have digits : (zeroPadded width value).toList.all Char.isDigit = true := by
    rw [text, List.all_eq_true]
    intro character member
    rcases List.mem_append.mp member with zero | digit
    · rw [(List.mem_replicate.mp zero).2]
      decide
    · exact Nat.isDigit_of_mem_toDigits (by decide) (by decide) digit
  have read : Nat.ofDigitChars 10 (zeroPadded width value).toList 0 = value := by
    rw [text, Nat.ofDigitChars_append, Nat.ofDigitChars_replicate_zero, Nat.mul_zero,
      Nat.ofDigitChars_ten_toDigits]
  rw [readPadded, List.take_left' length, List.drop_left' length, if_pos ⟨length, digits⟩, read]

theorem readMark_cons (mark : Char) (rest : List Char) :
    readMark mark (mark :: rest) = some rest := by
  simp [readMark]

theorem monthLength_le (year month : Nat) : (monthLengths year).getD month 0 ≤ 31 := by
  by_cases small : month < 12
  · unfold monthLengths
    interval_cases month <;> simp
    split <;> decide
  · have beyond : (monthLengths year)[month]? = none :=
      List.getElem?_eq_none (by simpa [monthLengths] using small)
    simp [List.getD_eq_getElem?_getD, beyond]

/-- The fields of an instant have the widths they are written with. -/
theorem Instant.fields_lt (instant : Instant) :
    instant.date.year < 10 ^ 4 ∧ instant.date.month < 10 ^ 2 ∧ instant.date.day < 10 ^ 2 ∧
      instant.time.hour < 10 ^ 2 ∧ instant.time.minute < 10 ^ 2 ∧
      instant.time.second < 10 ^ 2 ∧ instant.time.microsecond < 10 ^ 6 := by
  have within := instant.inRange
  have days : instant.microseconds / microsecondsPerDay < calendarDays := by
    rw [microsecondsPerDay] at within ⊢
    omega
  have inDay : instant.microseconds % microsecondsPerDay < microsecondsPerDay :=
    Nat.mod_lt _ (by decide)
  obtain ⟨_, year, _, month, _, day⟩ := civilDate_valid days
  obtain ⟨hour, minute, second, microsecond⟩ := clockTime_valid inDay
  have length := monthLength_le (civilDate (instant.microseconds / microsecondsPerDay)).year
    ((civilDate (instant.microseconds / microsecondsPerDay)).month - 1)
  rw [Instant.date, Instant.time]
  omega

/-- An instant is read back from its form. -/
theorem readTimestamp_isoformat (instant : Instant) :
    readTimestamp instant.isoformat.toList = some instant := by
  obtain ⟨year, month, day, hour, minute, second, microsecond⟩ := instant.fields_lt
  have text : instant.isoformat.toList =
      (zeroPadded 4 instant.date.year).toList ++ '-' ::
        ((zeroPadded 2 instant.date.month).toList ++ '-' ::
          ((zeroPadded 2 instant.date.day).toList ++ 'T' ::
            ((zeroPadded 2 instant.time.hour).toList ++ ':' ::
              ((zeroPadded 2 instant.time.minute).toList ++ ':' ::
                ((zeroPadded 2 instant.time.second).toList ++ '.' ::
                  ((zeroPadded 6 instant.time.microsecond).toList ++
                    ['+', '0', '0', ':', '0', '0'])))))) := by
    simp [Instant.isoformat, CivilDate.isoformat, ClockTime.isoformat]
  rw [text]
  simp only [readTimestamp, bind, Option.bind, readMark_cons,
    readPadded_zeroPadded _ (by decide) year, readPadded_zeroPadded _ (by decide) month,
    readPadded_zeroPadded _ (by decide) day, readPadded_zeroPadded _ (by decide) hour,
    readPadded_zeroPadded _ (by decide) minute, readPadded_zeroPadded _ (by decide) second,
    readPadded_zeroPadded _ (by decide) microsecond, if_true]
  exact instantOf?_fields instant

end Foundation
