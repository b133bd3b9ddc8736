/-!
# Keyset — calendar dates

Dates of the proleptic Gregorian calendar in the years 1 to 9999, and their
numbering by days.

* `Date` — year, month and day of an existing calendar day.
* `Date.dayNumber` — days since the first day of year 1.
* `Date.civil` — year, month and day of a day number, for any number of days.
* `Date.ofIsoWeek?` — the day of an ISO year, week and weekday.
-/

namespace Keyset

namespace Date

/-! ## Lengths -/

/-- Whether a year has 366 days. -/
def isLeap (year : Nat) : Bool :=
  year % 4 == 0 && (year % 100 != 0 || year % 400 == 0)

/-- The lengths of the months. -/
def monthLengths (leap : Bool) : List Nat :=
  [31, if leap then 29 else 28, 31, 30, 31, 30, 31, 31, 30, 31, 30, 31]

/-- The length of a month, counted from 1; zero for other numbers. -/
def daysInMonth (year month : Nat) : Nat :=
  if month = 0 then 0 else (monthLengths (isLeap year))[month - 1]?.getD 0

/-- Days of the years before the given one. -/
def daysBeforeYear (year : Nat) : Nat :=
  let y := year - 1
  y * 365 + y / 4 - y / 100 + y / 400

/-- Days of the year before the given month. -/
def daysBeforeMonth (year month : Nat) : Nat :=
  ((monthLengths (isLeap year)).take (month - 1)).foldl (· + ·) 0

/-- The numbers that name an existing day of the years 1 to 9999. -/
def IsCivil (year month day : Nat) : Prop :=
  1 ≤ year ∧ year ≤ 9999 ∧ 1 ≤ month ∧ month ≤ 12 ∧ 1 ≤ day ∧ day ≤ daysInMonth year month

instance (year month day : Nat) : Decidable (IsCivil year month day) :=
  inferInstanceAs (Decidable (_ ∧ _))

/-! ## Day numbers -/

/-- Day number of a year, month and day. -/
def dayNumberOf (year month day : Nat) : Nat :=
  daysBeforeYear year + daysBeforeMonth year month + (day - 1)

/-- The year that holds a day number, with the day's index in the year. A cycle
has 400 years, a century of it 36524 days or one more at the cycle's end, four
years 1461 days and a year 365, again one more at the end. -/
def yearOfDayNumber (n : Nat) : Nat × Nat :=
  let cycle := n / 146097
  let inCycle := n % 146097
  let century := min 3 (inCycle / 36524)
  let inCentury := inCycle - century * 36524
  let four := inCentury / 1461
  let inFour := inCentury % 1461
  let single := min 3 (inFour / 365)
  (400 * cycle + 100 * century + 4 * four + single + 1, inFour - single * 365)

/-- The month, counted from `month`, and the day of the month at an index into
months of the given lengths. -/
def monthAt : List Nat → Nat → Nat → Nat × Nat
  | [], month, index => (month, index + 1)
  | length :: rest, month, index =>
      if index < length then (month, index + 1) else monthAt rest (month + 1) (index - length)

/-- Year, month and day of a day number. -/
def civil (n : Nat) : Nat × Nat × Nat :=
  let (year, index) := yearOfDayNumber n
  let (month, day) := monthAt (monthLengths (isLeap year)) 1 index
  (year, month, day)

/-! ## ISO weeks -/

/-- Weekday of a day number, Monday being 0. -/
def weekday (n : Nat) : Nat := n % 7

/-- Whether an ISO year has 53 weeks: it starts on a Thursday, or is a leap year
that starts on a Wednesday. -/
def hasWeek53 (year : Nat) : Bool :=
  let first := weekday (dayNumberOf year 1 1)
  first == 3 || (first == 2 && isLeap year)

/-- Day number of the Monday of an ISO year's first week, the week of 4 January. -/
def firstMonday (year : Nat) : Int :=
  let first := dayNumberOf year 1 1
  let monday : Int := (first : Int) - weekday first
  if 3 < weekday first then monday + 7 else monday

/-- Year, month and day of an ISO year, week and weekday (Monday is 1), if they
exist. The result may lie in the year after. -/
def ofIsoWeek? (year week day : Nat) : Option (Nat × Nat × Nat) :=
  if year = 0 ∨ 9999 < year then none
  else if week = 0 ∨ 53 < week ∨ (week = 53 ∧ hasWeek53 year = false) then none
  else if day = 0 ∨ 7 < day then none
  else some (civil (firstMonday year + ((week - 1) * 7 + (day - 1) : Nat)).toNat)

end Date

/-- A day of the years 1 to 9999. -/
structure Date where
  year : Nat
  month : Nat
  day : Nat
  valid : Date.IsCivil year month day
  deriving DecidableEq

namespace Date

/-- The date with the given numbers, if it exists. -/
def of? (year month day : Nat) : Option Date :=
  if h : IsCivil year month day then some ⟨year, month, day, h⟩ else none

/-- Days since 0001-01-01. -/
def dayNumber (d : Date) : Nat := dayNumberOf d.year d.month d.day

/-- The date with a day number, unless it lies after the year 9999. -/
def ofDayNumber? (n : Nat) : Option Date :=
  let (year, month, day) := civil n
  of? year month day

instance : Inhabited Date := ⟨⟨1970, 1, 1, by decide⟩⟩

end Date

end Keyset
