import Keyset.Proofs.Calendar

/-!
# Keyset — the ISO week of a date

An ISO week runs from Monday to Sunday, and belongs to the year that has its Thursday. So the
first days of January may lie in the last week of the year before, and the last days of December
in the first week of the year after. The calendar begins on a Monday and ends on a Friday, so that
every date has its week in a year of the calendar.

* `Date.isoYear`, `Date.isoWeek`, `Date.isoWeekday` — the ISO week and weekday of a date.
* `Date.ofIsoWeek?_isoWeek` — the date is found by them.
-/

namespace Keyset.Date

/-- Day number of the Thursday in the week of a date. -/
def thursday (d : Date) : Nat := d.dayNumber - weekday d.dayNumber + 3

/-- The ISO year of a date: the year of the Thursday in its week. -/
def isoYear (d : Date) : Nat := (yearOfDayNumber d.thursday).1

/-- The ISO week of a date: the number of Thursdays in the year up to the one in its week. -/
def isoWeek (d : Date) : Nat := (yearOfDayNumber d.thursday).2 / 7 + 1

/-- The ISO weekday of a date; Monday is 1. -/
def isoWeekday (d : Date) : Nat := weekday d.dayNumber + 1

/-- The week of the last day of the calendar ends after it, but has its Thursday before. -/
theorem thursday_lt (d : Date) : d.thursday < 3652059 := by
  have hlt := d.dayNumber_lt
  rw [thursday, weekday]
  omega

/-- The Thursday of the week of a date lies in the ISO year. -/
theorem thursday_eq (d : Date) :
    ∃ index < daysInYear d.isoYear, d.isoWeek = index / 7 + 1 ∧
      daysBeforeYear d.isoYear + index = d.thursday := by
  obtain ⟨-, hindex, hn⟩ := daysBeforeYear_yearOfDayNumber d.thursday
  exact ⟨_, hindex, rfl, hn⟩

theorem isoWeek_le (d : Date) : d.isoWeek ≤ 53 := by
  obtain ⟨index, hIndex, hWeek, -⟩ := d.thursday_eq
  rw [daysInYear] at hIndex
  split at hIndex <;> omega

theorem isoWeekday_le (d : Date) : d.isoWeekday ≤ 7 := by
  rw [isoWeekday, weekday]
  omega

/-- ISO years are years of the calendar. -/
theorem isoYear_mem (d : Date) : 1 ≤ d.isoYear ∧ d.isoYear ≤ 9999 := by
  refine ⟨(daysBeforeYear_yearOfDayNumber d.thursday).1, ?_⟩
  obtain ⟨index, -, -, hthursday⟩ := d.thursday_eq
  have hlt := d.thursday_lt
  by_contra hlater
  simp only [daysBeforeYear] at hthursday
  omega

theorem dayNumberOf_first (year : Nat) : dayNumberOf year 1 1 = daysBeforeYear year := rfl

/-- A year with a Thursday at its index 364 or 365 has 53 weeks. -/
theorem hasWeek53_of_thursday {year index : Nat} (hIndex : index < daysInYear year)
    (hLast : 364 ≤ index) (hThursday : (daysBeforeYear year + index) % 7 = 3) :
    hasWeek53 year = true := by
  rw [hasWeek53, dayNumberOf_first, weekday]
  rw [daysInYear] at hIndex
  -- the year begins on a Thursday, or on the day before if the index is the leap day's
  split at hIndex
  · next hleap =>
    simp only [hleap, Bool.and_true, Bool.or_eq_true, beq_iff_eq]
    omega
  · simp only [Bool.or_eq_true, beq_iff_eq]
    omega

/-- Weeks are counted from the one with the first Thursday of the year. -/
theorem firstMonday_add {year index : Nat} (hThursday : (daysBeforeYear year + index) % 7 = 3) :
    firstMonday year + (index / 7 * 7 : Nat) + 3 = (daysBeforeYear year + index : Nat) := by
  unfold firstMonday
  dsimp only
  -- the first week is the one of 1 January, or the next one if that is after a Thursday
  split
  · next hlate =>
    rw [dayNumberOf_first, weekday] at hlate ⊢
    omega
  · next hearly =>
    rw [dayNumberOf_first, weekday] at hearly ⊢
    omega

/-- A date is found by its ISO week and weekday. -/
theorem ofIsoWeek?_isoWeek (d : Date) :
    ofIsoWeek? d.isoYear d.isoWeek d.isoWeekday = some (d.year, d.month, d.day) := by
  obtain ⟨hYear, hYear'⟩ := d.isoYear_mem
  obtain ⟨index, hIndex, hWeek, hthursday⟩ := d.thursday_eq
  have hmod : (daysBeforeYear d.isoYear + index) % 7 = 3 := by
    rw [hthursday, thursday, weekday]
    omega
  have hweeks := d.isoWeek_le
  have hWeekValid : ¬ (d.isoWeek = 0 ∨ 53 < d.isoWeek ∨
      d.isoWeek = 53 ∧ hasWeek53 d.isoYear = false) := by
    rintro (hnone | hmany | ⟨hlast, hshort⟩)
    · omega
    · omega
    · rw [hasWeek53_of_thursday hIndex (by omega) hmod] at hshort
      cases hshort
  have hDayValid : ¬ (d.isoWeekday = 0 ∨ 7 < d.isoWeekday) := by
    rw [isoWeekday, weekday]
    omega
  have hday : (firstMonday d.isoYear +
      ((d.isoWeek - 1) * 7 + (d.isoWeekday - 1) : Nat)).toNat = d.dayNumber := by
    -- the Monday of the week comes three days before its Thursday
    have hmonday := firstMonday_add hmod
    rw [hthursday, thursday, weekday] at hmonday
    rw [hWeek, isoWeekday, weekday]
    omega
  rw [ofIsoWeek?, if_neg (by omega), if_neg hWeekValid, if_neg hDayValid, hday]
  exact congrArg some (civil_dayNumberOf d.valid)

/-- A new year's day in the last week of the year before, which has 53. -/
example : let d : Date := ⟨2021, 1, 1, by decide⟩
    (d.isoYear, d.isoWeek, d.isoWeekday) = (2020, 53, 5) := by decide

end Keyset.Date
