import Keyset.Calendar.DateTime
import Mathlib

/-!
# Keyset — the calendar and its day numbers

Numbering the days of the calendar loses nothing: a date is read back from its day
number, and a naive date and time from its instant.

The year is found by splitting a day number into cycles of 400 years, centuries,
four years and single years. A leap day makes the last year of a group one day longer
than the group's year length, which is what the two bounds by 3 in
`Date.yearOfDayNumber` are for; `yearOfDayNumber_daysBeforeYear` shows that they
are right at every year.

* `Date.civil_dayNumberOf` — year, month and day are read back from a day number.
* `Date.exists_dayNumber_eq` — every day number up to the year 9999 is that of a date.
* `Date.dayNumber_lt` — the day numbers of dates end with the year 9999.
* `DateTime.ofEpochMicros?_epochMicros` — a naive date and time is read back.
* `DateTime.InCalendar` — the instants that have a reading in UTC, and
  `DateTime.exists_ofEpochMicros?` that they are read.
-/

namespace Keyset

namespace Date

/-! ## Years -/

/-- The number of days of a year. -/
def daysInYear (year : Nat) : Nat := if isLeap year then 366 else 365

theorem isLeap_iff {year : Nat} :
    isLeap year = true ↔ year % 4 = 0 ∧ (year % 100 ≠ 0 ∨ year % 400 = 0) := by
  simp [isLeap]

/-- The days before a year, by its cycle, century, group of four and place in the group. -/
theorem daysBeforeYear_split {cycle century four single : Nat} (hCentury : century < 4)
    (hFour : four < 25) (hSingle : single < 4) :
    daysBeforeYear (400 * cycle + 100 * century + 4 * four + single + 1) =
      146097 * cycle + 36524 * century + 1461 * four + 365 * single := by
  simp only [daysBeforeYear]
  omega

/-- The day number of a day in a year gives the year and the day's index in it. -/
theorem yearOfDayNumber_daysBeforeYear {year index : Nat} (hYear : 1 ≤ year)
    (hIndex : index < daysInYear year) :
    yearOfDayNumber (daysBeforeYear year + index) = (year, index) := by
  -- the years before, counted in cycles, centuries, groups of four and single years
  obtain ⟨cycle, century, four, single, hCentury, hFour, hSingle, hyear⟩ :
      ∃ cycle century four single : Nat, century < 4 ∧ four < 25 ∧ single < 4 ∧
        year = 400 * cycle + 100 * century + 4 * four + single + 1 :=
    ⟨(year - 1) / 400, (year - 1) % 400 / 100, (year - 1) % 100 / 4, (year - 1) % 4,
      by omega, by omega, by omega, by omega⟩
  have hdays : daysBeforeYear year = 146097 * cycle + 36524 * century + 1461 * four +
      365 * single := by
    rw [hyear]
    exact daysBeforeYear_split hCentury hFour hSingle
  -- only the last day of a leap year lies beyond the 365 days of a year
  have hleap : index < 365 ∨ (index = 365 ∧ single = 3 ∧ (four < 24 ∨ century = 3)) := by
    unfold daysInYear at hIndex
    split at hIndex
    · next h =>
      rw [isLeap_iff] at h
      omega
    · exact Or.inl hIndex
  set inCycle := 36524 * century + 1461 * four + 365 * single + index with hinCycle
  have hn : daysBeforeYear year + index = 146097 * cycle + inCycle := by omega
  have hcycle : (daysBeforeYear year + index) / 146097 = cycle := by omega
  have hmod : (daysBeforeYear year + index) % 146097 = inCycle := by omega
  have hcentury : min 3 (inCycle / 36524) = century := by omega
  have hfour : (inCycle - century * 36524) / 1461 = four := by omega
  have hinFour : (inCycle - century * 36524) % 1461 = 365 * single + index := by omega
  have hsingle : min 3 ((365 * single + index) / 365) = single := by omega
  simp only [yearOfDayNumber, hcycle, hmod, hcentury, hfour, hinFour, hsingle, Prod.mk.injEq]
  omega

/-- A day number is that of a day in the year found for it. -/
theorem daysBeforeYear_yearOfDayNumber (n : Nat) :
    1 ≤ (yearOfDayNumber n).1 ∧ (yearOfDayNumber n).2 < daysInYear (yearOfDayNumber n).1 ∧
      daysBeforeYear (yearOfDayNumber n).1 + (yearOfDayNumber n).2 = n := by
  -- the parts of the day number; the bounds by 3 leave the last days to the last group
  obtain ⟨cycle, century, four, single, index, hCentury, hFour, hSingle, hn, hIndex, hyear⟩ :
      ∃ cycle century four single index : Nat, century < 4 ∧ four < 25 ∧ single < 4 ∧
        n = 146097 * cycle + 36524 * century + 1461 * four + 365 * single + index ∧
        (index < 365 ∨ index = 365 ∧ single = 3 ∧ (four < 24 ∨ century = 3)) ∧
        yearOfDayNumber n = (400 * cycle + 100 * century + 4 * four + single + 1, index) :=
    ⟨_, _, _, _, _, by omega, by omega, by omega, by omega, by omega, rfl⟩
  rw [hyear, daysBeforeYear_split hCentury hFour hSingle]
  refine ⟨by omega, ?_, by omega⟩
  unfold daysInYear
  split
  · omega
  · next h =>
    rw [isLeap_iff] at h
    omega

/-- The days of the years up to 9999. -/
theorem daysBeforeYear_add_lt {year index : Nat} (hYear : year ≤ 9999)
    (hIndex : index < daysInYear year) : daysBeforeYear year + index < 3652059 := by
  have hlong : daysInYear year ≤ 366 := by
    unfold daysInYear
    split <;> omega
  rcases Nat.lt_or_ge year 9999 with hbefore | hlast
  · have hyears : daysBeforeYear year ≤ 3651329 := by
      simp only [daysBeforeYear]
      omega
    omega
  · -- the year 9999 itself is no leap year
    obtain rfl : year = 9999 := by omega
    have hyears : daysBeforeYear 9999 = 3651694 := rfl
    have hyear : daysInYear 9999 = 365 := rfl
    omega

/-! ## Months -/

/-- An index into consecutive months is read back as a month and a day of it. -/
theorem monthAt_take_sum {lengths : List Nat} :
    ∀ {k start index : Nat} (hk : k < lengths.length), index < lengths[k] →
      monthAt lengths start ((lengths.take k).sum + index) = (start + k, index + 1) := by
  induction lengths with
  | nil =>
    intro k start index hk
    simp at hk
  | cons length rest ih =>
    intro k start index hk hindex
    cases k with
    | zero =>
      -- the index lies in the first month
      have hlt : index < length := by simpa using hindex
      simp [monthAt, hlt]
    | succ k =>
      -- the first month is skipped, and the index is one into the rest
      have hrest : monthAt rest (start + 1) ((rest.take k).sum + index) =
          (start + 1 + k, index + 1) := ih (by simpa using hk) (by simpa using hindex)
      have hge : ¬ length + (rest.take k).sum + index < length := by omega
      have hsub : length + (rest.take k).sum + index - length = (rest.take k).sum + index := by
        omega
      rw [List.take_succ_cons, List.sum_cons, monthAt, if_neg hge, hsub, hrest]
      simp only [Prod.mk.injEq, and_true]
      omega

/-- An index into consecutive months lies in one of them. -/
theorem exists_take_sum {lengths : List Nat} :
    ∀ {index : Nat}, index < lengths.sum →
      ∃ k, ∃ hk : k < lengths.length, ∃ i, i < lengths[k] ∧ index = (lengths.take k).sum + i := by
  induction lengths with
  | nil =>
    intro index hindex
    simp at hindex
  | cons length rest ih =>
    intro index hindex
    -- within the first part, or as far into the others
    rcases Nat.lt_or_ge index length with hfirst | hlater
    · exact ⟨0, by simp, index, hfirst, by simp⟩
    · rw [List.sum_cons] at hindex
      obtain ⟨k, hk, i, hi, heq⟩ := ih (show index - length < rest.sum by omega)
      refine ⟨k + 1, by simpa using hk, i, by simpa using hi, ?_⟩
      rw [List.take_succ_cons, List.sum_cons]
      omega

theorem length_monthLengths (leap : Bool) : (monthLengths leap).length = 12 := rfl

/-- The months of a year together are the year. -/
theorem sum_monthLengths (year : Nat) : (monthLengths (isLeap year)).sum = daysInYear year := by
  unfold daysInYear
  cases isLeap year <;> rfl

/-- An existing day lies in its year. -/
theorem daysBeforeMonth_add_lt {year month day : Nat} (h : IsCivil year month day) :
    daysBeforeMonth year month + (day - 1) < daysInYear year := by
  obtain ⟨-, -, hMonth, hMonth', hDay, hDay'⟩ := h
  have hk : month - 1 < (monthLengths (isLeap year)).length := by
    rw [length_monthLengths]
    omega
  rw [daysInMonth, if_neg (by omega), List.getElem?_eq_getElem hk, Option.getD_some] at hDay'
  -- the months before, the month itself and the months after make up the year
  have hsplit := sum_monthLengths year
  rw [← List.take_append_drop (month - 1) (monthLengths (isLeap year)), List.sum_append,
    List.drop_eq_getElem_cons hk, List.sum_cons] at hsplit
  rw [daysBeforeMonth, ← List.sum_eq_foldl_nat]
  omega

/-! ## Dates -/

/-- Year, month and day are read back from a day number. -/
theorem civil_dayNumberOf {year month day : Nat} (h : IsCivil year month day) :
    civil (dayNumberOf year month day) = (year, month, day) := by
  have hlt := daysBeforeMonth_add_lt h
  obtain ⟨hYear, -, hMonth, hMonth', hDay, hDay'⟩ := h
  -- the month is a place in the table, and the day lies within its length
  have hk : month - 1 < (monthLengths (isLeap year)).length := by
    rw [length_monthLengths]
    omega
  have hindex : day - 1 < (monthLengths (isLeap year))[month - 1] := by
    rw [daysInMonth, if_neg (by omega), List.getElem?_eq_getElem hk] at hDay'
    simp only [Option.getD_some] at hDay'
    omega
  rw [civil, dayNumberOf, Nat.add_assoc, yearOfDayNumber_daysBeforeYear hYear hlt]
  dsimp only
  rw [daysBeforeMonth, ← List.sum_eq_foldl_nat, monthAt_take_sum hk hindex]
  simp only [Prod.mk.injEq, true_and]
  omega

/-- The length of a month, by its place in the year. -/
theorem daysInMonth_succ {year k : Nat} (hk : k < (monthLengths (isLeap year)).length) :
    daysInMonth year (k + 1) = (monthLengths (isLeap year))[k] := by
  rw [daysInMonth, if_neg (Nat.succ_ne_zero k), Nat.add_sub_cancel, List.getElem?_eq_getElem hk,
    Option.getD_some]

/-- Every day number up to the year 9999 is that of a date. -/
theorem exists_dayNumber_eq {n : Nat} (h : n < 3652059) : ∃ d : Date, d.dayNumber = n := by
  obtain ⟨hYear, hIndex, hn⟩ := daysBeforeYear_yearOfDayNumber n
  generalize (yearOfDayNumber n).1 = year at hYear hIndex hn
  generalize (yearOfDayNumber n).2 = index at hIndex hn
  -- the number is below that of the year 10000
  have hYear' : year ≤ 9999 := by
    by_contra hlater
    simp only [daysBeforeYear] at hn
    omega
  rw [← sum_monthLengths] at hIndex
  obtain ⟨k, hk, i, hi, rfl⟩ := exists_take_sum hIndex
  have hk12 : k < 12 := hk
  have hDay : i + 1 ≤ daysInMonth year (k + 1) := by
    rw [daysInMonth_succ hk]
    omega
  refine ⟨⟨year, k + 1, i + 1, hYear, hYear', by omega, by omega, by omega, hDay⟩, ?_⟩
  simp only [dayNumber, dayNumberOf, daysBeforeMonth, ← List.sum_eq_foldl_nat, Nat.add_sub_cancel]
  omega

/-- The day numbers after those of the year 9999 have no date. -/
theorem ofDayNumber?_eq_none {n : Nat} (h : 3652059 ≤ n) : ofDayNumber? n = none := by
  obtain ⟨-, hIndex, hn⟩ := daysBeforeYear_yearOfDayNumber n
  have hYear : ¬ (yearOfDayNumber n).1 ≤ 9999 := by
    intro hYear
    have := daysBeforeYear_add_lt hYear hIndex
    omega
  exact dif_neg fun hcivil => hYear hcivil.2.1

/-- A date is read back from its day number. -/
theorem ofDayNumber?_dayNumber (d : Date) : ofDayNumber? d.dayNumber = some d := by
  rw [ofDayNumber?, dayNumber, civil_dayNumberOf d.valid]
  exact dif_pos d.valid

/-- The day numbers of dates end with the year 9999. -/
theorem dayNumber_lt (d : Date) : d.dayNumber < 3652059 := by
  have h := daysBeforeYear_add_lt d.valid.2.1 (daysBeforeMonth_add_lt d.valid)
  rw [dayNumber, dayNumberOf]
  omega

end Date

/-! ## Instants -/

namespace DateTime

/-- A naive date and time is read back from its instant. -/
theorem ofEpochMicros?_epochMicros {t : DateTime} (hNaive : t.offset = none) :
    ofEpochMicros? t.epochMicros false = some t := by
  obtain ⟨date, ⟨micros, hMicros⟩, offset⟩ := t
  cases hNaive
  have hinstant : epochMicros ⟨date, ⟨micros, hMicros⟩, none⟩ =
      ((date.dayNumber : Int) - epochDay) * dayMicros + micros := by
    simp [epochMicros]
  -- the day and the time of day are the quotient and the remainder
  have hday : epochMicros ⟨date, ⟨micros, hMicros⟩, none⟩ / dayMicros + epochDay =
      date.dayNumber := by
    rw [hinstant, dayMicros, epochDay]
    omega
  have htime : (epochMicros ⟨date, ⟨micros, hMicros⟩, none⟩ % dayMicros).toNat = micros := by
    rw [hinstant, dayMicros, epochDay]
    omega
  simp only [ofEpochMicros?, hday, htime]
  rw [if_neg (by omega), Int.toNat_natCast, Date.ofDayNumber?_dayNumber]
  rfl

/-- The instants of the years 1 to 9999: those with a naive date and time. -/
def InCalendar (micros : Int) : Prop := ∃ t : DateTime, t.offset = none ∧ t.epochMicros = micros

theorem inCalendar_iff {micros : Int} :
    InCalendar micros ↔ 0 ≤ micros / dayMicros + epochDay ∧
      micros / dayMicros + epochDay < 3652059 := by
  constructor
  · rintro ⟨t, hNaive, rfl⟩
    have hday := t.date.dayNumber_lt
    have htime := t.time.micros_lt
    rw [epochMicros, hNaive, dayMicros, epochDay]
    simp only [Option.map_none, Option.getD_none]
    omega
  · rintro ⟨hLow, hHigh⟩
    -- the quotient has a date, and the remainder is its time of day
    obtain ⟨date, hdate⟩ :=
      Date.exists_dayNumber_eq (n := (micros / dayMicros + epochDay).toNat) (by omega)
    refine ⟨⟨date, ⟨(micros % dayMicros).toNat, ?_⟩, none⟩, rfl, ?_⟩
    · rw [dayMicros]
      omega
    · simp only [epochMicros, hdate, Option.map_none, Option.getD_none]
      rw [dayMicros] at hLow ⊢
      omega

/-- An instant of the calendar is read as a date and time in UTC. -/
theorem exists_ofEpochMicros? {micros : Int} (h : InCalendar micros) (aware : Bool) :
    ∃ t, ofEpochMicros? micros aware = some t ∧ t.epochMicros = micros ∧
      t.offset = if aware then some .utc else none := by
  obtain ⟨hLow, hHigh⟩ := inCalendar_iff.mp h
  obtain ⟨date, hdate⟩ :=
    Date.exists_dayNumber_eq (n := (micros / dayMicros + epochDay).toNat) (by omega)
  have hread := date.ofDayNumber?_dayNumber
  rw [hdate] at hread
  rw [ofEpochMicros?, if_neg (by omega), hread]
  refine ⟨_, rfl, ?_, rfl⟩
  -- an offset of zero moves nothing, so that both kinds denote the same instant
  have hoffset : ((if aware then some UtcOffset.utc else none).map (·.micros)).getD 0 = 0 := by
    cases aware <;> rfl
  simp only [epochMicros, hdate, hoffset]
  rw [dayMicros] at hLow ⊢
  omega

/-- An instant outside the calendar is not read. -/
theorem ofEpochMicros?_eq_none {micros : Int} (h : ¬ InCalendar micros) (aware : Bool) :
    ofEpochMicros? micros aware = none := by
  rw [inCalendar_iff] at h
  rw [ofEpochMicros?]
  split
  · rfl
  · rw [Date.ofDayNumber?_eq_none (by omega)]
    rfl

/-- Naive dates and times with one instant are one. -/
theorem eq_of_epochMicros_eq {t u : DateTime} (ht : t.offset = none) (hu : u.offset = none)
    (h : t.epochMicros = u.epochMicros) : t = u := by
  have hread := ofEpochMicros?_epochMicros ht
  rw [h, ofEpochMicros?_epochMicros hu] at hread
  exact (Option.some.inj hread).symm

/-- The instants of dates and times have at most 18 digits, whatever their offset. -/
theorem natAbs_epochMicros_lt (t : DateTime) : t.epochMicros.natAbs < 10 ^ 18 := by
  have hday := t.date.dayNumber_lt
  have htime := t.time.micros_lt
  have hoffset : -dayMicros < (t.offset.map (·.micros)).getD 0 ∧
      (t.offset.map (·.micros)).getD 0 < dayMicros := by
    cases t.offset with
    | none => exact ⟨by decide, by decide⟩
    | some o => exact o.within
  rw [dayMicros] at hoffset
  rw [epochMicros, epochDay, dayMicros]
  omega

end DateTime

end Keyset
