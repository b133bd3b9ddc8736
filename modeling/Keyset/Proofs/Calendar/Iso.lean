import Keyset.Proofs.Calendar.Week
import Keyset.Proofs.Calendar.Zone

/-!
# Keyset — ISO texts and what they denote

A text is read as the date, or the date and time, that it spells. The form is open in places: any
character but `Z` may stand between date and time, a fraction may be of any length, and an offset
may be written in several ways. Where the date ends is found from the fifth and the sixth byte, a
hyphen and a letter if there are any; what comes after the date has no part in it.

* `Date.basic`, `Date.weekText`, `DateTime.isoText` — the texts.
* `Iso.separator?_display` and its siblings — where a date ends.
* `Iso.readDate_display` and its siblings — a date is read.
* `Iso.separatorLength_encodeChar` — any character separates.
* `Iso.read_isoText` — the text of a date and time is read as it.
* `Timestamp.ofValue_isoText` — texts have the milliseconds of what they spell.
-/

namespace Keyset

/-! ## Texts -/

namespace Date

/-- The basic form of a date. -/
def basic (d : Date) : String := padded 4 d.year ++ padded 2 d.month ++ padded 2 d.day

/-- The ISO week and weekday of a date. -/
def weekText (d : Date) : String :=
  padded 4 d.isoYear ++ "-W" ++ padded 2 d.isoWeek ++ "-" ++ padded 1 d.isoWeekday

end Date

/-- The text of a date and time in the extended form. -/
def DateTime.isoText (t : DateTime) (separator : Char) (fraction zone : String) : String :=
  t.date.display ++ (String.singleton separator ++
    (padded 2 t.time.hour ++ ":" ++ padded 2 t.time.minute ++ ":" ++ padded 2 t.time.second ++
      (fraction ++ zone)))

namespace Timestamp

/-! None of these has a `Z` of its own. -/

theorem spellZulu_display (d : Date) : spellZulu d.display = d.display := by
  simp only [Date.display, spellZulu_append, spellZulu_padded, spellZulu_hyphen]

theorem spellZulu_basic (d : Date) : spellZulu d.basic = d.basic := by
  simp only [Date.basic, spellZulu_append, spellZulu_padded]

theorem spellZulu_weekText (d : Date) : spellZulu d.weekText = d.weekText := by
  have hmark : spellZulu "-W" = "-W" := rfl
  simp only [Date.weekText, spellZulu_append, spellZulu_padded, spellZulu_hyphen, hmark]

theorem spellZulu_isoText {t : DateTime} {separator : Char} (hSeparator : separator ≠ 'Z')
    {fraction : String} (hFraction : Iso.Fraction t.time.micro fraction) (zone : String) :
    spellZulu (t.isoText separator fraction zone) =
      t.isoText separator fraction (spellZulu zone) := by
  have hsingle : spellZulu (String.singleton separator) = String.singleton separator :=
    spellZulu_eq (by simpa using hSeparator)
  simp only [DateTime.isoText, spellZulu_append, spellZulu_display, hsingle, spellZulu_padded,
    spellZulu_colon, spellZulu_fraction hFraction]

end Timestamp

/-! ## Numbers of a date -/

namespace Date

variable (d : Date)

theorem month_lt : d.month < 100 := d.valid.2.2.2.1.trans_lt (by decide)

/-- No month has more than 31 days. -/
theorem day_lt : d.day < 100 := by
  have hlong : ∀ leap, ∀ k < 12, (monthLengths leap)[k]?.getD 0 ≤ 31 := by decide
  obtain ⟨-, -, hmonth, hmonth', -, hday⟩ := d.valid
  rw [daysInMonth, if_neg (by omega)] at hday
  have hmax := hlong (isLeap d.year) (d.month - 1) (by omega)
  omega

theorem isoWeek_lt : d.isoWeek < 100 := d.isoWeek_le.trans_lt (by decide)

end Date

namespace Iso

/-- The years of the calendar have four digits. -/
theorem length_four {year : Nat} (h : year ≤ 9999) : (Utf8.encode (padded 4 year)).length = 4 :=
  length_encode_padded (by decide) (Nat.lt_succ_of_le h)

theorem digits_four {year : Nat} (h : year ≤ 9999) (rest : List UInt8) :
    digits 4 0 (Utf8.encode (padded 4 year) ++ rest) = some (year, rest) :=
  digits_padded (by decide) (Nat.lt_succ_of_le h) rest

theorem digits_two {n : Nat} (h : n < 100) (rest : List UInt8) :
    digits 2 0 (Utf8.encode (padded 2 n) ++ rest) = some (n, rest) :=
  digits_padded (by decide) h rest

/-- A number of two digits begins with neither of the letters that a date may have. -/
theorem peek_two {n : Nat} (h : n < 100) (rest : List UInt8) :
    peek (Utf8.encode (padded 2 n) ++ rest) ≠ hyphen ∧
      peek (Utf8.encode (padded 2 n) ++ rest) ≠ weekMark := by
  have hdigit := isDigit_peek_padded (show 0 < 2 by decide) h rest
  refine ⟨fun heq => ?_, fun heq => ?_⟩ <;> rw [heq] at hdigit <;> cases hdigit

/-! ## Positions -/

theorem byteAt_zero (bs : List UInt8) : byteAt bs 0 = peek bs := by
  rw [byteAt, peek, List.head?_eq_getElem?]

theorem byteAt_cons (b : UInt8) (bs : List UInt8) (i : Nat) :
    byteAt (b :: bs) (i + 1) = byteAt bs i := rfl

theorem byteAt_append {front : List UInt8} {i : Nat} (h : front.length = i) (rest : List UInt8)
    (j : Nat) : byteAt (front ++ rest) (i + j) = byteAt rest j := by
  rw [byteAt, byteAt, ← h, List.getElem?_append_right (Nat.le_add_right ..), Nat.add_sub_cancel_left]

/-! ## Dates -/

section

variable (d : Date)

theorem encode_display (rest : List UInt8) : Utf8.encode d.display ++ rest =
    Utf8.encode (padded 4 d.year) ++ 45 :: (Utf8.encode (padded 2 d.month) ++ 45 ::
      (Utf8.encode (padded 2 d.day) ++ rest)) := by
  have hhyphen : Utf8.encode "-" = [45] := rfl
  simp only [Date.display, Utf8.encode_append, hhyphen, List.append_assoc, List.cons_append,
    List.nil_append]

theorem encode_basic : Utf8.encode d.basic = Utf8.encode (padded 4 d.year) ++
    (Utf8.encode (padded 2 d.month) ++ (Utf8.encode (padded 2 d.day) ++ [])) := by
  simp only [Date.basic, Utf8.encode_append, List.append_assoc, List.append_nil]

theorem encode_weekText : Utf8.encode d.weekText =
    Utf8.encode (padded 4 d.isoYear) ++ 45 :: 87 :: (Utf8.encode (padded 2 d.isoWeek) ++ 45 ::
      (Utf8.encode (padded 1 d.isoWeekday) ++ [])) := by
  have hmark : Utf8.encode "-W" = [45, 87] := rfl
  have hhyphen : Utf8.encode "-" = [45] := rfl
  simp only [Date.weekText, Utf8.encode_append, hmark, hhyphen, List.append_assoc, List.cons_append,
    List.nil_append, List.append_nil]

theorem length_display : (Utf8.encode d.display).length = 10 := by
  rw [← List.append_nil (Utf8.encode d.display), encode_display]
  simp only [List.length_append, List.length_cons, List.length_nil, length_four d.valid.2.1,
    length_two d.month_lt, length_two d.day_lt]

theorem length_basic : (Utf8.encode d.basic).length = 8 := by
  simp only [encode_basic, List.length_append, List.length_nil, length_four d.valid.2.1,
    length_two d.month_lt, length_two d.day_lt]

/-- A weekday has one digit. -/
theorem digits_isoWeekday (rest : List UInt8) :
    digits 1 0 (Utf8.encode (padded 1 d.isoWeekday) ++ rest) = some (d.isoWeekday, rest) :=
  digits_padded (by decide) (d.isoWeekday_le.trans_lt (by decide)) rest

theorem length_isoWeekday : (Utf8.encode (padded 1 d.isoWeekday)).length = 1 :=
  length_encode_padded (by decide) (d.isoWeekday_le.trans_lt (by decide))

theorem length_weekText : (Utf8.encode d.weekText).length = 10 := by
  simp only [encode_weekText, List.length_append, List.length_cons, List.length_nil,
    length_four d.isoYear_mem.2, length_two d.isoWeek_lt, length_isoWeekday]

/-- A date in the extended form ends after ten bytes, whatever follows. -/
theorem separator?_display (rest : List UInt8) :
    separator? (Utf8.encode d.display ++ rest) = some 10 := by
  have hyear := length_four d.valid.2.1
  have hlength : (Utf8.encode d.display ++ rest).length ≠ 7 := by
    rw [List.length_append, length_display]
    omega
  have hfour : byteAt (Utf8.encode d.display ++ rest) 4 = hyphen := by
    rw [encode_display]
    exact byteAt_append hyear _ 0
  -- after the hyphen comes the month and no week
  have hfive : byteAt (Utf8.encode d.display ++ rest) 5 ≠ weekMark := by
    rw [encode_display, byteAt_append hyear _ 1, byteAt_cons, byteAt_zero]
    exact (peek_two d.month_lt _).2
  rw [separator?]
  dsimp only
  rw [if_neg hlength, if_pos hfour, if_neg hfive]

/-- One in the basic form ends after eight. -/
theorem separator?_basic : separator? (Utf8.encode d.basic) = some 8 := by
  have hyear := length_four d.valid.2.1
  have hfour : byteAt (Utf8.encode d.basic) 4 ≠ hyphen ∧
      byteAt (Utf8.encode d.basic) 4 ≠ weekMark := by
    rw [encode_basic, byteAt_append hyear _ 0, byteAt_zero]
    exact peek_two d.month_lt _
  rw [separator?, length_basic]
  dsimp only
  rw [if_neg (by decide), if_neg hfour.1, if_neg hfour.2]

/-- A week date ends after ten: the hyphen after the week is followed by the weekday alone. -/
theorem separator?_weekText : separator? (Utf8.encode d.weekText) = some 10 := by
  have hyear := length_four d.isoYear_mem.2
  have hfour : byteAt (Utf8.encode d.weekText) 4 = hyphen := by
    rw [encode_weekText]
    exact byteAt_append hyear _ 0
  have hfive : byteAt (Utf8.encode d.weekText) 5 = weekMark := by
    rw [encode_weekText]
    exact byteAt_append hyear _ 1
  have height : byteAt (Utf8.encode d.weekText) 8 = hyphen := by
    rw [encode_weekText, byteAt_append hyear _ 4, byteAt_cons, byteAt_cons]
    exact byteAt_append (length_two d.isoWeek_lt) _ 0
  rw [separator?, length_weekText]
  dsimp only
  rw [if_neg (by decide), if_pos hfour, if_pos hfive, if_neg (by decide),
    if_pos ⟨by decide, height⟩, if_neg (by decide), if_neg (by omega)]

/-- A date in the extended form is read. -/
theorem readDate_display (length : Nat) (rest : List UInt8) :
    readDate length (Utf8.encode d.display ++ rest) = some (d.year, d.month, d.day) := by
  have hpeek (rest) : peek (45 :: rest) = hyphen := rfl
  have hmonth (rest) := (peek_two d.month_lt rest).2
  rw [encode_display, readDate, digits_four d.valid.2.1]
  simp only [Option.bind_eq_bind, Option.bind_some, hpeek, if_true, List.tail_cons, hmonth,
    if_false, digits_two d.month_lt, digits_two d.day_lt, hyphenIf, decide_true, Bool.not_true,
    Bool.false_eq_true]

/-- A date in the basic form is read. -/
theorem readDate_basic (length : Nat) :
    readDate length (Utf8.encode d.basic) = some (d.year, d.month, d.day) := by
  have hmonth (rest) := peek_two d.month_lt rest
  rw [encode_basic, readDate, digits_four d.valid.2.1]
  simp only [Option.bind_eq_bind, Option.bind_some, (hmonth _).1, (hmonth _).2, if_false,
    decide_false, hyphenIf, Bool.not_false, if_true, digits_two d.month_lt, digits_two d.day_lt]

/-- A week date is read as the date in that week. -/
theorem readDate_weekText :
    readDate 10 (Utf8.encode d.weekText) = some (d.year, d.month, d.day) := by
  have hpeek (rest) : peek (45 :: rest) = hyphen := rfl
  have hmark (rest) : peek (87 :: rest) = weekMark := rfl
  have hdate : weekDate? d.isoYear d.isoWeek d.isoWeekday = some (d.year, d.month, d.day) := by
    rw [weekDate?, if_neg (Nat.one_le_iff_ne_zero.mp d.isoYear_mem.1), d.ofIsoWeek?_isoWeek]
  -- there is a weekday to read, since the week ends before the date does
  have hmore : (Utf8.encode d.weekText).length -
      (45 :: (Utf8.encode (padded 1 d.isoWeekday) ++ [])).length < 10 := by
    rw [length_weekText, List.length_cons]
    omega
  rw [encode_weekText] at hmore ⊢
  rw [readDate, digits_four d.isoYear_mem.2]
  simp only [Option.bind_eq_bind, Option.bind_some, hpeek, if_true, List.tail_cons, hmark,
    digits_two d.isoWeek_lt, hmore, hyphenIf, decide_true, Bool.not_true, Bool.false_eq_true,
    if_false, digits_isoWeekday, hdate]

end

/-! ## Separators -/

/-- The first byte of a character says how many bytes it has. -/
theorem separatorLength_encodeChar (c : Char) (rest : List UInt8) :
    separatorLength (peek (String.utf8EncodeChar c ++ rest)) =
      (String.utf8EncodeChar c).length := by
  have hvalid : c.val.toNat < 0xd800 ∨ 0xdfff < c.val.toNat ∧ c.val.toNat < 0x110000 := c.valid
  have hpeek {n : Nat} (h : n < 256) (bs : List UInt8) : peek (UInt8.ofNat n :: bs) = n := by
    change (UInt8.ofNat n).toNat = n
    rw [UInt8.toNat_ofNat']
    omega
  unfold String.utf8EncodeChar
  generalize c.val.toNat = v at hvalid
  dsimp only
  -- one case for each number of bytes; the first byte is generic in all of them
  split_ifs with hOne hTwo hThree
  · rw [List.cons_append, hpeek (by omega), separatorLength, if_pos (by omega)]
    rfl
  · rw [List.cons_append, hpeek (by omega), separatorLength, if_neg (by omega), if_neg (by omega),
      if_neg (by omega)]
    rfl
  · rw [List.cons_append, hpeek (by omega), separatorLength, if_neg (by omega), if_pos (by omega)]
    rfl
  · rw [List.cons_append, hpeek (by omega), separatorLength, if_neg (by omega), if_neg (by omega),
      if_pos (by omega)]
    rfl

theorem encode_isoText (t : DateTime) (separator : Char) (fraction zone : String) :
    Utf8.encode (t.isoText separator fraction zone) =
      Utf8.encode t.date.display ++ (String.utf8EncodeChar separator ++
        clockBytes t.time.hour t.time.minute t.time.second
          (Utf8.encode fraction ++ Utf8.encode zone)) := by
  have hcolon : Utf8.encode ":" = [58] := rfl
  have hsingle : Utf8.encode (String.singleton separator) = String.utf8EncodeChar separator := by
    rw [Utf8.encode, String.toList_singleton, List.flatMap_singleton]
  simp only [DateTime.isoText, Utf8.encode_append, hsingle, hcolon, clockBytes, List.append_assoc,
    List.cons_append, List.nil_append]

/-- The time is read after the separator. -/
theorem readNumbers_isoText {t : DateTime} {separator : Char} {fraction zone : String}
    {clock : Clock} {offset : Option Int}
    (hTime : readTime (clockBytes t.time.hour t.time.minute t.time.second
      (Utf8.encode fraction ++ Utf8.encode zone)) = some (clock, offset)) :
    readNumbers (Utf8.encode (t.isoText separator fraction zone)) =
      some ⟨t.date.year, t.date.month, t.date.day, clock, offset⟩ := by
  -- a time follows, after a separator of one character
  have hsome : (String.utf8EncodeChar separator ++
      clockBytes t.time.hour t.time.minute t.time.second
        (Utf8.encode fraction ++ Utf8.encode zone)).isEmpty = false := by
    obtain ⟨lead, tail, hbytes, -⟩ := Utf8.next_encodeChar separator []
    rw [hbytes]
    rfl
  rw [encode_isoText, readNumbers, separator?_display]
  simp only [Option.bind_eq_bind, Option.bind_some, readDate_display,
    List.drop_left' (length_display t.date), hsome, Bool.false_eq_true, if_false,
    separatorLength_encodeChar, List.drop_left, hTime]

/-! ## Whole texts -/

/-- The numbers of a date are those of the date. -/
theorem checkDate_date (d : Date) : checkDate d.year d.month d.day = .ok d := by
  rw [checkDate, Date.of?, dif_pos d.valid]

/-- The offset of a date and time is one. -/
theorem checkOffset_offset (offset : Option UtcOffset) :
    checkOffset (offset.map (·.micros)) = .ok offset := by
  cases offset with
  | none => rfl
  | some o => rw [Option.map_some, checkOffset, UtcOffset.of?, dif_pos o.within]

/-- The clock reading of a time of day is one. -/
theorem checkTime_time (t : TimeOfDay) (more : Bool) :
    checkTime ⟨t.hour, t.minute, t.second, t.micro, more⟩ = .ok t := by
  have hlt := t.micros_lt
  have hvalid : t.hour < 24 ∧ t.minute < 60 ∧ t.second < 60 ∧ t.micro < 1000000 := by
    simp only [TimeOfDay.hour, TimeOfDay.minute, TimeOfDay.second, TimeOfDay.micro]
    omega
  have hmicros : ((t.hour * 60 + t.minute) * 60 + t.second) * 1000000 + t.micro = t.micros := by
    simp only [TimeOfDay.hour, TimeOfDay.minute, TimeOfDay.second, TimeOfDay.micro]
    omega
  rw [checkTime, TimeOfDay.of?, dif_pos hvalid]
  simp only [hmicros]

/-- A date alone is read as its midnight. -/
theorem read_date {s : String} {d : Date} {length : Nat}
    (hSeparator : separator? (Utf8.encode s) = some length)
    (hDate : readDate length (Utf8.encode s) = some (d.year, d.month, d.day))
    (hEnd : (Utf8.encode s).length = length) : read s = .ok (.ofDate d) := by
  have hnumbers : readNumbers (Utf8.encode s) =
      some ⟨d.year, d.month, d.day, ⟨0, 0, 0, 0, false⟩, none⟩ := by
    rw [readNumbers, hSeparator]
    simp only [Option.bind_eq_bind, Option.bind_some, hDate]
    rw [← hEnd, List.drop_length]
    rfl
  rw [read, hnumbers]
  simp only [checkDate_date]
  rfl

/-- The text of a date and time is read as it. -/
theorem read_isoText {t : DateTime} {separator : Char} (hSeparator : separator ≠ 'Z')
    {fraction : String} (hFraction : Fraction t.time.micro fraction) {zone : String}
    (hZone : Zone t.offset zone) :
    read (Timestamp.spellZulu (t.isoText separator fraction zone)) = .ok t := by
  have hlt := t.time.micros_lt
  have hHour : t.time.hour < 100 := by rw [TimeOfDay.hour]; omega
  have hMinute : t.time.minute < 100 := by rw [TimeOfDay.minute]; omega
  have hSecond : t.time.second < 100 := by rw [TimeOfDay.second]; omega
  obtain ⟨more, htime⟩ := readTime_clock hHour hMinute hSecond hFraction hZone
  rw [Timestamp.spellZulu_isoText hSeparator hFraction, read, readNumbers_isoText htime]
  simp only [checkDate_date, checkOffset_offset, checkTime_time]
  rfl

end Iso

namespace Timestamp

/-- Dates and times have texts, if they are naive or their offset has whole seconds. -/
theorem exists_isoText {t : DateTime}
    (h : ∀ offset, t.offset = some offset → offset.micros % 1000000 = 0) :
    ∃ fraction zone, Iso.Fraction t.time.micro fraction ∧ Iso.Zone t.offset zone := by
  obtain ⟨fraction, hfraction⟩ := Iso.exists_fraction
    (show t.time.micro < 1000000 from Nat.mod_lt _ (by decide))
  cases hoffset : t.offset with
  | none => exact ⟨fraction, "", hfraction, .naive⟩
  | some offset =>
    obtain ⟨zone, hzone⟩ := Iso.exists_zone_iff.mpr (h offset hoffset)
    exact ⟨fraction, zone, hfraction, hzone⟩

/-- **ISO texts.** Every date and time that is naive or has an offset of whole seconds has texts.
Each of them, with any separator but `Z`, any fraction for the microseconds and any text of the
offset, has the milliseconds of the date and time. The extended form of a date, its basic form and
its ISO week all have the milliseconds of the date, and the ISO year is one of the calendar. -/
theorem ofValue_isoText :
    (∀ t : DateTime, (∀ offset, t.offset = some offset → offset.micros % 1000000 = 0) →
      ∃ fraction zone, Iso.Fraction t.time.micro fraction ∧ Iso.Zone t.offset zone) ∧
    (∀ (t : DateTime) (separator : Char) (fraction zone : String), separator ≠ 'Z' →
      Iso.Fraction t.time.micro fraction → Iso.Zone t.offset zone →
      ∃ millis, ofValue (.str (t.isoText separator fraction zone)) = .ok millis ∧
        ofValue (.datetime t) = .ok millis) ∧
    ∀ d : Date, (1 ≤ d.isoYear ∧ d.isoYear ≤ 9999) ∧ ∃ millis, ofValue (.date d) = .ok millis ∧
      ∀ text ∈ [d.display, d.basic, d.weekText], ofValue (.str text) = .ok millis := by
  refine ⟨fun t => exists_isoText, ?_, ?_⟩
  · intro t separator fraction zone hseparator hfraction hzone
    refine ⟨ofDateTime t, ?_, rfl⟩
    rw [ofValue, Iso.read_isoText hseparator hfraction hzone]
  · intro d
    refine ⟨d.isoYear_mem, ofDateTime (.ofDate d), rfl, fun text htext => ?_⟩
    -- a date without a time has three spellings, and each is read as its midnight
    have hread : Iso.read (spellZulu text) = .ok (.ofDate d) := by
      simp only [List.mem_cons, List.not_mem_nil, or_false] at htext
      rcases htext with rfl | rfl | rfl
      · have hseparator := Iso.separator?_display d []
        have hdate := Iso.readDate_display d 10 []
        rw [List.append_nil] at hseparator hdate
        rw [spellZulu_display, Iso.read_date hseparator hdate (Iso.length_display d)]
      · rw [spellZulu_basic, Iso.read_date (Iso.separator?_basic d) (Iso.readDate_basic d 8)
          (Iso.length_basic d)]
      · rw [spellZulu_weekText, Iso.read_date (Iso.separator?_weekText d) (Iso.readDate_weekText d)
          (Iso.length_weekText d)]
    rw [ofValue, hread]

/-- A time on a leap day, with an offset that has seconds. -/
def leapDay : DateTime :=
  ⟨⟨2024, 2, 29, by decide⟩, ⟨86398123456, by decide⟩, some ⟨-19815000000, by decide⟩⟩

/-- The first day of a year that begins in the last week of the year before. -/
def lateWeek : Date := ⟨2021, 1, 1, by decide⟩

/-- A text with a separator of three bytes, seven digits of a fraction and an offset with seconds,
and the ISO week of a date in another year. -/
theorem ofValue_isoText_leapDay :
    (∃ millis, ofValue (.str "2024-02-29☃23:59:58,1234567-05:30:15") = .ok millis ∧
      ofValue (.datetime leapDay) = .ok millis) ∧
    ∃ millis, ofValue (.str "2020-W53-5") = .ok millis ∧
      ofValue (.date lateWeek) = .ok millis := by
  have hfraction : Iso.Fraction leapDay.time.micro
      (String.ofList [',', '1', '2', '3', '4', '5', '6', '7']) :=
    .digits (Or.inr rfl) nofun (List.all_eq_true.mp (by decide)) rfl
  have hzone : Iso.Zone leapDay.offset (Iso.sign true ++
      (padded 2 5 ++ ":" ++ padded 2 30 ++ ":" ++ padded 2 15)) :=
    .seconds (by decide) (by decide) rfl
  have htext : leapDay.isoText '☃' (String.ofList [',', '1', '2', '3', '4', '5', '6', '7'])
      (Iso.sign true ++ (padded 2 5 ++ ":" ++ padded 2 30 ++ ":" ++ padded 2 15)) =
        "2024-02-29☃23:59:58,1234567-05:30:15" := rfl
  have hweek : lateWeek.weekText = "2020-W53-5" := rfl
  obtain ⟨-, htimes, hdates⟩ := ofValue_isoText
  constructor
  · rw [← htext]
    exact htimes leapDay '☃' _ _ (by decide) hfraction hzone
  · obtain ⟨-, millis, hdate, htexts⟩ := hdates lateWeek
    rw [← hweek]
    exact ⟨millis, htexts _ (by simp), hdate⟩

end Timestamp

end Keyset
