import Keyset.Number.Literal
import Keyset.Proofs.Cursor.RoundTrip

/-!
# Keyset — temporal values and their cursors

A cursor of kind `Date` keeps the instant of a value down to the millisecond before it, and
the integers that cursors spell are ordered as the instants are. This holds for all dates,
naive dates and times, and for aware ones whose instant has a reading in UTC; an aware date
and time near either end of the calendar may have none.

* `Timestamp.Denotes` — the temporal values and their instants.
* `Timestamp.isGreatest_floor` — the millisecond before an instant.
* `Literal.integer_text` — the text of an integer spells it.
* `Codec.temporal_roundTrip` — cursors of temporal values are read back, in order.
-/

namespace Keyset

/-! ## Spelled integers -/

namespace Literal

/-- An ASCII digit has its value among the digits of all scripts. -/
theorem digitValue?_of_isDigit {d : Char} (h : d.isDigit = true) :
    Text.digitValue? d = some (d.toNat - '0'.toNat) := by
  have hrange : 48 ≤ d.toNat ∧ d.toNat ≤ 57 := Char.isDigit_iff_toNat.mp h
  have hzero : (0x30 ≤ d.toNat && d.toNat < 0x30 + 10) = true := by
    simp only [Bool.and_eq_true, decide_eq_true_eq]
    omega
  -- the ASCII digits are the first script
  have hfind : Text.scriptZeros.find? (fun z => z ≤ d.toNat && d.toNat < z + 10) = some 0x30 := by
    rw [show Text.scriptZeros = 0x30 :: Text.scriptZeros.tail from rfl]
    exact List.find?_cons_of_pos hzero
  rw [Text.digitValue?, hfind]
  rfl

/-- Digits are no white space. -/
theorem isMargin_of_isDigit {d : Char} (h : d.isDigit = true) : isMargin d = false := by
  have hrange : 48 ≤ d.toNat ∧ d.toNat ≤ 57 := Char.isDigit_iff_toNat.mp h
  simp only [isMargin, Text.isSpace, Bool.or_eq_false_iff, Bool.and_eq_false_iff,
    decide_eq_false_iff_not, beq_eq_false_iff_ne]
  omega

/-- Digits alone are well separated. -/
theorem wellSeparated_of_isDigit {digits : List Char} (h : ∀ d ∈ digits, d.isDigit = true)
    (afterDigit : Bool) (hSome : digits ≠ [] ∨ afterDigit = true) :
    wellSeparated afterDigit digits = true := by
  induction digits generalizing afterDigit with
  | nil => simpa [wellSeparated] using hSome
  | cons d rest ih =>
    have hd : d ≠ '_' := by
      rintro rfl
      exact absurd (h '_' (List.mem_cons_self ..)) (by decide)
    rw [wellSeparated, if_neg hd]
    exact ih (fun e he => h e (List.mem_cons_of_mem _ he)) true (Or.inr rfl)

/-- A sign and digits spell an integer, unless there are too many. -/
theorem integer_of_digits {s : String} {negative : Bool} {digits : List Char}
    (hText : s.toList = if negative then '-' :: digits else digits)
    (hDigits : ∀ d ∈ digits, d.isDigit = true) (hSome : digits ≠ [])
    (hLimit : digits.length ≤ ValueFault.digitLimit) :
    integer s = .ok (if negative then -(Double.natOfDigits digits : Int)
      else Double.natOfDigits digits) := by
  -- the sign is split off, and everything behind it is in the run
  have hsign : signOf (s.toList.dropWhile isMargin) = (negative, digits) := by
    rw [hText]
    cases negative with
    | true => rfl
    | false =>
      cases digits with
      | nil => exact absurd rfl hSome
      | cons d rest =>
        have hd := hDigits d (List.mem_cons_self ..)
        rw [if_neg Bool.false_ne_true, List.dropWhile_cons_of_neg (by simp [isMargin_of_isDigit hd])]
        unfold signOf
        split
        · exact absurd hd (by simp_all [Char.isDigit])
        · exact absurd hd (by simp_all [Char.isDigit])
        · rfl
  have hrun : digitRun digits = (digits, []) := by
    have hin : ∀ d ∈ digits, (d = '_' || (Text.digitValue? d).isSome) = true := fun d hd => by
      rw [digitValue?_of_isDigit (hDigits d hd), Option.isSome_some, Bool.or_true]
    rw [digitRun, List.takeWhile_eq_self_iff.mpr hin, List.dropWhile_eq_nil_iff.mpr hin]
  have hvalues : digits.filterMap Text.digitValue? = digits.map fun d => d.toNat - '0'.toNat := by
    rw [← List.filterMap_eq_map]
    exact List.filterMap_congr fun d hd => digitValue?_of_isDigit (hDigits d hd)
  have hseparated := wellSeparated_of_isDigit hDigits false (Or.inl hSome)
  have hlimit : ¬ ValueFault.digitLimit < digits.length := by omega
  simp only [integer, hsign, hrun, hvalues, hseparated, List.length_map, Bool.not_true,
    Bool.false_eq_true, if_false, if_neg hlimit, List.all_nil, List.foldl_map]
  rfl

/-- The text of an integer spells it. -/
theorem integer_text {n : Int} {digits : Nat} (hDigits : n.natAbs < 10 ^ digits)
    (hPos : 0 < digits) (hLimit : digits ≤ ValueFault.digitLimit) :
    integer (Decimal.text n) = .ok n := by
  obtain ⟨htext, hsome, hall⟩ := Codec.timestampDigits?_eq_some_iff.mp (Codec.timestampDigits?_text n)
  have hlength : (Nat.toDigits 10 n.natAbs).length ≤ digits :=
    (Nat.length_toDigits_le_iff (by decide) hPos).mpr hDigits
  rw [integer_of_digits htext hall hsome (by omega), Decimal.natOfDigits_toDigits]
  by_cases hneg : n < 0
  · rw [decide_eq_true hneg, if_pos rfl]
    exact congrArg Except.ok (by omega)
  · rw [decide_eq_false hneg, if_neg Bool.false_ne_true]
    exact congrArg Except.ok (by omega)

end Literal

/-! ## Temporal values -/

namespace Timestamp

/-- The temporal values and the instants that they denote. A naive date and time is read as
UTC, and a date as its midnight. -/
inductive Denotes : Value → Int → Prop
  | naive (t : DateTime) (hNaive : t.offset = none) : Denotes (.datetime t) t.epochMicros
  | aware (t : DateTime) (offset : UtcOffset) (hAware : t.offset = some offset)
      (hCalendar : DateTime.InCalendar t.epochMicros) : Denotes (.datetime t) t.epochMicros
  | date (d : Date) : Denotes (.date d) (DateTime.ofDate d).epochMicros

variable {v : Value} {i : Int}

/-- The instants of temporal values have a reading in UTC. -/
theorem Denotes.inCalendar (h : Denotes v i) : DateTime.InCalendar i := by
  cases h with
  | naive t hNaive => exact ⟨t, hNaive, rfl⟩
  | aware _ _ _ hCalendar => exact hCalendar
  | date d => exact ⟨.ofDate d, rfl, rfl⟩

/-- The milliseconds of a temporal value are those of its instant, rounded down. -/
theorem Denotes.ofValue_eq (h : Denotes v i) : ofValue v = .ok (i / 1000) := by
  cases h <;> rfl

/-- The last whole millisecond that does not come after an instant. -/
theorem isGreatest_floor (i : Int) : IsGreatest {m : Int | 1000 ∣ m ∧ m ≤ i} (i / 1000 * 1000) := by
  refine ⟨⟨Int.dvd_mul_left _ _, Int.ediv_mul_le i (by decide)⟩, ?_⟩
  rintro m ⟨⟨k, rfl⟩, hle⟩
  omega

/-- The calendar starts and ends at whole milliseconds. -/
theorem inCalendar_floor (h : DateTime.InCalendar i) :
    DateTime.InCalendar (i / 1000 * 1000) := by
  rw [DateTime.inCalendar_iff, dayMicros, DateTime.epochDay] at h ⊢
  omega

/-- The milliseconds of the calendar have at most 18 digits. -/
theorem natAbs_millis_lt (h : DateTime.InCalendar i) : (i / 1000).natAbs < 10 ^ 18 := by
  rw [DateTime.inCalendar_iff, dayMicros, DateTime.epochDay] at h
  omega

end Timestamp

namespace Codec

open Timestamp

/-- A temporal value is encoded as the text of its milliseconds. -/
theorem encode_of_denotes {c : Codec} (hPlain : c.signingSecret? = none) {v : Value} {i : Int}
    (h : Denotes v i) : c.encode .date v = .ok (Decimal.text (i / 1000)) := by
  have htext := Decimal.render_eq_text (natAbs_millis_lt h.inCalendar) (by decide) (by decide)
  rw [encode_eq]
  simp only [position, h.ofValue_eq, htext]
  rw [show c.write = id from funext fun text => by rw [write, hPlain]; rfl]
  rfl

/-- **Temporal cursors are read back in order.** The cursor of a temporal value spells an
integer, and is read as the last whole millisecond that does not come after the value, in
the form that the codec reads dates in. The integers are ordered as the values are, and
values that are a millisecond apart have different ones. -/
theorem temporal_roundTrip (c : Codec) (hPlain : c.signingSecret? = none) :
    (∀ v i, Denotes v i → ∃ cursor n t, c.encode .date v = .ok cursor ∧
      Literal.integer cursor = .ok n ∧ (c.decode .date (.str cursor)).result = .ok (.datetime t) ∧
      IsGreatest {m : Int | 1000 ∣ m ∧ m ≤ i} t.epochMicros ∧ (1000 ∣ i → t.epochMicros = i) ∧
      t.offset = if c.aware then some .utc else none) ∧
    (∀ v w i j cursor cursor' m n, Denotes v i → Denotes w j →
      c.encode .date v = .ok cursor → c.encode .date w = .ok cursor' →
      Literal.integer cursor = .ok m → Literal.integer cursor' = .ok n →
      (i ≤ j → m ≤ n) ∧ (i + 1000 ≤ j → m < n)) := by
  have hspelled {v : Value} {i : Int} (h : Denotes v i) :
      Literal.integer (Decimal.text (i / 1000)) = .ok (i / 1000) :=
    Literal.integer_text (natAbs_millis_lt h.inCalendar) (by decide) (by decide)
  constructor
  · intro v i h
    obtain ⟨t, hread, hinstant, hoffset⟩ :=
      DateTime.exists_ofEpochMicros? (inCalendar_floor h.inCalendar) c.aware
    refine ⟨_, _, t, encode_of_denotes hPlain h, hspelled h, ?_, ?_, ?_, hoffset⟩
    · rw [result_decode, content?_of_unsigned hPlain]
      dsimp only
      rw [dateOfText_text c _ (natAbs_millis_lt h.inCalendar) (by decide) (by decide),
        Timestamp.toDateTime?, hread]
    · rw [hinstant]
      exact isGreatest_floor i
    · intro hWhole
      rw [hinstant, Int.ediv_mul_cancel hWhole]
  · intro v w i j cursor cursor' m n hv hw hcursor hcursor' hm hn
    -- both integers are the milliseconds of their values
    obtain rfl := Except.ok.inj ((encode_of_denotes hPlain hv).symm.trans hcursor)
    obtain rfl := Except.ok.inj ((encode_of_denotes hPlain hw).symm.trans hcursor')
    obtain rfl := Except.ok.inj ((hspelled hv).symm.trans hm)
    obtain rfl := Except.ok.inj ((hspelled hw).symm.trans hn)
    omega

/-- The last microsecond before 1970. -/
def beforeEpoch : DateTime := ⟨⟨1969, 12, 31, by decide⟩, ⟨86399999999, by decide⟩, none⟩

/-- A reading late in 2024, an hour west of UTC, where it is 2025 already. -/
def newYear : DateTime :=
  ⟨⟨2024, 12, 31, by decide⟩, ⟨84600000999, by decide⟩, some ⟨-3600000000, by decide⟩⟩

theorem temporal_roundTrip_beforeEpoch :
    (⟨some "", true⟩ : Codec).signingSecret? = none ∧ Denotes (.datetime beforeEpoch) (-1) ∧
    Denotes (.datetime newYear) 1735691400000999 ∧
    (∃ cursor n t, (⟨some "", true⟩ : Codec).encode .date (.datetime beforeEpoch) = .ok cursor ∧
      Literal.integer cursor = .ok n ∧
      ((⟨some "", true⟩ : Codec).decode .date (.str cursor)).result = .ok (.datetime t) ∧
      IsGreatest {m : Int | 1000 ∣ m ∧ m ≤ -1} t.epochMicros ∧
      (1000 ∣ (-1 : Int) → t.epochMicros = -1) ∧ t.offset = some .utc) ∧
    (∀ cursor cursor' m n, (⟨some "", true⟩ : Codec).encode .date (.datetime beforeEpoch) = .ok cursor →
      (⟨some "", true⟩ : Codec).encode .date (.datetime newYear) = .ok cursor' →
      Literal.integer cursor = .ok m → Literal.integer cursor' = .ok n →
      (-1 ≤ (1735691400000999 : Int) → m ≤ n) ∧
      (-1 + 1000 ≤ (1735691400000999 : Int) → m < n)) := by
  have hlast : beforeEpoch.epochMicros = -1 := by cbv
  have hbefore : Denotes (.datetime beforeEpoch) (-1) := hlast ▸ .naive beforeEpoch rfl
  have hinstant : newYear.epochMicros = 1735691400000999 := by cbv
  have hyear : Denotes (.datetime newYear) 1735691400000999 := by
    have hcalendar : DateTime.InCalendar newYear.epochMicros := by
      rw [hinstant]
      exact DateTime.inCalendar_iff.mpr (by decide)
    rw [← hinstant]
    exact .aware newYear ⟨-3600000000, by decide⟩ rfl hcalendar
  obtain ⟨hread, horder⟩ := temporal_roundTrip ⟨some "", true⟩ rfl
  exact ⟨rfl, hbefore, hyear, hread _ _ hbefore,
    fun cursor cursor' m n => horder _ _ _ _ cursor cursor' m n hbefore hyear⟩

end Codec

end Keyset
