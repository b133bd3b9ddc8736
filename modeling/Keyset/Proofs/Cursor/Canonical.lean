import Keyset.Proofs.Cursor.Temporal

/-!
# Keyset — which texts are timestamps, and their canonical form

An unsigned cursor of kind `Date` is an optional minus and ASCII digits. It is accepted if the
integer that it spells is a number of milliseconds in the years 1 to 9999, and the date that it
is read as has a cursor of its own: the one spelling of the integer without superfluous zeros.

* `Decimal.Spells` — the integer that a text spells.
* `Decimal.IsCanonical` — the canonical spelling, and `isCanonical_iff` that there is one.
* `Codec.decode_date_eq_ok_iff` — which cursors are accepted, and what they are read as.
* `Codec.canonical_of_decode` — the cursor of the date that a cursor is read as.
-/

namespace Keyset

/-! ## Spellings of integers -/

namespace Decimal

/-- A text spells an integer: it is an optional minus and one or more ASCII digits that denote
the integer. -/
def Spells (s : String) (n : Int) : Prop :=
  ∃ (negative : Bool) (digits : List Char),
    s.toList = (if negative then '-' :: digits else digits) ∧ digits ≠ [] ∧
    (∀ d ∈ digits, d.isDigit = true) ∧
    n = if negative then -(Nat.ofDigitChars 10 digits 0 : Int) else Nat.ofDigitChars 10 digits 0

/-- The canonical spelling of an integer has no leading zeros, and no minus before a zero. -/
structure IsCanonical (s : String) (n : Int) : Prop where
  spells : Spells s n
  no_leading_zero : ∀ rest, s.toList = '0' :: rest → rest = []
  no_minus_zero : ∀ rest, s.toList ≠ '-' :: '0' :: rest

/-- An ASCII digit is the digit of its value. -/
theorem digitChar_of_isDigit {d : Char} (h : d.isDigit = true) :
    d.toNat - '0'.toNat < 10 ∧ Nat.digitChar (d.toNat - '0'.toNat) = d := by
  have hrange : 48 ≤ d.toNat ∧ d.toNat ≤ 57 := Char.isDigit_iff_toNat.mp h
  have hcode : ∀ k < 10, (Nat.digitChar k).toNat = 48 + k := by decide
  have hlt : d.toNat - 48 < 10 := by omega
  refine ⟨hlt, Char.toNat_inj.mp ?_⟩
  rw [show '0'.toNat = 48 from rfl, hcode _ hlt]
  omega

/-- Digits without a leading zero are the digits of what they denote. -/
theorem toDigits_ofDigitChars {digits : List Char} (hSome : digits ≠ [])
    (hDigits : ∀ d ∈ digits, d.isDigit = true) (hLead : ∀ rest, digits = '0' :: rest → rest = []) :
    Nat.toDigits 10 (Nat.ofDigitChars 10 digits 0) = digits := by
  -- induction from the right: the last digit is the remainder by ten
  induction digits using List.reverseRecOn with
  | nil => exact absurd rfl hSome
  | append_singleton front d ih =>
    obtain ⟨hlt, hchar⟩ := digitChar_of_isDigit (hDigits d (by simp))
    rw [Nat.ofDigitChars_append, Nat.ofDigitChars_cons, Nat.ofDigitChars_nil]
    by_cases hfront : front = []
    · rw [hfront, Nat.ofDigitChars_nil, Nat.mul_zero, Nat.zero_add, Nat.toDigits_of_lt_base hlt,
        hchar, List.nil_append]
    · -- what stands before the last digit does not even start with a zero
      have hnonzero : ∀ rest, front ≠ '0' :: rest := by
        rintro rest rfl
        exact List.append_ne_nil_of_right_ne_nil rest (List.cons_ne_nil d []) (hLead _ rfl)
      have hread := ih hfront (fun e he => hDigits e (List.mem_append_left _ he))
        fun rest h => absurd h (hnonzero rest)
      have hpos : 0 < Nat.ofDigitChars 10 front 0 := by
        rw [Nat.pos_iff_ne_zero]
        intro hzero
        rw [hzero, Nat.toDigits_zero] at hread
        exact hnonzero [] hread.symm
      rw [← Nat.toDigits_append_toDigits (by decide) hpos hlt, hread,
        Nat.toDigits_of_lt_base hlt, hchar]

/-- The digits of a number start with a zero only if it is zero. -/
theorem eq_zero_of_toDigits_eq {n : Nat} :
    ∀ {rest : List Char}, Nat.toDigits 10 n = '0' :: rest → n = 0 := by
  -- induction on the number: more digits than one start with those of its tenth
  induction n using Nat.strong_induction_on with
  | _ n ih =>
    intro rest h
    rcases Nat.lt_or_ge n 10 with hlt | hge
    · have hcode : ∀ k < 10, Nat.digitChar k = '0' → k = 0 := by decide
      rw [Nat.toDigits_of_lt_base hlt] at h
      exact hcode n hlt (List.cons.inj h).1
    · rw [Nat.toDigits_of_base_le (by decide) hge] at h
      obtain ⟨front, hfront⟩ : ∃ front, Nat.toDigits 10 (n / 10) = '0' :: front := by
        cases hdigits : Nat.toDigits 10 (n / 10) with
        | nil => exact absurd hdigits Nat.toDigits_ne_nil
        | cons d front =>
          rw [hdigits, List.cons_append] at h
          exact ⟨front, by rw [(List.cons.inj h).1]⟩
      have htenth := ih (n / 10) (by omega) hfront
      omega

theorem toList_text (n : Int) : (text n).toList =
    if n < 0 then '-' :: Nat.toDigits 10 n.natAbs else Nat.toDigits 10 n.natAbs := by
  obtain ⟨htext, -, -⟩ := Codec.timestampDigits?_eq_some_iff.mp (Codec.timestampDigits?_text n)
  simpa only [decide_eq_true_iff] using htext

theorem spells_text (n : Int) : Spells (text n) n := by
  obtain ⟨htext, hsome, hdigits⟩ :=
    Codec.timestampDigits?_eq_some_iff.mp (Codec.timestampDigits?_text n)
  refine ⟨decide (n < 0), Nat.toDigits 10 n.natAbs, htext, hsome, hdigits, ?_⟩
  rw [Nat.ofDigitChars_ten_toDigits]
  by_cases hneg : n < 0
  · rw [decide_eq_true hneg, if_pos rfl]
    omega
  · rw [decide_eq_false hneg, if_neg Bool.false_ne_true]
    omega

theorem isCanonical_text (n : Int) : IsCanonical (text n) n where
  spells := spells_text n
  no_leading_zero rest h := by
    rw [toList_text] at h
    split at h
    · exact absurd (List.cons.inj h).1 (by decide)
    · rw [eq_zero_of_toDigits_eq h, Nat.toDigits_zero] at h
      exact (List.cons.inj h).2.symm
  no_minus_zero rest h := by
    rw [toList_text] at h
    split at h
    · have hzero := eq_zero_of_toDigits_eq (List.cons.inj h).2
      omega
    · -- digits alone do not start with a minus
      have hminus : '-'.isDigit = true := Nat.isDigit_of_mem_toDigits (by decide) (by decide)
        (h ▸ List.mem_cons_self ..)
      exact absurd hminus (by decide)

/-- A canonical spelling is the text of what it spells. -/
theorem IsCanonical.eq_text {s : String} {n : Int} (h : IsCanonical s n) : s = text n := by
  obtain ⟨negative, digits, hs, hsome, hdigits, hn⟩ := h.spells
  rw [← String.toList_inj, toList_text, hs]
  cases negative with
  | true =>
    -- after a minus there is no zero at all, so that the integer is negative
    have hnonzero : ∀ rest, digits ≠ '0' :: rest := fun rest hdigits =>
      h.no_minus_zero rest (by rw [hs, if_pos rfl, hdigits])
    have hread := toDigits_ofDigitChars hsome hdigits fun rest h => absurd h (hnonzero rest)
    have hpos : Nat.ofDigitChars 10 digits 0 ≠ 0 := by
      intro hzero
      rw [hzero, Nat.toDigits_zero] at hread
      exact hnonzero [] hread.symm
    rw [if_pos rfl] at hn ⊢
    rw [if_pos (by omega), show n.natAbs = Nat.ofDigitChars 10 digits 0 by omega, hread]
  | false =>
    rw [if_neg Bool.false_ne_true] at hs hn ⊢
    have hread := toDigits_ofDigitChars hsome hdigits fun rest hdigits =>
      h.no_leading_zero rest (hs.trans hdigits)
    rw [if_neg (by omega), show n.natAbs = Nat.ofDigitChars 10 digits 0 by omega, hread]

/-- **Every integer has one canonical spelling**, its text. -/
theorem isCanonical_iff {s : String} {n : Int} : IsCanonical s n ↔ s = text n := by
  constructor
  · exact IsCanonical.eq_text
  · rintro rfl
    exact isCanonical_text n

end Decimal

/-! ## Dates of timestamps -/

namespace Timestamp

variable {n : Int} {aware : Bool} {t : DateTime}

/-- Milliseconds that have a date are in the calendar. -/
theorem inCalendar_of_toDateTime? (h : toDateTime? n aware = some t) :
    DateTime.InCalendar (n * 1000) := by
  by_contra hout
  rw [toDateTime?, DateTime.ofEpochMicros?_eq_none hout] at h
  cases h

/-- The milliseconds of the years 1 to 9999 have a date, and no others do. -/
theorem exists_toDateTime?_iff :
    (∃ t, toDateTime? n aware = some t) ↔ -62135596800000 ≤ n ∧ n ≤ 253402300799999 := by
  -- the first and the last day number, counted in milliseconds from 1970
  have hcalendar : DateTime.InCalendar (n * 1000) ↔
      -62135596800000 ≤ n ∧ n ≤ 253402300799999 := by
    rw [DateTime.inCalendar_iff, dayMicros, DateTime.epochDay]
    omega
  rw [← hcalendar]
  constructor
  · rintro ⟨t, ht⟩
    exact inCalendar_of_toDateTime? ht
  · intro hin
    obtain ⟨t, ht, -, -⟩ := DateTime.exists_ofEpochMicros? hin aware
    exact ⟨t, ht⟩

/-- The date of so many milliseconds is their instant, in UTC. -/
theorem epochMicros_of_toDateTime? (h : toDateTime? n aware = some t) :
    t.epochMicros = n * 1000 ∧ t.offset = if aware then some .utc else none := by
  obtain ⟨u, hu, hinstant, hoffset⟩ :=
    DateTime.exists_ofEpochMicros? (inCalendar_of_toDateTime? h) aware
  obtain rfl := Option.some.inj (hu.symm.trans h)
  exact ⟨hinstant, hoffset⟩

end Timestamp

/-! ## Accepted timestamps -/

namespace Codec

/-- The sign and the digits of a timestamp spell an integer. -/
theorem spells_iff {s : String} {n : Int} : Decimal.Spells s n ↔
    ∃ negative digits, timestampDigits? s = some (negative, digits) ∧
      n = if negative then -(Double.natOfDigits digits : Int) else Double.natOfDigits digits := by
  simp only [timestampDigits?_eq_some_iff, Decimal.natOfDigits_eq, Decimal.Spells, and_assoc]

/-- A text spells one integer at most. -/
theorem eq_of_spells {s : String} {m n : Int} (hm : Decimal.Spells s m) (hn : Decimal.Spells s n) :
    m = n := by
  obtain ⟨negative, digits, hs, rfl⟩ := spells_iff.mp hm
  obtain ⟨negative', digits', hs', rfl⟩ := spells_iff.mp hn
  obtain ⟨rfl, rfl⟩ := Prod.mk.inj (Option.some.inj (hs.symm.trans hs'))
  rfl

/-- The digits of a timestamp are those of its text. -/
theorem length_of_timestampDigits? {s : String} {negative : Bool} {digits : List Char}
    (h : timestampDigits? s = some (negative, digits)) :
    digits.length = s.toList.countP Char.isDigit := by
  obtain ⟨hs, -, hdigits⟩ := timestampDigits?_eq_some_iff.mp h
  have hall : digits.countP Char.isDigit = digits.length := List.countP_eq_length.mpr hdigits
  rw [hs]
  cases negative with
  | true => rw [if_pos rfl, List.countP_cons_of_neg (by decide), hall]
  | false => rw [if_neg Bool.false_ne_true, hall]

section

variable {c : Codec} (hPlain : c.signingSecret? = none)

include hPlain

/-- An unsigned date is read from the cursor itself. -/
theorem result_decode_date (cursor : String) :
    (c.decode .date (.str cursor)).result = c.dateOfText (.str cursor) (.str cursor) := by
  rw [result_decode, content?_of_unsigned hPlain]

/-- **Which unsigned dates are read**: a text that spells an integer with no more digits than an
integer may have, and the integer has a date. -/
theorem decode_date_eq_ok_iff {cursor : String} {v : Value} :
    (c.decode .date (.str cursor)).result = .ok v ↔
      cursor.toList.countP Char.isDigit ≤ ValueFault.digitLimit ∧
      ∃ n t, Decimal.Spells cursor n ∧ Timestamp.toDateTime? n c.aware = some t ∧
        v = .datetime t := by
  rw [result_decode_date hPlain]
  cases hdigits : timestampDigits? cursor with
  | none =>
    -- no timestamp is refused, and spells nothing
    refine iff_of_false ?_ ?_
    · simp only [dateOfText, hdigits]
      exact raise_ne_ok _ _
    · rintro ⟨-, n, t, hspells, -, -⟩
      obtain ⟨negative, digits, hsome, -⟩ := spells_iff.mp hspells
      rw [hdigits] at hsome
      cases hsome
  | some parts =>
    obtain ⟨negative, digits⟩ := parts
    rw [← length_of_timestampDigits? hdigits]
    by_cases hlimit : digits.length ≤ ValueFault.digitLimit
    · -- what is left of the reader is whether the integer has a date
      rw [dateOfText_of_digits c _ hdigits hlimit]
      generalize hn : (if negative then -(Double.natOfDigits digits : Int)
        else Double.natOfDigits digits) = n
      have hspells : Decimal.Spells cursor n := spells_iff.mpr ⟨negative, digits, hdigits, hn.symm⟩
      constructor
      · intro h
        cases hdate : Timestamp.toDateTime? n c.aware with
        | none =>
          rw [hdate] at h
          exact absurd h (raise_ne_ok _ _)
        | some t =>
          rw [hdate] at h
          exact ⟨hlimit, n, t, hspells, hdate, (Except.ok.inj h).symm⟩
      · rintro ⟨-, m, t, hm, hdate, rfl⟩
        obtain rfl := eq_of_spells hm hspells
        rw [hdate]
    · -- too many digits are reported as such
      obtain ⟨_, hlong⟩ := dateOfText_of_overlong c cursor
        (overlongTimestamp_iff.mpr ⟨negative, digits, hdigits, Nat.lt_of_not_le hlimit⟩)
      refine iff_of_false ?_ fun h => hlimit h.1
      rw [hlong]
      simp

/-- Unless a cursor has more digits than an integer may have, it is read as a date or refused. -/
theorem contained_decode_date {cursor : String}
    (hDigits : cursor.toList.countP Char.isDigit ≤ ValueFault.digitLimit) :
    Contained (c.decode .date (.str cursor)).result := by
  rw [result_decode_date hPlain, dateOfText_contained_iff]
  -- only a text with too many digits could get past the refusals
  rintro ⟨s, ⟨⟩, hlong⟩
  obtain ⟨negative, digits, hdigits, hlong⟩ := overlongTimestamp_iff.mp hlong
  rw [length_of_timestampDigits? hdigits] at hlong
  omega

/-- The cursor of the date of so many milliseconds is their text. -/
theorem encode_of_toDateTime? {n : Int} {t : DateTime}
    (h : Timestamp.toDateTime? n c.aware = some t) :
    c.encode .date (.datetime t) = .ok (Decimal.text n) := by
  obtain ⟨hinstant, -⟩ := Timestamp.epochMicros_of_toDateTime? h
  rw [encode_datetime, cursorOf, write, hPlain, Timestamp.ofDateTime, hinstant,
    Int.mul_ediv_cancel _ (by decide)]

/-- **Timestamps and their canonical form.** A cursor with no more digits than an integer may have is
read as a date exactly if it spells the milliseconds of a date in the years 1 to 9999, and refused
otherwise. A cursor that is read gives a date at the instant of its milliseconds, and the cursor
of that date is their one canonical spelling. Two cursors are read as equal dates exactly if they
spell one integer. -/
theorem canonical_of_decode :
    (∀ cursor : String, cursor.toList.countP Char.isDigit ≤ 4300 →
      ((∃ v, (c.decode .date (.str cursor)).result = .ok v) ↔
        ∃ n, Decimal.Spells cursor n ∧ -62135596800000 ≤ n ∧ n ≤ 253402300799999) ∧
      ((¬ ∃ v, (c.decode .date (.str cursor)).result = .ok v) →
        ∃ e : EngineError, (c.decode .date (.str cursor)).result = .error (.engine e) ∧
          e.kind = .invalidCursor)) ∧
    (∀ cursor v, (c.decode .date (.str cursor)).result = .ok v →
      ∃ n t text, Decimal.Spells cursor n ∧ v = .datetime t ∧ t.epochMicros = n * 1000 ∧
        c.encode .date v = .ok text ∧ ∀ s, Decimal.IsCanonical s n ↔ s = text) ∧
    (∀ cursor cursor' v w m n, (c.decode .date (.str cursor)).result = .ok v →
      (c.decode .date (.str cursor')).result = .ok w →
      Decimal.Spells cursor m → Decimal.Spells cursor' n → (v.equal w = true ↔ m = n)) := by
  refine ⟨?_, ?_, ?_⟩
  · intro cursor hDigits
    constructor
    · constructor
      · rintro ⟨v, hv⟩
        obtain ⟨-, n, t, hspells, hdate, -⟩ := (decode_date_eq_ok_iff hPlain).mp hv
        exact ⟨n, hspells, Timestamp.exists_toDateTime?_iff.mp ⟨t, hdate⟩⟩
      · rintro ⟨n, hspells, hrange⟩
        obtain ⟨t, hdate⟩ := Timestamp.exists_toDateTime?_iff.mpr hrange
        exact ⟨_, (decode_date_eq_ok_iff hPlain).mpr ⟨hDigits, n, t, hspells, hdate, rfl⟩⟩
    · -- what is not read is refused: no other failure gets out
      intro hrefused
      exact (contained_decode_date hPlain hDigits).resolve_left hrefused
  · intro cursor v hv
    obtain ⟨-, n, t, hspells, hdate, rfl⟩ := (decode_date_eq_ok_iff hPlain).mp hv
    obtain ⟨hinstant, -⟩ := Timestamp.epochMicros_of_toDateTime? hdate
    exact ⟨n, t, _, hspells, rfl, hinstant, encode_of_toDateTime? hPlain hdate,
      fun s => Decimal.isCanonical_iff⟩
  · intro cursor cursor' v w m n hv hw hm hn
    -- each value is the date of the integer that its cursor spells
    obtain ⟨-, m', t, hspells, hdate, rfl⟩ := (decode_date_eq_ok_iff hPlain).mp hv
    obtain rfl := eq_of_spells hm hspells
    obtain ⟨-, n', u, hspells', hdate', rfl⟩ := (decode_date_eq_ok_iff hPlain).mp hw
    obtain rfl := eq_of_spells hn hspells'
    obtain ⟨hinstant, hoffset⟩ := Timestamp.epochMicros_of_toDateTime? hdate
    obtain ⟨hinstant', hoffset'⟩ := Timestamp.epochMicros_of_toDateTime? hdate'
    -- both are naive or both are aware, so that only their instants count
    simp only [Value.equal, Value.sameKey, Value.sameDateTime, hinstant, hinstant', hoffset, hoffset',
      beq_self_eq_true, Bool.true_and, beq_iff_eq]
    omega

end

/-- Seven milliseconds before 1970, with zeros in front: the cursor of the date leaves them out, and
is read as an equal date. -/
theorem canonical_of_decode_leadingZeros :
    (⟨some "", true⟩ : Codec).signingSecret? = none ∧
    "-007".toList.countP Char.isDigit ≤ 4300 ∧ Decimal.Spells "-007" (-7) ∧
    ∃ v w, ((⟨some "", true⟩ : Codec).decode .date (.str "-007")).result = .ok v ∧
      (⟨some "", true⟩ : Codec).encode .date v = .ok "-7" ∧
      ((⟨some "", true⟩ : Codec).decode .date (.str "-7")).result = .ok w ∧ v.equal w = true := by
  have hspells : Decimal.Spells "-007" (-7) :=
    ⟨true, ['0', '0', '7'], rfl, by decide, List.all_eq_true.mp rfl, rfl⟩
  have hspells' : Decimal.Spells "-7" (-7) :=
    ⟨true, ['7'], rfl, by decide, List.all_eq_true.mp rfl, rfl⟩
  obtain ⟨haccepted, hcanonical, hequal⟩ := canonical_of_decode (c := ⟨some "", true⟩) rfl
  obtain ⟨v, hv⟩ := (haccepted "-007" (by decide)).1.mpr ⟨-7, hspells, by decide, by decide⟩
  obtain ⟨w, hw⟩ := (haccepted "-7" (by decide)).1.mpr ⟨-7, hspells', by decide, by decide⟩
  obtain ⟨n, t, text, hn, -, -, htext, honly⟩ := hcanonical "-007" v hv
  obtain rfl := eq_of_spells hspells hn
  -- the canonical spelling is the only one, and "-7" is canonical
  obtain rfl := (honly "-7").mp (Decimal.isCanonical_iff.mpr rfl)
  exact ⟨rfl, by decide, hspells, v, w, hv, htext, hw,
    (hequal "-007" "-7" v w (-7) (-7) hv hw hspells hspells').mpr rfl⟩

end Codec

end Keyset
