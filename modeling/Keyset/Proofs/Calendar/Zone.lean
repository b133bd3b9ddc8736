import Keyset.Cursor.Timestamp
import Keyset.Proofs.Calendar.Clock

/-!
# Keyset — times with an offset

A time of day may be followed by its offset from UTC, as hours and minutes, with seconds, or as the
letter `Z`, which is spelled out before a text is read. The time ends at the first sign after it,
since there is none in a clock reading.

* `Iso.Zone` — the texts of an offset; `Iso.exists_zone_iff` says which offsets have one.
* `Timestamp.spellZulu_append` — spelling out `Z` part by part.
* `Iso.readTime_clock` — a time is read with its offset.
-/

namespace Keyset

namespace Iso

/-! ## Offsets -/

/-- The sign of an offset. -/
def sign (negative : Bool) : String := if negative then "-" else "+"

/-- The microseconds of so many seconds with a sign. -/
def signedMicros (negative : Bool) (seconds : Nat) : Int :=
  if negative then -(seconds * 1000000 : Nat) else (seconds * 1000000 : Nat)

/-- The texts of an offset: nothing without one, a sign with hours and minutes and perhaps
seconds, and `Z` for the offset zero, which may also have either sign. -/
inductive Zone : Option UtcOffset → String → Prop
  | naive : Zone none ""
  | zulu {offset : UtcOffset} (hZero : offset.micros = 0) : Zone (some offset) "Z"
  | minutes {offset : UtcOffset} {negative : Bool} {hour minute : Nat} (hMinute : minute < 60)
      (hOffset : offset.micros = signedMicros negative ((hour * 60 + minute) * 60)) :
      Zone (some offset) (sign negative ++ (padded 2 hour ++ ":" ++ padded 2 minute))
  | seconds {offset : UtcOffset} {negative : Bool} {hour minute second : Nat}
      (hMinute : minute < 60) (hSecond : second < 60)
      (hOffset : offset.micros = signedMicros negative ((hour * 60 + minute) * 60 + second)) :
      Zone (some offset)
        (sign negative ++ (padded 2 hour ++ ":" ++ padded 2 minute ++ ":" ++ padded 2 second))

/-- An offset has less than 24 hours. -/
theorem hour_lt {offset : UtcOffset} {negative : Bool} {hour rest : Nat}
    (h : offset.micros = signedMicros negative (hour * 3600 + rest)) : hour < 24 := by
  have hwithin := offset.within
  rw [h, signedMicros, dayMicros] at hwithin
  split at hwithin <;> omega

/-- The offsets with a text are those of whole seconds. -/
theorem exists_zone_iff {offset : UtcOffset} :
    (∃ zone, Zone (some offset) zone) ↔ offset.micros % 1000000 = 0 := by
  constructor
  · -- no form of a zone writes less than a second
    rintro ⟨zone, hzone⟩
    cases hzone with
    | zulu hZero => rw [hZero]; rfl
    | minutes _ hOffset =>
      rw [hOffset, signedMicros]
      split <;> omega
    | seconds _ _ hOffset =>
      rw [hOffset, signedMicros]
      split <;> omega
  · -- the form with seconds is always there
    intro h
    refine ⟨sign (decide (offset.micros < 0)) ++ (padded 2 (offset.micros.natAbs / 3600000000) ++
      ":" ++ padded 2 (offset.micros.natAbs / 60000000 % 60) ++
      ":" ++ padded 2 (offset.micros.natAbs / 1000000 % 60)), .seconds ?_ ?_ ?_⟩
    · omega
    · omega
    · simp only [signedMicros, decide_eq_true_eq]
      split <;> omega

end Iso

/-! ## Spelling out `Z` -/

namespace Timestamp

@[simp]
theorem spellZulu_append (s t : String) : spellZulu (s ++ t) = spellZulu s ++ spellZulu t := by
  rw [spellZulu, String.toList_append, List.flatMap_append, String.ofList_append]
  rfl

/-- A text without `Z` stays as it is. -/
theorem spellZulu_eq {s : String} (h : ∀ c ∈ s.toList, c ≠ 'Z') : spellZulu s = s := by
  rw [spellZulu, List.flatMap_congr fun c hc => if_neg (h c hc), List.flatMap_singleton',
    String.ofList_toList]

theorem ne_zulu_of_isDigit {c : Char} (h : c.isDigit = true) : c ≠ 'Z' := by
  rintro rfl
  cases h

@[simp]
theorem spellZulu_padded {width n : Nat} : spellZulu (padded width n) = padded width n :=
  spellZulu_eq fun c hc => ne_zulu_of_isDigit (Iso.isDigit_of_mem_padded c hc)

@[simp]
theorem spellZulu_colon : spellZulu ":" = ":" := rfl

@[simp]
theorem spellZulu_hyphen : spellZulu "-" = "-" := rfl

theorem spellZulu_sign (negative : Bool) : spellZulu (Iso.sign negative) = Iso.sign negative := by
  cases negative <;> rfl

theorem spellZulu_fraction {micro : Nat} {fraction : String} (h : Iso.Fraction micro fraction) :
    spellZulu fraction = fraction := by
  cases h with
  | none => rfl
  | digits hMark _ hDigits =>
    refine spellZulu_eq fun c hc => ?_
    rw [String.toList_ofList] at hc
    rcases List.mem_cons.mp hc with rfl | hdigit
    · rcases hMark with rfl | rfl <;> decide
    · exact ne_zulu_of_isDigit (hDigits c hdigit)

end Timestamp

namespace Iso

/-! ## Times -/

/-- Whether a byte is no sign. -/
def isUnsigned (b : UInt8) : Bool := b.toNat != plus && b.toNat != hyphen

theorem isUnsigned_of_isDigit {b : UInt8} (h : isDigit b.toNat = true) : isUnsigned b = true := by
  simp only [isDigit, Bool.and_eq_true, decide_eq_true_eq] at h
  simp only [isUnsigned, plus, hyphen, Bool.and_eq_true, bne_iff_ne]
  omega

/-- A fraction has no sign in it. -/
theorem isUnsigned_fraction {micro : Nat} {fraction : String} (hFraction : Fraction micro fraction) :
    ∀ b ∈ Utf8.encode fraction, isUnsigned b = true := by
  intro b hb
  cases hFraction with
  | none => cases hb
  | digits hMark _ hDigits =>
    rw [Utf8.encode, String.toList_ofList, List.flatMap_cons, List.mem_append] at hb
    rcases hb with hmark | hdigit
    · rcases hMark with rfl | rfl <;> rw [List.mem_singleton.mp hmark] <;> rfl
    · exact isUnsigned_of_isDigit (isDigit_of_mem_run hDigits hdigit)

/-- No byte of a clock reading is a sign, so that the first sign is that of the offset. -/
theorem dropWhile_clock (hour minute second : Nat) {micro : Nat} {fraction : String}
    (hFraction : Fraction micro fraction) (rest : List UInt8) :
    (clockBytes hour minute second (Utf8.encode fraction ++ rest)).dropWhile
        (fun b => b.toNat != plus && b.toNat != hyphen) =
      rest.dropWhile fun b => b.toNat != plus && b.toNat != hyphen := by
  have hbytes : clockBytes hour minute second (Utf8.encode fraction ++ rest) =
      clockBytes hour minute second (Utf8.encode fraction) ++ rest := by
    simp only [clockBytes, List.append_assoc, List.cons_append]
  have hcolon : isUnsigned 58 = true := rfl
  have hpadded (value : Nat) : ∀ b ∈ Utf8.encode (padded 2 value), isUnsigned b = true :=
    fun b hb => isUnsigned_of_isDigit (isDigit_of_mem_run isDigit_of_mem_padded hb)
  rw [hbytes]
  -- a clock reading has digits, colons and a decimal mark, so that the first sign is the zone's
  refine List.dropWhile_append_of_pos fun b hb => ?_
  change isUnsigned b = true
  simp only [clockBytes, List.mem_append, List.mem_cons] at hb
  rcases hb with hb | rfl | hb | rfl | hb | hb
  · exact hpadded _ b hb
  · exact hcolon
  · exact hpadded _ b hb
  · exact hcolon
  · exact hpadded _ b hb
  · exact isUnsigned_fraction hFraction b hb

section

variable {hour minute second micro : Nat} (hHour : hour < 100) (hMinute : minute < 100)
  (hSecond : second < 100) {fraction : String} (hFraction : Fraction micro fraction)

include hHour hMinute hSecond hFraction

/-- A time without an offset. -/
theorem readTime_naive :
    readTime (clockBytes hour minute second (Utf8.encode fraction)) =
      some (⟨hour, minute, second, micro, false⟩, none) := by
  have hnone : isDigit (peek []) = false := rfl
  have hclock := readClock_seconds hHour hMinute hSecond hFraction hnone
  have hzone := dropWhile_clock hour minute second hFraction []
  rw [List.append_nil] at hclock hzone
  rw [readTime]
  simp only [hzone, List.dropWhile_nil, List.length_nil] at hclock ⊢
  rw [hclock]
  rfl

/-- A time with an offset in whole seconds. -/
theorem readTime_offset (negative : Bool) {offset : List UInt8} {h m s : Nat}
    (hOffset : readClock 0 offset = some ⟨h, m, s, 0, false⟩) :
    readTime (clockBytes hour minute second
        (Utf8.encode fraction ++ (Utf8.encode (sign negative) ++ offset))) =
      some (⟨hour, minute, second, micro, true⟩,
        some (signedMicros negative ((h * 60 + m) * 60 + s))) := by
  obtain ⟨b, hb, hsign⟩ : ∃ b, Utf8.encode (sign negative) = [b] ∧
      b.toNat = if negative then hyphen else plus := by
    cases negative with
    | false => exact ⟨43, rfl, rfl⟩
    | true => exact ⟨45, rfl, rfl⟩
  have hdigit : isDigit (peek (b :: offset)) = false := by
    change isDigit b.toNat = false
    rw [hsign]
    cases negative <;> rfl
  have hclock := readClock_seconds hHour hMinute hSecond hFraction hdigit
  have hzone := dropWhile_clock hour minute second hFraction (b :: offset)
  rw [List.dropWhile_cons_of_neg] at hzone
  · have hmore : (peek (b :: offset) != 0) = true := by
      change (b.toNat != 0) = true
      rw [hsign]
      cases negative <;> rfl
    rw [hb, readTime, List.singleton_append]
    simp only [hzone, hclock, hmore, hOffset, Option.bind_eq_bind, Option.bind_some, hsign,
      Bool.false_eq_true, if_false, Option.some.injEq, Prod.mk.injEq, true_and, signedMicros]
    -- an offset without seconds is zero, whatever its sign
    generalize (h * 60 + m) * 60 + s = seconds
    cases negative with
    | false =>
      rw [if_neg Bool.false_ne_true, if_neg Bool.false_ne_true, if_neg (by decide)]
      split <;> omega
    | true =>
      rw [if_pos rfl, if_pos rfl, if_pos rfl]
      split <;> omega
  · rw [hsign]
    cases negative <;> decide

/-- A time with a signed offset that has no `Z` in it. -/
theorem readTime_signed (negative : Bool) {body : String} {h m s : Nat}
    (hBody : Timestamp.spellZulu body = body)
    (hClock : readClock 0 (Utf8.encode body) = some ⟨h, m, s, 0, false⟩) :
    readTime (clockBytes hour minute second
        (Utf8.encode fraction ++ Utf8.encode (Timestamp.spellZulu (sign negative ++ body)))) =
      some (⟨hour, minute, second, micro, true⟩,
        some (signedMicros negative ((h * 60 + m) * 60 + s))) := by
  rw [Timestamp.spellZulu_append, Timestamp.spellZulu_sign, hBody, Utf8.encode_append]
  exact readTime_offset hHour hMinute hSecond hFraction negative hClock

/-- A time is read with its offset. -/
theorem readTime_clock {offset : Option UtcOffset} {zone : String} (hZone : Zone offset zone) :
    ∃ more, readTime (clockBytes hour minute second
        (Utf8.encode fraction ++ Utf8.encode (Timestamp.spellZulu zone))) =
      some (⟨hour, minute, second, micro, more⟩, offset.map (·.micros)) := by
  cases hZone with
  | naive =>
    have hnone : Utf8.encode (Timestamp.spellZulu "") = [] := rfl
    rw [hnone, List.append_nil]
    exact ⟨false, readTime_naive hHour hMinute hSecond hFraction⟩
  | @zulu offset hZero =>
    -- the letter is spelled out as an offset of no hours and no minutes
    have hspell : Timestamp.spellZulu "Z" =
        Timestamp.spellZulu (sign false ++ (padded 2 0 ++ ":" ++ padded 2 0)) := rfl
    have hclock := readClock_minutes (show 0 < 100 by decide) (show 0 < 100 by decide)
    rw [hspell, readTime_signed hHour hMinute hSecond hFraction false rfl hclock, Option.map_some,
      hZero]
    exact ⟨true, rfl⟩
  | @minutes offset negative h m hM hOffset =>
    have hH : h < 24 := hour_lt (hOffset.trans (congrArg (signedMicros negative)
      (show (h * 60 + m) * 60 = h * 3600 + m * 60 by omega)))
    have hclock := readClock_minutes (show h < 100 by omega) (show m < 100 by omega)
    rw [readTime_signed hHour hMinute hSecond hFraction negative (by simp) hclock, Option.map_some,
      hOffset]
    exact ⟨true, rfl⟩
  | @seconds offset negative h m s hM hS hOffset =>
    have hH : h < 24 := hour_lt (hOffset.trans (congrArg (signedMicros negative)
      (show (h * 60 + m) * 60 + s = h * 3600 + (m * 60 + s) by omega)))
    have hclock := readClock_to_end (show h < 100 by omega) (show m < 100 by omega)
      (show s < 100 by omega)
    rw [readTime_signed hHour hMinute hSecond hFraction negative (by simp) hclock, Option.map_some,
      hOffset]
    exact ⟨true, rfl⟩

end

end Iso

end Keyset
