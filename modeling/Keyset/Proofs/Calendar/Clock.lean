import Keyset.Calendar.Iso
import Keyset.Proofs.Calendar
import Keyset.Proofs.Text.Utf8

/-!
# Keyset — digits and clock readings

Numbers in ISO texts have a fixed number of digits, and clock readings consist of such numbers.
The lemmas follow the scanner: a number is read from its digits, a clock reading field by field,
with a colon after each but the last, and its fraction from up to six digits.

* `Iso.digits_padded` — a padded number is read back.
* `Iso.Fraction` — the texts of a fraction.
* `Iso.readClock_seconds` — a clock reading with what may come after it.
* `Iso.readClock_minutes`, `Iso.readClock_to_end` — texts that are clock readings.
-/

namespace Keyset

namespace Iso

/-- The digits among the characters are the digits among the bytes. -/
theorem isDigit_toNat {c : Char} (h : c.isDigit = true) :
    isDigit c.toNat = true ∧ c.toNat < 128 := by
  have hrange : 48 ≤ c.toNat ∧ c.toNat ≤ 57 := Char.isDigit_iff_toNat.mp h
  exact ⟨by simpa [isDigit] using hrange, by omega⟩

/-! ## Digits -/

section

variable {cs : List Char} (hDigits : ∀ c ∈ cs, c.isDigit = true)

include hDigits

/-- A run of digits has a byte for each. -/
theorem length_run : (cs.flatMap String.utf8EncodeChar).length = cs.length := by
  rw [Utf8.flatMap_of_ascii fun c hc => (isDigit_toNat (hDigits c hc)).2, List.length_map]

/-- Its bytes are digits. -/
theorem isDigit_of_mem_run {b : UInt8} (h : b ∈ cs.flatMap String.utf8EncodeChar) :
    isDigit b.toNat = true := by
  obtain ⟨c, hc, hb⟩ := List.mem_flatMap.mp h
  obtain ⟨hdigit, hascii⟩ := isDigit_toNat (hDigits c hc)
  rw [Utf8.utf8EncodeChar_of_ascii hascii, List.mem_singleton] at hb
  rwa [hb, Utf8.toNat_ofNat_of_ascii hascii]

/-- It is read as the number that they denote. -/
theorem digits_run (acc : Nat) (rest : List UInt8) :
    digits cs.length acc (cs.flatMap String.utf8EncodeChar ++ rest) =
      some (Nat.ofDigitChars 10 cs acc, rest) := by
  induction cs generalizing acc with
  | nil => rfl
  | cons c cs ih =>
    obtain ⟨hc, hcs⟩ := List.forall_mem_cons.mp hDigits
    obtain ⟨hdigit, hascii⟩ := isDigit_toNat hc
    rw [List.flatMap_cons, Utf8.utf8EncodeChar_of_ascii hascii, List.singleton_append,
      List.cons_append, List.length_cons, digits, Utf8.toNat_ofNat_of_ascii hascii, if_pos hdigit,
      ih hcs, Nat.ofDigitChars_cons, Nat.mul_comm]
    rfl

end

/-- A padded number consists of digits. -/
theorem isDigit_of_mem_padded {width n : Nat} : ∀ c ∈ (padded width n).toList, c.isDigit = true := by
  intro c hc
  rw [padded, String.toList_ofList] at hc
  rcases List.mem_append.mp hc with hzero | hdigit
  · rw [List.eq_of_mem_replicate hzero]
    rfl
  · exact Nat.isDigit_of_mem_toDigits (by decide) (by decide) hdigit

/-- The digits of a padded number denote it. -/
theorem ofDigitChars_padded (width n : Nat) :
    Nat.ofDigitChars 10 (padded width n).toList 0 = n := by
  rw [padded, String.toList_ofList, Nat.ofDigitChars_append, Nat.ofDigitChars_replicate_zero,
    Nat.mul_zero, Nat.ofDigitChars_ten_toDigits]

section

variable {width n : Nat} (hWidth : 0 < width) (hFits : n < 10 ^ width)

include hWidth hFits

/-- A padded number has as many digits as it is padded to, if that is enough. -/
theorem length_padded : (padded width n).toList.length = width := by
  have hlength := (Nat.length_toDigits_le_iff (by decide) hWidth).mpr hFits
  rw [padded, String.toList_ofList, List.length_append, List.length_replicate]
  omega

/-- It has a byte for each. -/
theorem length_encode_padded : (Utf8.encode (padded width n)).length = width := by
  rw [Utf8.encode, length_run isDigit_of_mem_padded, length_padded hWidth hFits]

/-- It is read back. -/
theorem digits_padded (rest : List UInt8) :
    digits width 0 (Utf8.encode (padded width n) ++ rest) = some (n, rest) := by
  have hdigits : ∀ c ∈ (padded width n).toList, c.isDigit = true := isDigit_of_mem_padded
  have hread := digits_run hdigits 0 rest
  rwa [length_padded hWidth hFits, ofDigitChars_padded] at hread

/-- It begins with a digit. -/
theorem isDigit_peek_padded (rest : List UInt8) :
    isDigit (peek (Utf8.encode (padded width n) ++ rest)) = true := by
  have hlength := length_encode_padded hWidth hFits
  cases hbytes : Utf8.encode (padded width n) with
  | nil =>
    rw [hbytes] at hlength
    exact absurd hlength hWidth.ne
  | cons b bs =>
    have hb : b ∈ Utf8.encode (padded width n) := by
      rw [hbytes]
      exact List.mem_cons_self ..
    exact isDigit_of_mem_run isDigit_of_mem_padded hb

end

/-- Two digits are two bytes. -/
theorem length_two {n : Nat} (h : n < 100) : (Utf8.encode (padded 2 n)).length = 2 :=
  length_encode_padded (by decide) h

/-! ## Fields -/

section

variable {stop left value : Nat} {colons : Option Bool} {fields : List Nat} (hValue : value < 100)

include hValue

/-- A field is read from its two digits; what comes after decides how to go on. -/
theorem readFields_padded (rest : List UInt8) :
    readFields stop (left + 1) colons fields (Utf8.encode (padded 2 value) ++ rest) =
      if rest.tail.length ≤ stop then some (.complete (fields ++ [value]) (peek rest != 0))
      else if colons.getD (peek rest = colon) && peek rest = colon then
        readFields stop left (some (colons.getD (peek rest = colon))) (fields ++ [value]) rest.tail
      else if peek rest = 46 ∨ peek rest = 44 then some (.fraction (fields ++ [value]) rest.tail)
      else if colons.getD (peek rest = colon) then none
      else readFields stop left (some (colons.getD (peek rest = colon))) (fields ++ [value])
        rest := by
  rw [readFields, digits_padded (by decide) hValue]
  rfl

/-- After a colon comes the next field. -/
theorem readFields_colon (hColons : colons.getD true = true) {rest : List UInt8}
    (hMore : stop < rest.length) :
    readFields stop (left + 1) colons fields (Utf8.encode (padded 2 value) ++ 58 :: rest) =
      readFields stop left (some true) (fields ++ [value]) rest := by
  have hpeek : peek (58 :: rest) = colon := rfl
  rw [readFields_padded hValue, if_neg (by simpa using hMore), hpeek, decide_eq_true rfl, hColons]
  rfl

/-- A reading ends at its last bytes. -/
theorem readFields_end {rest : List UInt8} (hEnd : rest.length ≤ stop) :
    readFields stop (left + 1) colons fields (Utf8.encode (padded 2 value) ++ rest) =
      some (.complete (fields ++ [value]) (peek rest != 0)) := by
  rw [readFields_padded hValue, if_pos]
  rw [List.length_tail]
  omega

/-- After a decimal mark comes the fraction. -/
theorem readFields_mark {mark : UInt8} (hMark : mark.toNat = 46 ∨ mark.toNat = 44)
    {rest : List UInt8} (hMore : stop < rest.length) :
    readFields stop (left + 1) colons fields (Utf8.encode (padded 2 value) ++ mark :: rest) =
      some (.fraction (fields ++ [value]) rest) := by
  have hpeek : peek (mark :: rest) = mark.toNat := rfl
  have hcolon : decide (mark.toNat = colon) = false := by
    rw [colon, decide_eq_false_iff_not]
    omega
  rw [readFields_padded hValue, if_neg (by simpa using hMore), hpeek, hcolon, Bool.and_false,
    if_neg Bool.false_ne_true, if_pos hMark]
  rfl

end

/-! ## Clock readings -/

/-- The texts of the microseconds of a second: nothing for a whole second, or a decimal mark and
digits, of which the first six, filled up with zeros, are the microseconds. -/
inductive Fraction (micro : Nat) : String → Prop
  | none (hWhole : micro = 0) : Fraction micro ""
  | digits {mark : Char} (hMark : mark = '.' ∨ mark = ',') {ds : List Char} (hSome : ds ≠ [])
      (hDigits : ∀ d ∈ ds, d.isDigit = true)
      (hMicro : Nat.ofDigitChars 10 ((ds ++ List.replicate 6 '0').take 6) 0 = micro) :
      Fraction micro (String.ofList (mark :: ds))

/-- Every number of microseconds has such a text. -/
theorem exists_fraction {micro : Nat} (h : micro < 1000000) : ∃ fraction, Fraction micro fraction := by
  have hlength : (padded 6 micro).toList.length = 6 := length_padded (by decide) h
  refine ⟨_, .digits (Or.inl rfl) (List.ne_nil_of_length_eq_add_one hlength)
    isDigit_of_mem_padded ?_⟩
  rw [List.take_left' hlength, ofDigitChars_padded]

/-- The bytes of a clock reading, with a text after the seconds. -/
def clockBytes (hour minute second : Nat) (rest : List UInt8) : List UInt8 :=
  Utf8.encode (padded 2 hour) ++ 58 :: (Utf8.encode (padded 2 minute) ++ 58 ::
    (Utf8.encode (padded 2 second) ++ rest))

/-- Six digits of a fraction count, and missing ones are zeros. -/
theorem ofDigitChars_fraction (ds : List Char) :
    Nat.ofDigitChars 10 ((ds ++ List.replicate 6 '0').take 6) 0 =
      Nat.ofDigitChars 10 (ds.take 6) 0 * Nat.pow 10 (6 - min 6 ds.length) := by
  rw [List.take_append, List.take_replicate, Nat.ofDigitChars_append,
    Nat.ofDigitChars_replicate_zero, Nat.mul_comm]
  congr 2
  omega

section

variable {ds : List Char} (hDigits : ∀ d ∈ ds, d.isDigit = true)

include hDigits

/-- Of more than six digits the first six are read. -/
theorem digits_take (rest : List UInt8) :
    digits (ds.take 6).length 0 (ds.flatMap String.utf8EncodeChar ++ rest) =
      some (Nat.ofDigitChars 10 (ds.take 6) 0,
        (ds.drop 6).flatMap String.utf8EncodeChar ++ rest) := by
  have hbytes : ds.flatMap String.utf8EncodeChar = (ds.take 6).flatMap String.utf8EncodeChar ++
      (ds.drop 6).flatMap String.utf8EncodeChar := by
    rw [← List.flatMap_append, List.take_append_drop]
  rw [hbytes, List.append_assoc, digits_run fun d hd => hDigits d (List.mem_of_mem_take hd)]

/-- Further digits are skipped. -/
theorem dropWhile_digits {rest : List UInt8} (hRest : isDigit (peek rest) = false) :
    (ds.flatMap String.utf8EncodeChar ++ rest).dropWhile (fun b => isDigit b.toNat) = rest := by
  rw [List.dropWhile_append_of_pos fun b hb => ?_]
  · cases rest with
    | nil => rfl
    | cons b rest =>
      have hb : isDigit b.toNat = false := hRest
      rw [List.dropWhile_cons_of_neg (by rw [hb]; exact Bool.false_ne_true)]
  · exact isDigit_of_mem_run hDigits hb

end

section

variable {hour minute second : Nat} (hHour : hour < 100) (hMinute : minute < 100)

include hHour hMinute

/-- A text of hours and minutes. -/
theorem readClock_minutes :
    readClock 0 (Utf8.encode (padded 2 hour ++ ":" ++ padded 2 minute)) =
      some ⟨hour, minute, 0, 0, false⟩ := by
  have hcolon : Utf8.encode ":" = [58] := rfl
  have hfields : readFields 0 3 none [] (Utf8.encode (padded 2 hour ++ ":" ++ padded 2 minute)) =
      some (.complete [hour, minute] false) := by
    simp only [Utf8.encode_append, hcolon, List.append_assoc, List.singleton_append]
    rw [← List.append_nil (Utf8.encode (padded 2 minute)), readFields_colon hHour rfl,
      readFields_end hMinute (Nat.le_refl 0)]
    · rfl
    · rw [List.append_nil, length_two hMinute]
      decide
  rw [readClock, hfields]
  rfl

variable (hSecond : second < 100)

include hSecond

/-- A reading with seconds and perhaps a fraction, before the last bytes. -/
theorem readClock_seconds {micro : Nat} {fraction : String} (hFraction : Fraction micro fraction)
    {zone : List UInt8} (hZone : isDigit (peek zone) = false) :
    readClock zone.length (clockBytes hour minute second (Utf8.encode fraction ++ zone)) =
      some ⟨hour, minute, second, micro, peek zone != 0⟩ := by
  have hfields : readFields zone.length 3 none []
      (clockBytes hour minute second (Utf8.encode fraction ++ zone)) =
        readFields zone.length 1 (some true) [hour, minute]
          (Utf8.encode (padded 2 second) ++ (Utf8.encode fraction ++ zone)) := by
    rw [clockBytes, readFields_colon hHour rfl, readFields_colon hMinute rfl]
    · rfl
    · simp only [List.length_append, length_two hSecond]
      omega
    · simp only [List.length_append, List.length_cons, length_two hMinute, length_two hSecond]
      omega
  -- hours and minutes have a colon after them; the fraction decides how the seconds are read
  cases hFraction with
  | none hWhole =>
    have hnone : Utf8.encode "" ++ zone = zone := rfl
    rw [readClock, hfields, hnone, readFields_end hSecond (Nat.le_refl _), hWhole]
    rfl
  | @digits mark hMark ds hSome hDigits hMicro =>
    have hmark : mark.toNat = 46 ∨ mark.toNat = 44 :=
      hMark.imp (fun h => by rw [h]; rfl) fun h => by rw [h]; rfl
    have hbytes : Utf8.encode (String.ofList (mark :: ds)) ++ zone =
        UInt8.ofNat mark.toNat :: (ds.flatMap String.utf8EncodeChar ++ zone) := by
      rw [Utf8.encode, String.toList_ofList, List.flatMap_cons,
        Utf8.utf8EncodeChar_of_ascii (by omega)]
      rfl
    have hlength := length_run hDigits
    have hpos : 0 < ds.length := List.length_pos_iff.mpr hSome
    -- the number of digits is found from what the zone leaves of the text
    have hcount : min 6 ((ds.flatMap String.utf8EncodeChar ++ zone).length - zone.length) =
        (ds.take 6).length := by
      rw [List.length_append, hlength, List.length_take]
      omega
    rw [readClock, hfields, hbytes, readFields_mark hSecond
      (by rwa [Utf8.toNat_ofNat_of_ascii (by omega)])
      (by rw [List.length_append, hlength]; omega)]
    simp only [Option.bind_eq_bind, Option.bind_some, hcount]
    rw [digits_take hDigits]
    have hdropped : ∀ d ∈ ds.drop 6, d.isDigit = true :=
      fun d hd => hDigits d (List.mem_of_mem_drop hd)
    simp only [Option.bind_some, dropWhile_digits hdropped hZone]
    rw [← hMicro, ofDigitChars_fraction, List.length_take]
    rfl

/-- A text of hours, minutes and seconds. -/
theorem readClock_to_end :
    readClock 0 (Utf8.encode (padded 2 hour ++ ":" ++ padded 2 minute ++ ":" ++ padded 2 second)) =
      some ⟨hour, minute, second, 0, false⟩ := by
  have hcolon : Utf8.encode ":" = [58] := rfl
  have hnone : Utf8.encode "" = [] := rfl
  have hbytes : Utf8.encode (padded 2 hour ++ ":" ++ padded 2 minute ++ ":" ++ padded 2 second) =
      clockBytes hour minute second (Utf8.encode "" ++ []) := by
    simp only [Utf8.encode_append, hcolon, hnone, clockBytes, List.append_assoc, List.append_nil,
      List.nil_append, List.cons_append]
  rw [hbytes]
  exact readClock_seconds hHour hMinute hSecond (.none rfl) (show isDigit (peek []) = false from rfl)

end

end Iso

end Keyset
