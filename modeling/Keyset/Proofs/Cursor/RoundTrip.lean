import Keyset.Proofs.Calendar
import Keyset.Proofs.Cursor.Failure

/-!
# Keyset — cursors of dates are read back

A date travels as the decimal text of its milliseconds. With a secret the text is
signed on the way; what reading needs of the signature is `Codec.Opens`, that a
signed text gives back the text.

* `Decimal.text` — the text of an integer; `timestampDigits?_text` reads its digits.
* `Codec.write` — a text as it is handed out, signed or not.
* `Codec.content?_write` — what a text that was handed out holds.
* `Codec.cursorOf` — the cursor of a date and time, and `decode_cursorOf`.
-/

namespace Keyset

/-! ## Decimal texts -/

namespace Decimal

/-- The decimal text of an integer of any length. -/
def text (n : Int) : String := if n < 0 then "-" ++ toString n.natAbs else toString n.natAbs

/-- A run of digits denotes its number to the base ten. -/
theorem natOfDigits_eq (digits : List Char) :
    Double.natOfDigits digits = Nat.ofDigitChars 10 digits 0 := by
  rw [Nat.ofDigitChars_eq_foldl, Double.natOfDigits]
  simp only [Nat.mul_comm 10]

/-- The digits of a natural number denote it. -/
theorem natOfDigits_toDigits (n : Nat) : Double.natOfDigits (Nat.toDigits 10 n) = n := by
  rw [natOfDigits_eq, Nat.ofDigitChars_ten_toDigits]

/-- Integers within the digit limit have a text. -/
theorem render_eq_text {n : Int} {digits : Nat} (hDigits : n.natAbs < 10 ^ digits)
    (hPos : 0 < digits) (hLimit : digits ≤ ValueFault.digitLimit) : render n = .ok (text n) := by
  have hlength : (toString n.natAbs).length ≤ digits := by
    rw [Nat.toString_eq_ofList_toDigits, String.length_ofList]
    exact (Nat.length_toDigits_le_iff (by decide) hPos).mpr hDigits
  simp only [render, text]
  rw [if_neg (by omega)]

theorem text_ne_empty (n : Int) : text n ≠ "" := by
  intro h
  have hlist := congrArg String.toList h
  have hdigits : Nat.toDigits 10 n.natAbs ≠ [] := Nat.toDigits_ne_nil
  rw [text, Nat.toString_eq_ofList_toDigits] at hlist
  split at hlist <;> simp_all

end Decimal

namespace Codec

/-- The text of an integer is a timestamp with its sign and its digits. -/
theorem timestampDigits?_text (n : Int) :
    timestampDigits? (Decimal.text n) = some (decide (n < 0), Nat.toDigits 10 n.natAbs) := by
  rw [timestampDigits?_eq_some_iff]
  refine ⟨?_, Nat.toDigits_ne_nil, fun d => Nat.isDigit_of_mem_toDigits (by decide) (by decide)⟩
  rw [Decimal.text, Nat.toString_eq_ofList_toDigits]
  by_cases hneg : n < 0
  · simp [hneg]
  · simp [hneg]

/-- A sign and digits within the digit limit are read as the date of so many milliseconds, or
refused if there is none. -/
theorem dateOfText_of_digits (c : Codec) (cursor : Value) {s : String} {negative : Bool}
    {digits : List Char} (h : timestampDigits? s = some (negative, digits))
    (hLimit : digits.length ≤ ValueFault.digitLimit) :
    c.dateOfText cursor (.str s) =
      match Timestamp.toDateTime? (if negative then -(Double.natOfDigits digits : Int)
        else Double.natOfDigits digits) c.aware with
      | some t => .ok (.datetime t)
      | none => raise (refusal cursor .date "timestamp out of range") := by
  have hlimit : ¬ ValueFault.digitLimit < digits.length := by omega
  cases hdate : Timestamp.toDateTime? (if negative then -(Double.natOfDigits digits : Int)
      else Double.natOfDigits digits) c.aware <;>
    simp only [dateOfText, h, if_neg hlimit, hdate]

/-- The text of an integer within the digit limit is read as the date of so many
milliseconds, or refused if there is none. -/
theorem dateOfText_text (c : Codec) (cursor : Value) {n : Int} {digits : Nat}
    (hDigits : n.natAbs < 10 ^ digits) (hPos : 0 < digits)
    (hLimit : digits ≤ ValueFault.digitLimit) :
    c.dateOfText cursor (.str (Decimal.text n)) =
      match Timestamp.toDateTime? n c.aware with
      | some t => .ok (.datetime t)
      | none => raise (refusal cursor .date "timestamp out of range") := by
  have hlength : (Nat.toDigits 10 n.natAbs).length ≤ digits :=
    (Nat.length_toDigits_le_iff (by decide) hPos).mpr hDigits
  -- the sign that was split off is put back
  have hsign : (if decide (n < 0) = true then -(n.natAbs : Int) else n.natAbs) = n := by
    by_cases hneg : n < 0
    · rw [decide_eq_true hneg, if_pos rfl]
      omega
    · rw [decide_eq_false hneg, if_neg Bool.false_ne_true]
      omega
  rw [dateOfText_of_digits c cursor (timestampDigits?_text n) (by omega),
    Decimal.natOfDigits_toDigits, hsign]

/-! ## Signing -/

/-- A text as it is handed out: signed if there is a secret. -/
def write (c : Codec) (text : String) : String :=
  match c.signingSecret? with
  | some secret => Token.sign secret text
  | none => text

/-- Reading undoes writing for a text. Without a secret nothing is asked; with one,
the signature that was just made is good and its payload holds the text. -/
def Opens (c : Codec) (text : String) : Prop :=
  ∀ secret, c.signingSecret? = some secret →
    ∃ payload, Token.check? secret (Utf8.encode (Token.sign secret text)) = some payload ∧
      Token.read payload = .ok (.str text)

theorem opens_of_unsigned {c : Codec} (h : c.signingSecret? = none) (text : String) :
    c.Opens text := by
  intro secret hsecret
  rw [h] at hsecret
  cases hsecret

/-- A written text holds the text. -/
theorem content?_write {c : Codec} {text : String} (h : c.Opens text) :
    c.content? (c.write text) = some (.ok (.str text)) := by
  unfold content? write
  cases hsecret : c.signingSecret? with
  | none => rfl
  | some secret =>
    obtain ⟨payload, hcheck, hread⟩ := h secret hsecret
    simp only [hcheck, Option.map_some, hread]

/-- Texts that are handed out are not empty: a token has its dot. -/
theorem write_ne_empty (c : Codec) {text : String} (h : text ≠ "") : c.write text ≠ "" := by
  unfold write
  cases c.signingSecret? with
  | none => exact h
  | some secret =>
    intro hempty
    have hlist := congrArg String.toList hempty
    simp [Token.sign, Token.asciiText] at hlist

/-- Encoding writes the text of a value. -/
theorem encode_eq (c : Codec) (kind : CursorKind) (value : Value) :
    c.encode kind value = (position kind value).map c.write := by
  unfold encode write
  cases position kind value with
  | error f => rfl
  | ok text => cases c.signingSecret? <;> rfl

/-! ## Dates -/

/-- The cursor of a date and time. -/
def cursorOf (c : Codec) (t : DateTime) : String := c.write (Decimal.text (Timestamp.ofDateTime t))

theorem cursorOf_ne_empty (c : Codec) (t : DateTime) : c.cursorOf t ≠ "" :=
  c.write_ne_empty (Decimal.text_ne_empty _)

/-- The milliseconds of a date and time have at most 18 digits. -/
theorem natAbs_ofDateTime_lt (t : DateTime) : (Timestamp.ofDateTime t).natAbs < 10 ^ 18 := by
  have := t.natAbs_epochMicros_lt
  rw [Timestamp.ofDateTime]
  omega

/-- A date and time has its cursor. -/
theorem encode_datetime (c : Codec) (t : DateTime) :
    c.encode .date (.datetime t) = .ok (c.cursorOf t) := by
  have htext := Decimal.render_eq_text (natAbs_ofDateTime_lt t) (by decide) (by decide)
  rw [encode_eq, cursorOf]
  simp only [position, Timestamp.ofValue, htext]
  rfl

section Naive

variable {t : DateTime} (hNaive : t.offset = none)

include hNaive

/-- **Cursors of dates are read back.** A naive date and time without parts of a
millisecond is the value of its cursor, where dates are read as naive ones. -/
theorem decode_cursorOf {c : Codec} (hWhole : t.epochMicros % 1000 = 0) (hAware : c.aware = false)
    (hOpens : c.Opens (Decimal.text (Timestamp.ofDateTime t))) :
    (c.decode .date (.str (c.cursorOf t))).result = .ok (.datetime t) := by
  -- whole milliseconds lose nothing in the division by a thousand
  have hdate : Timestamp.toDateTime? (Timestamp.ofDateTime t) false = some t := by
    rw [Timestamp.toDateTime?, Timestamp.ofDateTime, Int.ediv_mul_cancel_of_emod_eq_zero hWhole,
      DateTime.ofEpochMicros?_epochMicros hNaive]
  rw [result_decode, cursorOf, content?_write hOpens]
  simp only
  rw [dateOfText_text c _ (natAbs_ofDateTime_lt t) (by decide) (by decide), hAware, hdate]

end Naive

end Codec

end Keyset
