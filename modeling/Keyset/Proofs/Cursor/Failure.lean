import Keyset.Cursor.Codec
import Keyset.Proofs.Outcome

/-!
# Keyset — how reading a cursor ends

A cursor is untrusted text. Reading it ends in a value or in the refusal of the
cursor, with two exceptions, and `decode_contained_iff` says that there are no others:

* the signature is good, but its payload is no cursor text;
* `OverlongTimestamp` — a date is asked for, and the text is an optional minus with
  more digits than an integer may have. The digit limit is checked before the range
  of dates, so such a text is not refused as out of range.

Without a secret there is no payload, and only long texts of digits escape.

All of this is about cursors that are strings of Unicode scalar values. A string with a
lone surrogate has no UTF-8 form, so that with a secret reading it fails before its
signature is looked at. This third way to escape is outside of what is said here.

* `Codec.content?` — what a cursor holds once its signature is checked.
* `timestampDigits?_eq_some_iff` — which texts are timestamps.
* `dateOfText_contained_iff` — which texts are a date or are refused.
-/

namespace Keyset.Codec

/-! ## What a cursor holds -/

/-- What a cursor holds before it is read as a value: itself, or with a secret the
payload of its signature. A bad signature holds nothing. -/
def content? (c : Codec) (cursor : String) : Option (Except PayloadFault Value) :=
  match c.signingSecret? with
  | none => some (.ok (.str cursor))
  | some secret => (Token.check? secret (Utf8.encode cursor)).map Token.read

/-- Without a secret a cursor holds itself. -/
theorem content?_of_unsigned {c : Codec} (h : c.signingSecret? = none) (cursor : String) :
    c.content? cursor = some (.ok (.str cursor)) := by
  rw [content?, h]

/-- The refusal of a cursor always has a report. -/
theorem raise_refusal {α : Type} (cursor : String) (kind : CursorKind) (reason : String) :
    (raise (refusal (.str cursor) kind reason) : Except Failure α) =
      .error (.engine (refusal (.str cursor) kind reason)) :=
  raise_of_report rfl

/-- Checking the signature gives the content, or refuses the cursor. -/
theorem result_unsign (c : Codec) (kind : CursorKind) (cursor : String) :
    (c.unsign (.str cursor) kind).result =
      match c.content? cursor with
      | none => .error (.engine (refusal (.str cursor) kind "bad signature"))
      | some content => content.mapError .payload := by
  unfold unsign content?
  cases c.signingSecret? with
  | none => rfl
  | some secret =>
    simp only [openToken]
    cases Token.check? secret (Utf8.encode cursor) with
    | none =>
      simp only [refuseSignature, Outcome.result_bind, Outcome.result_emit,
        Outcome.result_ofExcept, except_ok_bind, raise_refusal, Option.map_none]
    | some payload => rfl

/-! ## Timestamps -/

/-- Whether a list is one or more ASCII digits, as a proposition. -/
theorem isEmpty_or_not_all_isDigit {digits : List Char} :
    (digits.isEmpty || !digits.all Char.isDigit) = false ↔
      digits ≠ [] ∧ ∀ d ∈ digits, d.isDigit = true := by
  rw [Bool.or_eq_false_iff, Bool.not_eq_false', List.all_eq_true, List.isEmpty_eq_false_iff]

theorem timestampDigits?_of_minus {s : String} {digits : List Char}
    (h : s.toList = '-' :: digits) :
    timestampDigits? s =
      if digits.isEmpty || !digits.all Char.isDigit then none else some (true, digits) := by
  rw [timestampDigits?, h]
  rfl

theorem timestampDigits?_of_no_minus {s : String} (h : ∀ digits, s.toList ≠ '-' :: digits) :
    timestampDigits? s =
      if s.toList.isEmpty || !s.toList.all Char.isDigit then none
      else some (false, s.toList) := by
  unfold timestampDigits?
  split
  next negative digits hsplit =>
    split at hsplit
    · next rest hrest => exact absurd hrest (h rest)
    · cases hsplit
      rfl

/-- A timestamp is an optional minus and one or more ASCII digits. -/
theorem timestampDigits?_eq_some_iff {s : String} {negative : Bool} {digits : List Char} :
    timestampDigits? s = some (negative, digits) ↔
      s.toList = (if negative then '-' :: digits else digits) ∧ digits ≠ [] ∧
        ∀ d ∈ digits, d.isDigit = true := by
  by_cases hminus : ∃ rest, s.toList = '-' :: rest
  · obtain ⟨rest, hrest⟩ := hminus
    rw [timestampDigits?_of_minus hrest, hrest]
    cases negative with
    | true =>
      rw [if_pos rfl, List.cons.injEq, ← isEmpty_or_not_all_isDigit]
      split <;> grind
    | false =>
      -- a text of digits alone does not start with a minus
      have hdigit : ¬ ('-' :: rest = digits ∧ digits ≠ [] ∧ ∀ d ∈ digits, d.isDigit = true) := by
        rintro ⟨rfl, -, hall⟩
        exact absurd (hall '-' (List.mem_cons_self ..)) (by decide)
      split <;> simp_all
  · have hno : ∀ rest, s.toList ≠ '-' :: rest := fun rest h => hminus ⟨rest, h⟩
    rw [timestampDigits?_of_no_minus hno]
    cases negative with
    | true => split <;> simp [hno]
    | false =>
      rw [if_neg Bool.false_ne_true, ← isEmpty_or_not_all_isDigit]
      split <;> grind

/-- A text of an optional minus and more ASCII digits than an integer may have. -/
def OverlongTimestamp (text : String) : Prop :=
  ∃ digits : List Char, (text.toList = digits ∨ text.toList = '-' :: digits) ∧
    (∀ d ∈ digits, d.isDigit = true) ∧ ValueFault.digitLimit < digits.length

theorem overlongTimestamp_iff {s : String} :
    OverlongTimestamp s ↔ ∃ negative digits,
      timestampDigits? s = some (negative, digits) ∧ ValueFault.digitLimit < digits.length := by
  constructor
  · rintro ⟨digits, hs, hall, hlong⟩
    have hne : digits ≠ [] := List.ne_nil_of_length_pos (by omega)
    rcases hs with hs | hs
    · exact ⟨false, digits, timestampDigits?_eq_some_iff.mpr ⟨hs, hne, hall⟩, hlong⟩
    · exact ⟨true, digits, timestampDigits?_eq_some_iff.mpr ⟨hs, hne, hall⟩, hlong⟩
  · rintro ⟨negative, digits, hs, hlong⟩
    obtain ⟨hs, -, hall⟩ := timestampDigits?_eq_some_iff.mp hs
    refine ⟨digits, ?_, hall, hlong⟩
    cases negative with
    | true => exact Or.inr hs
    | false => exact Or.inl hs

/-! ## Dates -/

/-- A result that is a value or the refusal of a cursor. -/
def Contained (r : Except Failure Value) : Prop :=
  (∃ v, r = .ok v) ∨ ∃ e : EngineError, r = .error (.engine e) ∧ e.kind = .invalidCursor

theorem contained_ok (v : Value) : Contained (.ok v) := Or.inl ⟨v, rfl⟩

/-- A refused cursor is contained. -/
theorem contained_refusal (cursor : String) (kind : CursorKind) (reason : String) :
    Contained (.error (.engine (refusal (.str cursor) kind reason))) :=
  Or.inr ⟨_, rfl, rfl⟩

theorem not_contained_payload (fault : PayloadFault) : ¬ Contained (.error (.payload fault)) := by
  simp [Contained]

theorem not_contained_value (fault : ValueFault) : ¬ Contained (.error (.value fault)) := by
  simp [Contained]

/-- A text with too many digits is reported as such, before dates come into play. -/
theorem dateOfText_of_overlong (c : Codec) (cursor : String) {s : String}
    (h : OverlongTimestamp s) :
    ∃ digits, c.dateOfText (.str cursor) (.str s) = .error (.value (.readLimit digits)) := by
  obtain ⟨negative, digits, hs, hlong⟩ := overlongTimestamp_iff.mp h
  refine ⟨digits.length, ?_⟩
  simp only [dateOfText, hs, if_pos hlong]

/-- Reading a date is contained unless its text has too many digits. -/
theorem dateOfText_contained_iff (c : Codec) (cursor : String) (text : Value) :
    Contained (c.dateOfText (.str cursor) text) ↔
      ¬ ∃ s, text = .str s ∧ OverlongTimestamp s := by
  constructor
  · -- too many digits are reported as an error of the value, which is no refusal
    rintro hcontained ⟨s, rfl, hlong⟩
    obtain ⟨digits, hresult⟩ := dateOfText_of_overlong c cursor hlong
    rw [hresult] at hcontained
    exact not_contained_value _ hcontained
  · intro hshort
    unfold dateOfText
    split
    · next s =>
      split
      · -- no timestamp at all
        dsimp only
        rw [raise_refusal]
        exact contained_refusal ..
      · next negative digits hs =>
        -- few enough digits are converted, and the number has a date or is refused
        have hlimit : ¬ ValueFault.digitLimit < digits.length := fun hlong =>
          hshort ⟨s, rfl, overlongTimestamp_iff.mpr ⟨negative, digits, hs, hlong⟩⟩
        rw [if_neg hlimit]
        dsimp only
        split
        · exact contained_ok _
        · -- a timestamp outside the calendar
          rw [raise_refusal]
          exact contained_refusal ..
    · dsimp only
      rw [raise_refusal]
      exact contained_refusal ..

/-! ## Cursors -/

/-- The result of reading a cursor, by what it holds. -/
theorem result_decode (c : Codec) (kind : CursorKind) (cursor : String) :
    (c.decode kind (.str cursor)).result =
      match c.content? cursor with
      | none => .error (.engine (refusal (.str cursor) kind "bad signature"))
      | some (.error fault) => .error (.payload fault)
      | some (.ok text) =>
          match kind with
          | .date => c.dateOfText (.str cursor) text
          | _ => .ok text := by
  rw [decode, Outcome.result_bind, result_unsign]
  cases c.content? cursor with
  | none => rfl
  | some content =>
    cases content with
    | error fault => rfl
    | ok text => cases kind <;> rfl

/-- **What escapes from reading a cursor.** A cursor, which is a string of Unicode scalar
values, reads as a value or is refused, unless the payload under a good signature is
unreadable, or a date is asked for and the text has more digits than an integer may
have; and then the failure is the one of the payload, or that of the digit limit. -/
theorem decode_contained_iff (c : Codec) (kind : CursorKind) (cursor : String) :
    (Contained (c.decode kind (.str cursor)).result ↔
      ¬ ((∃ fault, c.content? cursor = some (.error fault)) ∨
        (kind = .date ∧
          ∃ text, c.content? cursor = some (.ok (.str text)) ∧ OverlongTimestamp text))) ∧
    (∀ fault, c.content? cursor = some (.error fault) →
      (c.decode kind (.str cursor)).result = .error (.payload fault)) ∧
    (∀ text, kind = .date → c.content? cursor = some (.ok (.str text)) →
      OverlongTimestamp text →
      ∃ digits, (c.decode kind (.str cursor)).result = .error (.value (.readLimit digits))) := by
  rw [result_decode]
  cases hcontent : c.content? cursor with
  | none =>
    have := contained_refusal cursor kind "bad signature"
    simpa using this
  | some content =>
    cases content with
    | error fault =>
      -- the first way to escape: a good signature over a payload that cannot be read
      refine ⟨?_, ?_, by simp⟩
      · have := not_contained_payload fault
        simpa using this
      · rintro fault' ⟨⟩
        rfl
    | ok text =>
      cases kind with
      | date =>
        -- the second one needs a date; texts of the other kinds are values as they stand
        refine ⟨?_, by simp, ?_⟩
        · simpa using dateOfText_contained_iff c cursor text
        · rintro s - ⟨⟩ hlong
          exact dateOfText_of_overlong c cursor hlong
      | string => simpa using contained_ok text
      | other name => simpa using contained_ok text

/-- A date whose text is `4301` ones is not refused: neither a value nor the refusal of
the cursor comes back. -/
theorem decode_not_always_contained :
    ¬ ∀ (c : Codec) (kind : CursorKind) (cursor : String),
      Contained (c.decode kind (.str cursor)).result := by
  intro h
  -- one digit more than an integer may have
  have hlong : OverlongTimestamp (String.ofList (List.replicate 4301 '1')) := by
    refine ⟨List.replicate 4301 '1', Or.inl String.toList_ofList, ?_, ?_⟩
    · intro d hd
      rw [List.eq_of_mem_replicate hd]
      decide
    · rw [List.length_replicate]
      decide
  obtain ⟨digits, hresult⟩ :=
    dateOfText_of_overlong .plain (String.ofList (List.replicate 4301 '1')) hlong
  have hdate := h .plain .date (String.ofList (List.replicate 4301 '1'))
  rw [result_decode, content?_of_unsigned rfl] at hdate
  dsimp only at hdate
  rw [hresult] at hdate
  exact not_contained_value _ hdate

end Keyset.Codec
