import Keyset.Proofs.Cursor.RoundTrip
import Keyset.Proofs.Cursor.Token

/-!
# Keyset — signing changes no cursor

A codec with a secret reads what it wrote. Texts come back as they are, and a date comes back
as it does from the codec without the secret: the same value, or the refusal of a timestamp
without a date.

* `Codec.opens` — a signed text gives back the text.
* `Codec.SameEnd` — two results that are one value, or both refuse a cursor.
* `Codec.signing_transparent` — signing changes no cursor.
-/

namespace Keyset

namespace Codec

/-! ## Texts -/

/-- A signed text gives back the text. -/
theorem opens (c : Codec) (text : String) : c.Opens text :=
  fun secret _ => ⟨Token.payload text, Token.check?_sign secret text, Token.read_payload text⟩

/-- A text that passes through is read back from its cursor. -/
theorem decode_write (c : Codec) {kind : CursorKind} (hKind : kind ≠ .date) (text : String) :
    (c.decode kind (.str (c.write text))).result = .ok (.str text) := by
  rw [result_decode, content?_write (c.opens text)]
  cases kind with
  | date => exact absurd rfl hKind
  | string => rfl
  | other name => rfl

/-- A text passes through unless it is to be a date. -/
theorem encode_str {c : Codec} {kind : CursorKind} (hKind : kind ≠ .date) (text : String) :
    c.encode kind (.str text) = .ok (c.write text) := by
  rw [encode_eq]
  cases kind with
  | date => exact absurd rfl hKind
  | string => rfl
  | other name => rfl

/-! ## Dates -/

/-- The milliseconds of any temporal value have at most 18 digits. -/
theorem natAbs_ofValue_lt {v : Value} {millis : Int} (h : Timestamp.ofValue v = .ok millis) :
    millis.natAbs < 10 ^ 18 := by
  have hdate : ∃ t, millis = Timestamp.ofDateTime t := by
    unfold Timestamp.ofValue at h
    split at h
    · split at h
      · next t _ => exact ⟨t, (Except.ok.inj h).symm⟩
      · cases h
    · next t => exact ⟨t, (Except.ok.inj h).symm⟩
    · next d => exact ⟨.ofDate d, (Except.ok.inj h).symm⟩
    · cases h
  obtain ⟨t, rfl⟩ := hdate
  exact natAbs_ofDateTime_lt t

/-- A value that is encoded as a date is the text of some milliseconds before it is signed. -/
theorem position_date {v : Value} {text : String} (h : position .date v = .ok text) :
    ∃ millis : Int, Timestamp.ofValue v = .ok millis ∧ millis.natAbs < 10 ^ 18 ∧
      text = Decimal.text millis := by
  simp only [position] at h
  cases hmillis : Timestamp.ofValue v with
  | error fault =>
    rw [hmillis] at h
    exact absurd h (raise_ne_ok _ _)
  | ok millis =>
    have hbound := natAbs_ofValue_lt hmillis
    rw [hmillis] at h
    dsimp only at h
    rw [Decimal.render_eq_text hbound (by decide) (by decide)] at h
    exact ⟨millis, rfl, hbound, (Except.ok.inj h).symm⟩

/-- Two results are the same end: one value, or the refusal of a cursor in both. -/
def SameEnd (r r' : Except Failure Value) : Prop :=
  (∃ v, r = .ok v ∧ r' = .ok v) ∨
    ∃ e e' : EngineError, r = .error (.engine e) ∧ r' = .error (.engine e') ∧
      e.kind = .invalidCursor ∧ e'.kind = .invalidCursor

/-- The text of a timestamp is read as its date, if it has one. -/
theorem decode_write_timestamp (c : Codec) {millis : Int} (hDigits : millis.natAbs < 10 ^ 18) :
    (c.decode .date (.str (c.write (Decimal.text millis)))).result =
      match Timestamp.toDateTime? millis c.aware with
      | some t => .ok (.datetime t)
      | none => .error (.engine
          (refusal (.str (c.write (Decimal.text millis))) .date "timestamp out of range")) := by
  rw [result_decode, content?_write (c.opens _)]
  dsimp only
  cases hdate : Timestamp.toDateTime? millis c.aware <;>
    simp only [dateOfText_text c _ hDigits (by decide) (by decide), raise_refusal, hdate]

/-- The text of a timestamp is read to the same end by codecs that read dates alike, whatever
their secrets. -/
theorem sameEnd_decode_write (c c' : Codec) (hAware : c.aware = c'.aware) {millis : Int}
    (hDigits : millis.natAbs < 10 ^ 18) :
    SameEnd (c.decode .date (.str (c.write (Decimal.text millis)))).result
      (c'.decode .date (.str (c'.write (Decimal.text millis)))).result := by
  rw [c.decode_write_timestamp hDigits, c'.decode_write_timestamp hDigits, hAware]
  cases Timestamp.toDateTime? millis c'.aware with
  | some t => exact Or.inl ⟨_, rfl, rfl⟩
  | none => exact Or.inr ⟨_, _, rfl, rfl, rfl, rfl⟩

/-- **Signing changes no cursor.** With a secret, a text that passes through is read back from
its cursor; and a value that is encoded as a date is encoded without the secret as well, and
both cursors are read to the same end. -/
theorem signing_transparent (secret : String) (aware : Bool) :
    (∀ kind text, kind ≠ .date →
      ∃ cursor, (⟨some secret, aware⟩ : Codec).encode kind (.str text) = .ok cursor ∧
        ((⟨some secret, aware⟩ : Codec).decode kind (.str cursor)).result = .ok (.str text)) ∧
    (∀ v cursor, (⟨some secret, aware⟩ : Codec).encode .date v = .ok cursor →
      ∃ plain, (⟨none, aware⟩ : Codec).encode .date v = .ok plain ∧
        SameEnd ((⟨some secret, aware⟩ : Codec).decode .date (.str cursor)).result
          ((⟨none, aware⟩ : Codec).decode .date (.str plain)).result) := by
  constructor
  · intro kind text hKind
    exact ⟨_, encode_str hKind text, decode_write _ hKind text⟩
  · intro v cursor hcursor
    rw [encode_eq] at hcursor
    -- signed or not, a date is written by its position, so that both codecs write or refuse it
    cases hposition : position .date v with
    | error f =>
      rw [hposition] at hcursor
      cases hcursor
    | ok text =>
      rw [hposition] at hcursor
      obtain rfl := Except.ok.inj hcursor
      obtain ⟨millis, -, hdigits, rfl⟩ := position_date hposition
      refine ⟨Decimal.text millis, ?_, sameEnd_decode_write ⟨some secret, aware⟩ ⟨none, aware⟩ rfl
        hdigits⟩
      rw [encode_eq, hposition]
      rfl

theorem isCivil_epoch : Date.IsCivil 1970 1 1 := by decide

/-- The first day of 1970. -/
def epoch : Value := .date ⟨1970, 1, 1, isCivil_epoch⟩

/-- A quotation mark and the first day of 1970, signed and read back. -/
theorem signing_transparent_epoch :
    CursorKind.string ≠ .date ∧
    (∃ cursor, (⟨some "secret", true⟩ : Codec).encode .string (.str "\"") = .ok cursor ∧
      ((⟨some "secret", true⟩ : Codec).decode .string (.str cursor)).result = .ok (.str "\"")) ∧
    ∃ cursor, (⟨some "secret", true⟩ : Codec).encode .date epoch = .ok cursor ∧
      ∃ plain, (⟨none, true⟩ : Codec).encode .date epoch = .ok plain ∧
        SameEnd ((⟨some "secret", true⟩ : Codec).decode .date (.str cursor)).result
          ((⟨none, true⟩ : Codec).decode .date (.str plain)).result := by
  obtain ⟨htexts, hdates⟩ := signing_transparent "secret" true
  have hposition : position .date epoch = .ok "0" := by cbv
  have hcursor : (⟨some "secret", true⟩ : Codec).encode .date epoch =
      .ok ((⟨some "secret", true⟩ : Codec).write "0") := by
    rw [encode_eq, hposition]
    rfl
  exact ⟨by decide, htexts .string "\"" (by decide), _, hcursor, hdates epoch _ hcursor⟩

end Codec

end Keyset
