import Keyset.Proofs.Cursor.Failure
import Keyset.Proofs.Cursor.Token

/-!
# Keyset — only signed cursors are read

A cursor is anything a client sends, and a codec with a secret reads it only if it is signed. A
signature may be written in many ways, since its digits are taken out of whatever stands around
them; all of them sign the same payload, and the payload alone decides what is read.

* `Token.SignedOver` — a cursor is a payload and, after its last dot, a signature of it.
* `Token.check?_of_signedOver`, `Token.signedOver_of_check?` — these cursors pass the check.
* `Codec.SameOutcome` — two cursors read alike, up to the cursor in a refusal.
* `Codec.decode_integrity` — what a codec with a secret reads.
-/

namespace Keyset

/-! ## Dots -/

/-- The bytes of a character with more than one byte are not ASCII. -/
theorem Utf8.le_of_mem_encodeChar {c : Char} (h : 128 ≤ c.val.toNat) :
    ∀ b ∈ String.utf8EncodeChar c, 128 ≤ b.toNat := by
  have hvalid : c.val.toNat < 0x110000 := by
    rcases c.valid with h | h <;> omega
  unfold String.utf8EncodeChar
  dsimp only
  split_ifs with hOne hTwo hThree
  · omega
  all_goals
    simp only [List.forall_mem_cons, UInt8.toNat_ofNat', List.not_mem_nil, IsEmpty.forall_iff,
      implies_true, and_true]
    omega

theorem Utf8.dot_mem_encodeChar_iff {c : Char} :
    Token.dot ∈ String.utf8EncodeChar c ↔ c = '.' := by
  constructor
  · intro hmem
    by_cases hsmall : c.val.toNat < 128
    · -- an ASCII character is its own byte
      have hbytes : String.utf8EncodeChar c = [UInt8.ofNat c.val.toNat] := by
        unfold String.utf8EncodeChar
        exact if_pos (by omega)
      rw [hbytes, List.mem_singleton] at hmem
      have hvalue := congrArg UInt8.toNat hmem
      rw [UInt8.toNat_ofNat', Nat.mod_eq_of_lt (by omega)] at hvalue
      exact Char.ext (UInt32.toNat_inj.mp hvalue.symm)
    · have hlarge := le_of_mem_encodeChar (by omega) _ hmem
      exact absurd hlarge (by decide)
  · rintro rfl
    decide

theorem Utf8.dot_mem_encode_iff {s : String} : Token.dot ∈ encode s ↔ '.' ∈ s.toList := by
  rw [encode, List.mem_flatMap]
  constructor
  · rintro ⟨c, hc, hdot⟩
    rwa [← dot_mem_encodeChar_iff.mp hdot]
  · intro h
    exact ⟨'.', h, dot_mem_encodeChar_iff.mpr rfl⟩

namespace Token

/-! ## Signed cursors -/

/-- A cursor is a front, a dot, and a text without dots that is read as the signature of the
front. -/
def SignedOver (secret front cursor : String) : Prop :=
  ∃ back : String, cursor = front ++ "." ++ back ∧ '.' ∉ back.toList ∧
    Base64.decode? (Utf8.encode back) = some (signature secret (Utf8.encode front))

/-- A text with a dot is split at the last one. -/
theorem exists_last_dot {cursor : String} (h : '.' ∈ cursor.toList) :
    ∃ front back : String, cursor = front ++ "." ++ back ∧ '.' ∉ back.toList := by
  -- the last dot is the first one from behind
  obtain ⟨back, front, hcursor, hback⟩ := List.eq_append_cons_of_mem (List.mem_reverse.mpr h)
  refine ⟨String.ofList front.reverse, String.ofList back.reverse, ?_, ?_⟩
  · apply String.toList_injective
    have := congrArg List.reverse hcursor
    simpa using this
  · simpa using hback

theorem splitLast_encode {front back : String} (h : '.' ∉ back.toList) :
    splitLast (Utf8.encode (front ++ "." ++ back)) =
      some (Utf8.encode front, Utf8.encode back) := by
  have hdot : Utf8.encode "." = [dot] := rfl
  rw [Utf8.encode_append, Utf8.encode_append, hdot, List.append_assoc, List.singleton_append]
  exact splitLast_append (mt Utf8.dot_mem_encode_iff.mp h) _

/-- A signed cursor passes the check with its front. -/
theorem check?_of_signedOver {secret front cursor : String} (h : SignedOver secret front cursor) :
    check? secret (Utf8.encode cursor) = some (Utf8.encode front) := by
  obtain ⟨back, rfl, hback, hsignature⟩ := h
  rw [check?, splitLast_encode hback, Option.bind_eq_bind, Option.bind_some]
  dsimp only
  rw [hsignature, Option.bind_eq_bind, Option.bind_some, if_pos rfl]

/-- Only signed cursors pass. -/
theorem signedOver_of_check? {secret cursor : String} {payload : List UInt8}
    (h : check? secret (Utf8.encode cursor) = some payload) :
    ∃ front, SignedOver secret front cursor := by
  by_cases hdot : '.' ∈ cursor.toList
  · -- the check splits the cursor at its last dot, and so does the front
    obtain ⟨front, back, rfl, hback⟩ := exists_last_dot hdot
    rw [check?, splitLast_encode hback, Option.bind_eq_bind, Option.bind_some] at h
    obtain ⟨given, hgiven, h⟩ := Option.bind_eq_some_iff.mp h
    split at h
    · next hsignature => exact ⟨front, back, rfl, hback, hgiven.trans (congrArg some hsignature)⟩
    · cases h
  · have hnone := splitLast_eq_none (mt Utf8.dot_mem_encode_iff.mp hdot)
    rw [check?, hnone] at h
    cases h

end Token

namespace Codec

/-! ## Reading -/

/-- Two cursors are read to the same value or to the same failure, or are refused for the same
reason. -/
def SameOutcome (c : Codec) (kind : CursorKind) (cursor cursor' : String) : Prop :=
  (c.decode kind (.str cursor)).result = (c.decode kind (.str cursor')).result ∨
    ∃ reason,
      (c.decode kind (.str cursor)).result = .error (.engine (refusal (.str cursor) kind reason)) ∧
      (c.decode kind (.str cursor')).result = .error (.engine (refusal (.str cursor') kind reason))

/-- A date depends on the text, and the cursor only stands in the refusal. -/
theorem dateOfText_cases (c : Codec) (cursor cursor' : String) (text : Value) :
    c.dateOfText (.str cursor) text = c.dateOfText (.str cursor') text ∨
      ∃ reason,
        c.dateOfText (.str cursor) text = .error (.engine (refusal (.str cursor) .date reason)) ∧
        c.dateOfText (.str cursor') text =
          .error (.engine (refusal (.str cursor') .date reason)) := by
  cases text with
  | str s =>
    simp only [dateOfText]
    -- the cursor is only named in refusals: everything else depends on the text alone
    cases timestampDigits? s with
    | none => exact Or.inr ⟨_, raise_refusal .., raise_refusal ..⟩
    | some timestamp =>
      by_cases hlong : ValueFault.digitLimit < timestamp.2.length
      · left
        simp only [if_pos hlong]
      · simp only [if_neg hlong]
        cases Timestamp.toDateTime? _ c.aware with
        | none => exact Or.inr ⟨_, raise_refusal .., raise_refusal ..⟩
        | some t => exact Or.inl rfl
  | _ => exact Or.inr ⟨_, raise_refusal .., raise_refusal ..⟩

theorem sameOutcome_of_content {c : Codec} {cursor cursor' : String}
    {content : Except PayloadFault Value} (h : c.content? cursor = some content)
    (h' : c.content? cursor' = some content) (kind : CursorKind) :
    c.SameOutcome kind cursor cursor' := by
  rw [SameOutcome, result_decode, result_decode, h, h']
  cases content with
  | error fault => exact Or.inl rfl
  | ok text =>
    cases kind with
    | date => exact c.dateOfText_cases cursor cursor' text
    | string => exact Or.inl rfl
    | other name => exact Or.inl rfl

/-- **Only signed cursors are read.** With a secret, a cursor that gives a value is signed, and
every cursor that is not, such as one without a dot, is refused for its signature. Two cursors
that are signed over the same front are read alike, however their signatures are written. -/
theorem decode_integrity {c : Codec} {secret : String} (hSecret : c.secret = some secret)
    (hNonempty : secret ≠ "") (kind : CursorKind) :
    (∀ cursor v, (c.decode kind (.str cursor)).result = .ok v →
      ∃ front, Token.SignedOver secret front cursor) ∧
    (∀ cursor, (¬ ∃ front, Token.SignedOver secret front cursor) →
      (c.decode kind (.str cursor)).result =
        .error (.engine (refusal (.str cursor) kind "bad signature"))) ∧
    (∀ cursor : String, '.' ∉ cursor.toList →
      (c.decode kind (.str cursor)).result =
        .error (.engine (refusal (.str cursor) kind "bad signature"))) ∧
    (∀ front cursor cursor', Token.SignedOver secret front cursor →
      Token.SignedOver secret front cursor' → c.SameOutcome kind cursor cursor') := by
  have hsigning : c.signingSecret? = some secret := by
    simp [signingSecret?, hSecret, hNonempty]
  have hcontent (cursor : String) :
      c.content? cursor = (Token.check? secret (Utf8.encode cursor)).map Token.read := by
    rw [content?, hsigning]
  -- without a valid signature nothing is opened, whatever the cursor says
  have hrefused : ∀ cursor, (¬ ∃ front, Token.SignedOver secret front cursor) →
      (c.decode kind (.str cursor)).result =
        .error (.engine (refusal (.str cursor) kind "bad signature")) := by
    intro cursor hunsigned
    have hcheck : Token.check? secret (Utf8.encode cursor) = none := by
      rw [Option.eq_none_iff_forall_not_mem]
      intro payload hpayload
      exact hunsigned (Token.signedOver_of_check? hpayload)
    rw [result_decode, hcontent, hcheck, Option.map_none]
  refine ⟨?_, hrefused, ?_, ?_⟩
  · intro cursor v hvalue
    by_contra hunsigned
    rw [hrefused cursor hunsigned] at hvalue
    cases hvalue
  · intro cursor hdot
    refine hrefused cursor ?_
    rintro ⟨front, back, rfl, -⟩
    simp at hdot
  · intro front cursor cursor' hsigned hsigned'
    -- a signature over the same front opens the same content, however it is spelled
    have hopens {cursor : String} (h : Token.SignedOver secret front cursor) :
        c.content? cursor = some (Token.read (Utf8.encode front)) := by
      rw [hcontent, Token.check?_of_signedOver h, Option.map_some]
    exact sameOutcome_of_content (hopens hsigned) (hopens hsigned') kind

/-- The cursor of `"5"`, and the same signature after characters that are no digits of it, are
read alike; the text itself has no dot and is refused. -/
theorem decode_integrity_five :
    let c : Codec := ⟨some "secret", false⟩
    Token.SignedOver "secret" "IjUi" "IjUi.8ftNLGB6wsnAR7s3gdMHvFOcqfw" ∧
    c.SameOutcome .string "IjUi.8ftNLGB6wsnAR7s3gdMHvFOcqfw"
      "IjUi.!!!!8ftNLGB6wsnAR7s3gdMHvFOcqfw" ∧
    (c.decode .string (.str "5")).result =
      .error (.engine (refusal (.str "5") .string "bad signature")) := by
  intro c
  have hsecret : c.secret = some "secret" := rfl
  obtain ⟨-, -, hdotless, hsame⟩ := decode_integrity hsecret (by decide) .string
  have hsignature : Token.signature "secret" (Utf8.encode "IjUi") =
      [0xf1, 0xfb, 0x4d, 0x2c, 0x60, 0x7a, 0xc2, 0xc9, 0xc0, 0x47, 0xbb, 0x37, 0x81, 0xd3, 0x07,
        0xbc, 0x53, 0x9c, 0xa9, 0xfc] := by
    decide +kernel
  have hsigned : Token.SignedOver "secret" "IjUi" "IjUi.8ftNLGB6wsnAR7s3gdMHvFOcqfw" :=
    ⟨"8ftNLGB6wsnAR7s3gdMHvFOcqfw", rfl, by decide, by rw [hsignature]; decide +kernel⟩
  have hsigned' : Token.SignedOver "secret" "IjUi" "IjUi.!!!!8ftNLGB6wsnAR7s3gdMHvFOcqfw" :=
    ⟨"!!!!8ftNLGB6wsnAR7s3gdMHvFOcqfw", rfl, by decide, by rw [hsignature]; decide +kernel⟩
  exact ⟨hsigned, hsame _ _ _ hsigned hsigned', hdotless _ (by decide)⟩

end Codec

end Keyset
