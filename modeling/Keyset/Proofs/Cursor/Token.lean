import Keyset.Cursor.Token
import Keyset.Proofs.Bytes.Base64
import Keyset.Proofs.Bytes.Deflate
import Keyset.Proofs.Json
import Keyset.Proofs.Outcome
import Keyset.Proofs.Text.Utf8

/-!
# Keyset — tokens open what was signed

A token is taken apart at its last dot. No digit of Base64 is a dot, so the signature is what
stands behind it, whatever the payload holds; the signature that was just made is good, and
the payload, compressed or not, gives back the text through Base64, UTF-8 and JSON.

* `Token.check?_sign` — the signature of a token is good.
* `Token.read_payload` — the payload of a text holds it.
-/

namespace Keyset.Token

/-! ## Signatures -/

/-- What has no dot has no last one. -/
theorem splitLast_eq_none {bs : List UInt8} (h : dot ∉ bs) : splitLast bs = none := by
  induction bs with
  | nil => rfl
  | cons b rest ih =>
    rw [List.mem_cons, not_or] at h
    rw [splitLast, ih h.2, if_neg (Ne.symm h.1)]

/-- Bytes are split at the last dot. -/
theorem splitLast_append {back : List UInt8} (h : dot ∉ back) (front : List UInt8) :
    splitLast (front ++ dot :: back) = some (front, back) := by
  induction front with
  | nil => rw [List.nil_append, splitLast, splitLast_eq_none h, if_pos rfl]
  | cons b rest ih => rw [List.cons_append, splitLast, ih]

/-- A digit of Base64 is no dot. -/
theorem dot_notMem_encode (bs : List UInt8) : dot ∉ Base64.encode bs := fun h =>
  Base64.forall_mem_encode (p := (· ≠ dot)) (by decide) dot h rfl

/-- ASCII bytes are the bytes of their text. -/
theorem encode_asciiText {bs : List UInt8} (h : ∀ b ∈ bs, b < 128) :
    Utf8.encode (asciiText bs) = bs := by
  -- below 128, a byte is the whole spelling of its character
  have hbyte (b : UInt8) (hb : b < 128) : String.utf8EncodeChar (Char.ofNat b.toNat) = [b] := by
    have hlt : b.toNat < 128 := hb
    have hvalue : (Char.ofNat b.toNat).val.toNat = b.toNat := by
      rw [show (Char.ofNat b.toNat).val.toNat = (Char.ofNat b.toNat).toNat from rfl,
        Char.toNat_ofNat, if_pos (Or.inl (by omega))]
    unfold String.utf8EncodeChar
    rw [hvalue, if_pos (by omega), UInt8.ofNat_toNat]
  rw [Utf8.encode, asciiText, String.toList_ofList, List.flatMap_map]
  induction bs with
  | nil => rfl
  | cons b rest ih =>
    rw [List.flatMap_cons, hbyte b (h b (List.mem_cons_self ..)),
      ih fun x hx => h x (List.mem_cons_of_mem _ hx), List.singleton_append]

/-- The bytes of Base64 are ASCII. -/
theorem lt_of_mem_encode (bs : List UInt8) : ∀ b ∈ Base64.encode bs, b < 128 :=
  Base64.forall_mem_encode (by decide)

/-- The bytes of a payload are ASCII. -/
theorem lt_of_mem_payload (text : String) : ∀ b ∈ payload text, b < 128 := by
  intro b hb
  simp only [payload] at hb
  split at hb
  · rcases List.mem_cons.mp hb with rfl | hb
    · decide
    · exact lt_of_mem_encode _ b hb
  · exact lt_of_mem_encode _ b hb

/-- The bytes of a token: payload, dot and signature. -/
theorem encode_sign (secret text : String) : Utf8.encode (sign secret text) =
    payload text ++ dot :: Base64.encode (signature secret (payload text)) := by
  refine encode_asciiText fun b hb => ?_
  rcases List.mem_append.mp hb with hb | hb
  · exact lt_of_mem_payload text b hb
  rcases List.mem_cons.mp hb with rfl | hb
  · decide
  · exact lt_of_mem_encode _ b hb

/-- **The signature of a token is good**: checking it gives the payload. -/
theorem check?_sign (secret text : String) :
    check? secret (Utf8.encode (sign secret text)) = some (payload text) := by
  rw [encode_sign, check?, splitLast_append (dot_notMem_encode _), Option.bind_eq_bind,
    Option.bind_some]
  dsimp only
  rw [Base64.decode?_encode, Option.bind_eq_bind, Option.bind_some, if_pos rfl]

/-! ## Payloads -/

/-- What is not empty and starts with no dot is opened as Base64. -/
theorem unpack_encode (bs : List UInt8) (h : bs ≠ []) : unpack (Base64.encode bs) = .ok bs := by
  cases hencoded : Base64.encode bs with
  | nil =>
    have hdecoded := Base64.decode?_encode bs
    rw [hencoded, show Base64.decode? [] = some [] from rfl] at hdecoded
    exact absurd (Option.some.inj hdecoded).symm h
  | cons b rest =>
    have hdot : b ≠ dot := by
      rintro rfl
      exact dot_notMem_encode bs (hencoded ▸ List.mem_cons_self ..)
    rw [unpack, if_neg hdot, ← hencoded, Base64.decode?_encode]

theorem encode_quote_ne_nil (text : String) : Utf8.encode (Json.quote text) ≠ [] := by
  intro h
  have hread := Utf8.decode?_encode (Json.quote text)
  rw [h, show Utf8.decode? [] = some "" from by rw [Utf8.decode?, Utf8.decode]; rfl] at hread
  have hlist := congrArg String.toList (Option.some.inj hread)
  simp [Json.quote] at hlist

/-- A payload is unpacked as the JSON string of its text, whether it was compressed or not. -/
theorem unpack_payload (text : String) :
    unpack (payload text) = .ok (Utf8.encode (Json.quote text)) := by
  rw [payload]
  split
  · rw [unpack, if_pos rfl, Base64.decode?_encode]
    dsimp only
    rw [Deflate.decompress?_compress]
  · exact unpack_encode _ (encode_quote_ne_nil text)

/-- **The payload of a text holds the text.** -/
theorem read_payload (text : String) : read (payload text) = .ok (.str text) := by
  rw [read, unpack_payload, except_ok_bind, Utf8.decode?_encode, Option.bind_some, Json.read?_quote]

end Keyset.Token
