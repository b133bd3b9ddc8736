import Keyset.Text.Utf8
import Mathlib

/-!
# Keyset — texts are read back from their bytes

Every character is read back from its one to four bytes, whatever follows them, and so is
every text. The least and greatest second bytes that a lead byte admits leave room for
exactly the characters that need the length of the lead.

* `Utf8.flatMap_of_ascii` — the bytes of an ASCII text.
* `Utf8.next_encodeChar` — one character is read back.
* `Utf8.decode?_encode` — a text is read back.
-/

namespace Keyset.Utf8

/-! ## Bytes of a text -/

theorem encode_append (s t : String) : encode (s ++ t) = encode s ++ encode t := by
  rw [encode, String.toList_append, List.flatMap_append]
  rfl

/-- ASCII characters are one byte each. -/
theorem utf8EncodeChar_of_ascii {c : Char} (h : c.toNat < 128) :
    String.utf8EncodeChar c = [UInt8.ofNat c.toNat] := by
  have hv : c.val.toNat ≤ 127 := by
    change c.toNat ≤ 127
    omega
  rw [String.utf8EncodeChar, if_pos hv]
  rfl

/-- ASCII texts have a byte for each of their characters. -/
theorem flatMap_of_ascii {cs : List Char} (h : ∀ c ∈ cs, c.toNat < 128) :
    cs.flatMap String.utf8EncodeChar = cs.map fun c => UInt8.ofNat c.toNat := by
  rw [List.map_eq_flatMap]
  exact List.flatMap_congr fun c hc => utf8EncodeChar_of_ascii (h c hc)

theorem toNat_ofNat_of_ascii {c : Char} (h : c.toNat < 128) :
    (UInt8.ofNat c.toNat).toNat = c.toNat := by
  rw [UInt8.toNat_ofNat']
  omega

/-! ## Reading a character -/

/-- A byte within the bounds continues a character. -/
theorem continuation_cons {low high count acc n : Nat} {rest : List UInt8} (hLow : low ≤ n)
    (hHigh : n ≤ high) (hByte : n < 256) :
    continuation low high (count + 1) acc (UInt8.ofNat n :: rest) =
      continuation 0x80 0xbf count (acc * 64 + n % 64) rest := by
  have hn : (UInt8.ofNat n).toNat = n := by
    rw [UInt8.toNat_ofNat']
    omega
  rw [continuation, hn, if_pos ⟨hLow, hHigh⟩]

/-- A lead byte decides how many bytes follow and what the first of them may be. -/
theorem next_lead {n low high count : Nat} {rest : List UInt8} (hByte : n < 256)
    (hLead : leadRange? n = some (low, high, count)) :
    next (UInt8.ofNat n) rest = continuation low high count
      (n % (if count = 1 then 32 else if count = 2 then 16 else 8)) rest := by
  have hn : (UInt8.ofNat n).toNat = n := by
    rw [UInt8.toNat_ofNat']
    omega
  have hlarge : ¬ n < 0x80 := by
    intro hsmall
    simp only [leadRange?] at hLead
    split_ifs at hLead <;> omega
  simp only [next, hn, if_neg hlarge, hLead]

section Leads

variable {v : Nat}

/-- The lead of two bytes. -/
theorem leadRange?_two (hLow : 0x80 ≤ v) (hHigh : v ≤ 0x7ff) :
    leadRange? (v / 64 % 32 + 192) = some (0x80, 0xbf, 1) := by
  rw [leadRange?, if_pos (by omega)]

/-- The lead of three bytes admits the second one of every character of that length. -/
theorem leadRange?_three (hLow : 0x800 ≤ v) (hHigh : v ≤ 0xffff)
    (hValid : v < 0xd800 ∨ 0xdfff < v) :
    ∃ low high, leadRange? (v / 4096 % 16 + 224) = some (low, high, 2) ∧
      low ≤ v / 64 % 64 + 128 ∧ v / 64 % 64 + 128 ≤ high := by
  unfold leadRange?
  split_ifs <;> first | omega | exact ⟨_, _, rfl, by omega, by omega⟩

/-- The lead of four bytes admits the second one of every character of that length. -/
theorem leadRange?_four (hLow : 0x10000 ≤ v) (hHigh : v < 0x110000) :
    ∃ low high, leadRange? (v / 262144 % 8 + 240) = some (low, high, 3) ∧
      low ≤ v / 4096 % 64 + 128 ∧ v / 4096 % 64 + 128 ≤ high := by
  unfold leadRange?
  split_ifs <;> first | omega | exact ⟨_, _, rfl, by omega, by omega⟩

end Leads

/-- A character is read back from its bytes, whatever follows. -/
theorem next_encodeChar (c : Char) (rest : List UInt8) :
    ∃ lead tail, String.utf8EncodeChar c = lead :: tail ∧ next lead (tail ++ rest) = (some c, rest) := by
  have hvalid : c.val.toNat < 0xd800 ∨ 0xdfff < c.val.toNat ∧ c.val.toNat < 0x110000 := c.valid
  have hchar : Char.ofNat c.val.toNat = c := Char.ofNat_toNat c
  unfold String.utf8EncodeChar
  generalize c.val.toNat = v at hvalid hchar
  dsimp only
  -- one case for each number of bytes; in each, the bits of the bytes make up the character
  split_ifs with hOne hTwo hThree
  · refine ⟨_, _, rfl, ?_⟩
    have hv : (UInt8.ofNat v).toNat = v := by
      rw [UInt8.toNat_ofNat']
      omega
    rw [next, hv, if_pos (by omega), hchar, List.nil_append]
  · refine ⟨_, _, rfl, ?_⟩
    rw [next_lead (by omega) (leadRange?_two (by omega) hTwo), if_pos rfl, List.cons_append,
      continuation_cons (by omega) (by omega) (by omega), List.nil_append, continuation,
      show (v / 64 % 32 + 192) % 32 * 64 + (v % 64 + 128) % 64 = v by omega, hchar]
  · obtain ⟨low, high, hlead, hlow, hhigh⟩ := leadRange?_three (by omega) hThree (by omega)
    refine ⟨_, _, rfl, ?_⟩
    rw [next_lead (by omega) hlead, if_neg (by decide), if_pos rfl, List.cons_append,
      continuation_cons hlow hhigh (by omega), List.cons_append,
      continuation_cons (by omega) (by omega) (by omega), List.nil_append, continuation,
      show ((v / 4096 % 16 + 224) % 16 * 64 + (v / 64 % 64 + 128) % 64) * 64 +
        (v % 64 + 128) % 64 = v by omega, hchar]
  · obtain ⟨low, high, hlead, hlow, hhigh⟩ := leadRange?_four (v := v) (by omega) (by omega)
    refine ⟨_, _, rfl, ?_⟩
    rw [next_lead (by omega) hlead, if_neg (by decide), if_neg (by decide), List.cons_append,
      continuation_cons hlow hhigh (by omega), List.cons_append,
      continuation_cons (by omega) (by omega) (by omega), List.cons_append,
      continuation_cons (by omega) (by omega) (by omega), List.nil_append, continuation,
      show (((v / 262144 % 8 + 240) % 8 * 64 + (v / 4096 % 64 + 128) % 64) * 64 +
        (v / 64 % 64 + 128) % 64) * 64 + (v % 64 + 128) % 64 = v by omega, hchar]

/-- A text is read back character by character. -/
theorem decode_encode (cs : List Char) :
    decode (cs.flatMap String.utf8EncodeChar) = cs.map some := by
  induction cs with
  | nil => rw [List.flatMap_nil, decode, List.map_nil]
  | cons c rest ih =>
    obtain ⟨lead, tail, hbytes, hnext⟩ := next_encodeChar c (rest.flatMap String.utf8EncodeChar)
    rw [List.flatMap_cons, hbytes, List.cons_append, decode, hnext, ih, List.map_cons]

/-- A text is read back from its bytes. -/
theorem decode?_encode (s : String) : decode? (encode s) = some s := by
  have hall : (s.toList.map some).mapM id = some s.toList := by
    induction s.toList with
    | nil => rfl
    | cons c rest ih => rw [List.map_cons, List.mapM_cons, ih]; rfl
  rw [decode?, encode, decode_encode, hall, Option.map_some, String.ofList_toList]

end Keyset.Utf8
