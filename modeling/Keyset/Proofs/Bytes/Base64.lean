import Keyset.Bytes.Base64
import Mathlib

/-!
# Keyset — Base64 texts are read back

Three bytes are read back from their four digits, and what remains at the end from two or
three digits and the padding that reading adds. The digits and their values undo each other;
none of them is the padding mark or the dot that separates the parts of a token.

* `Base64.value?_digit` — digits have their values.
* `Base64.decode?_encode` — a byte sequence is read back.
* `Base64.mem_encode` — what a text consists of.
-/

namespace Keyset.Base64

/-! ## Digits -/

theorem value?_digit {n : Nat} (h : n < 64) : value? (digit n) = some n := by
  revert n
  decide

theorem digit_ne_pad {n : Nat} (h : n < 64) : digit n ≠ 61 := by
  revert n
  decide

/-! ## Reading -/

/-- A digit is taken into the open group. -/
theorem decodeFrom_digit {n : Nat} (h : n < 64) (g : Group) (out rest : List UInt8) :
    decodeFrom g out (digit n :: rest) =
      match g.count with
      | 0 => decodeFrom ⟨1, n, 0⟩ out rest
      | 1 => decodeFrom ⟨2, n % 16, 0⟩ ((g.bits * 4 + n / 16).toUInt8 :: out) rest
      | 2 => decodeFrom ⟨3, n % 4, 0⟩ ((g.bits * 16 + n / 4).toUInt8 :: out) rest
      | _ => decodeFrom ⟨0, 0, 0⟩ ((g.bits * 64 + n).toUInt8 :: out) rest := by
  rewrite [decodeFrom, if_neg (digit_ne_pad h), value?_digit h]
  rfl

/-- A byte is read back once its bits are together. -/
theorem toUInt8_eq {n : Nat} {b : UInt8} (h : n = b.toNat) : n.toUInt8 = b := by
  rw [h, Nat.toUInt8_eq, UInt8.ofNat_toNat]

/-- The padding of a text is that of the text without its first group. -/
theorem padding_add_four (length : Nat) : padding (length + 4) = padding length := by
  rw [padding, Nat.add_mod_right, padding]

/-- The bytes of a text are read after those that have been read. -/
theorem decodeFrom_encode (bs out : List UInt8) :
    decodeFrom ⟨0, 0, 0⟩ out (encode bs ++ padding (encode bs).length) =
      some (out.reverse ++ bs) := by
  -- the recursion of `encode`: three bytes at a time, and what is left of them
  induction bs using encode.induct generalizing out with
  | case1 a b c rest ih =>
    have ha := a.toNat_lt
    have hb := b.toNat_lt
    have hc := c.toNat_lt
    rw [encode]
    simp only [List.cons_append, List.length_cons, Nat.add_assoc, Nat.reduceAdd, padding_add_four]
    -- four digits fill three bytes, and leave the reader as it was
    simp (disch := omega) only [decodeFrom_digit]
    rw [ih, toUInt8_eq (b := c) (by omega), toUInt8_eq (b := b) (by omega),
      toUInt8_eq (b := a) (by omega)]
    simp
  | case2 a b =>
    have ha := a.toNat_lt
    have hb := b.toNat_lt
    -- the bits that the last digit has too many are zeros, and are dropped at the padding
    have hpad : padding 3 = [61] := rfl
    simp only [encode, List.length_cons, List.length_nil, Nat.reduceAdd, hpad, List.cons_append,
      List.nil_append]
    simp (disch := omega) only [decodeFrom_digit]
    rw [toUInt8_eq (b := b) (by omega), toUInt8_eq (b := a) (by omega)]
    simp [decodeFrom]
  | case3 a =>
    have ha := a.toNat_lt
    have hpad : padding 2 = [61, 61] := rfl
    simp only [encode, List.length_cons, List.length_nil, Nat.reduceAdd, hpad, List.cons_append,
      List.nil_append]
    simp (disch := omega) only [decodeFrom_digit]
    rw [toUInt8_eq (b := a) (by omega)]
    simp [decodeFrom]
  | case4 =>
    simp [encode, padding, decodeFrom]

/-- **A byte sequence is read back from its text.** -/
theorem decode?_encode (bs : List UInt8) : decode? (encode bs) = some bs := by
  rw [decode?, decodeFrom_encode, List.reverse_nil, List.nil_append]

/-- A text consists of digits. -/
theorem mem_encode {bs : List UInt8} : ∀ x ∈ encode bs, ∃ n < 64, x = digit n := by
  induction bs using encode.induct with
  | case1 a b c rest ih =>
    have ha := a.toNat_lt
    have hb := b.toNat_lt
    have hc := c.toNat_lt
    intro x hx
    simp only [encode, List.mem_cons] at hx
    rcases hx with rfl | rfl | rfl | rfl | hx
    · exact ⟨_, by omega, rfl⟩
    · exact ⟨_, by omega, rfl⟩
    · exact ⟨_, by omega, rfl⟩
    · exact ⟨_, by omega, rfl⟩
    · exact ih x hx
  | case2 a b =>
    have ha := a.toNat_lt
    have hb := b.toNat_lt
    intro x hx
    simp only [encode, List.mem_cons, List.not_mem_nil, or_false] at hx
    rcases hx with rfl | rfl | rfl
    · exact ⟨_, by omega, rfl⟩
    · exact ⟨_, by omega, rfl⟩
    · exact ⟨_, by omega, rfl⟩
  | case3 a =>
    have ha := a.toNat_lt
    intro x hx
    simp only [encode, List.mem_cons, List.not_mem_nil, or_false] at hx
    rcases hx with rfl | rfl
    · exact ⟨_, by omega, rfl⟩
    · exact ⟨_, by omega, rfl⟩
  | case4 => simp [encode]

/-- A property of all digits is one of all bytes of a text. -/
theorem forall_mem_encode {p : UInt8 → Prop} (h : ∀ n < 64, p (digit n)) {bs : List UInt8} :
    ∀ x ∈ encode bs, p x := by
  intro x hx
  obtain ⟨n, hn, rfl⟩ := mem_encode x hx
  exact h n hn

end Keyset.Base64
