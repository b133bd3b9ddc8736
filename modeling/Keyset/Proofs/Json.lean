import Keyset.Json.Basic
import Mathlib

/-!
# Keyset — JSON strings are read back

A text is read back from the JSON string that quotes it. Each character is read back from its
escape: itself, a backslash with a letter, or a backslash with four hexadecimal digits.

* `Json.stringFrom_escapeChar` — one character is read back.
* `Json.read?_quote` — a text is read back.
-/

namespace Keyset.Json

/-! ## Characters -/

theorem hexValue?_hexDigit {n : Nat} (h : n < 16) : hexValue? (Text.hexDigit n) = some n := by
  revert n
  decide

/-- A number is read back from four hexadecimal digits. -/
theorem unit?_hex {n : Nat} (h : n < 0x10000) (rest : List Char) :
    unit? (Text.hex 4 n ++ rest) = some (n, rest) := by
  have hdigits : Text.hex 4 n = [Text.hexDigit (n / 16 / 16 / 16 % 16),
      Text.hexDigit (n / 16 / 16 % 16), Text.hexDigit (n / 16 % 16), Text.hexDigit (n % 16)] := rfl
  have hvalue (m : Nat) : hexValue? (Text.hexDigit (m % 16)) = some (m % 16) :=
    hexValue?_hexDigit (Nat.mod_lt _ (by decide))
  have hnumber : ((n / 16 / 16 / 16 % 16 * 16 + n / 16 / 16 % 16) * 16 + n / 16 % 16) * 16 +
      n % 16 = n := by omega
  simp only [hdigits, List.cons_append, List.nil_append, unit?, hvalue, Option.bind_eq_bind,
    Option.bind_some, hnumber]

/-- A unit that is no half of a pair is a character by itself. -/
theorem joinUnits_of_lt {n : Nat} (h : n < 0xd800) (rest : List Char) :
    joinUnits n rest = (Char.ofNat n, rest) := by
  have hHigh : ¬ (0xd800 ≤ n ∧ n < 0xdc00) := by omega
  have hHalf : ¬ (0xd800 ≤ n ∧ n < 0xe000) := by omega
  unfold joinUnits
  rw [if_neg hHigh, if_neg hHalf]

/-- A character is read back from its escape, whatever follows. -/
theorem stringFrom_escapeChar (c : Char) (fuel : Nat) (acc rest : List Char) :
    stringFrom (fuel + 1) acc (escapeChar c ++ rest) = stringFrom fuel (c :: acc) rest := by
  unfold escapeChar
  split_ifs with hQuoted hNewline hReturn hTab hBack hForm hControl
  · rcases hQuoted with rfl | rfl <;> rfl
  · subst hNewline; rfl
  · subst hReturn; rfl
  · subst hTab; rfl
  · subst hBack; rfl
  · subst hForm; rfl
  · -- a control character, as a backslash and the digits of its number
    rw [List.cons_append, List.cons_append, stringFrom, unit?_hex (by omega), Option.bind_eq_bind,
      Option.bind_some]
    dsimp only
    rw [joinUnits_of_lt (by omega), Char.ofNat_toNat]
  · -- any other character stands for itself, since it ends no text and starts no escape
    rw [not_or] at hQuoted
    have hplain : ¬ (c.toNat < 32 ∨ c = '\\') := not_or.mpr ⟨hControl, hQuoted.2⟩
    rw [List.singleton_append, stringFrom.eq_def]
    dsimp only
    split <;> simp_all

/-- The characters of a text are read back up to the closing quote. -/
theorem stringFrom_flatMap {cs : List Char} :
    ∀ {fuel : Nat} {acc rest : List Char}, cs.length < fuel →
      stringFrom fuel acc (cs.flatMap escapeChar ++ '"' :: rest) = some (acc.reverse ++ cs, rest) := by
  induction cs with
  | nil =>
    intro fuel acc rest hFuel
    obtain ⟨fuel, rfl⟩ := Nat.exists_eq_succ_of_ne_zero (Nat.ne_zero_of_lt hFuel)
    simp [stringFrom]
  | cons c cs ih =>
    intro fuel acc rest hFuel
    obtain ⟨fuel, rfl⟩ := Nat.exists_eq_succ_of_ne_zero (Nat.ne_zero_of_lt hFuel)
    rw [List.length_cons] at hFuel
    rw [List.flatMap_cons, List.append_assoc, stringFrom_escapeChar, ih (by omega)]
    simp

/-! ## Texts -/

theorem length_le_flatMap_escapeChar (cs : List Char) :
    cs.length ≤ (cs.flatMap escapeChar).length := by
  have hone (c : Char) : 1 ≤ (escapeChar c).length := by
    unfold escapeChar
    split_ifs <;> simp
  induction cs with
  | nil => exact Nat.le_refl 0
  | cons c rest ih =>
    have := hone c
    rw [List.length_cons, List.flatMap_cons, List.length_append]
    omega

theorem skip_quote (rest : List Char) : skip ('"' :: rest) = '"' :: rest := by
  rw [skip, List.dropWhile_cons_of_neg (by decide)]

/-- A value that starts with a quote is a string. -/
theorem value?_quote (fuel : Nat) (rest : List Char) :
    value? (fuel + 1) ('"' :: rest) =
      (stringFrom ('"' :: rest).length [] rest).map fun p => (.str (String.ofList p.1), p.2) := by
  rw [value?]

/-- **A text is read back from the JSON string that quotes it.** -/
theorem read?_quote (s : String) : read? (quote s) = some (.str s) := by
  have hlength := length_le_flatMap_escapeChar s.toList
  have htext : (quote s).toList = '"' :: (s.toList.flatMap escapeChar ++ ['"']) := by
    rw [quote, String.toList_ofList, List.cons_append]
  -- every character of the text takes fuel, of which there is one for each and two for the quotes
  have hstring : stringFrom (quote s).toList.length [] (s.toList.flatMap escapeChar ++ ['"']) =
      some ([].reverse ++ s.toList, []) := by
    refine stringFrom_flatMap ?_
    rw [htext, List.length_cons, List.length_append]
    omega
  have hvalue (fuel : Nat) : value? (fuel + 1) (quote s).toList = some (.str s, []) := by
    rw [htext] at hstring ⊢
    rw [value?_quote, hstring, Option.map_some, List.reverse_nil, List.nil_append,
      String.ofList_toList]
  have hskip : skip (quote s).toList = (quote s).toList := by rw [htext, skip_quote]
  rw [read?, hskip]
  dsimp only
  rw [hvalue]
  rfl

end Keyset.Json
