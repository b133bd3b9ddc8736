import Keyset.Proofs.Number.Nearest

/-!
# Keyset — rounding integers half up

An integer is converted to a double, increased by one half and rounded down. All that happens to it
on the way follows from where doubles lie: they hold every half up to `2 ^ 52` and every integer up
to `2 ^ 53`, and none but even integers from there on.

* `Double.even_of_isRounding_half` — half more than a wide integer is rounded to an even one.
* `Number.exists_roundings` — the two roundings and the floor.
* `Number.roundHalfUp_mono`, `Number.roundHalfUp_idem` — the order is kept, and what was rounded
  stays.
* `Number.roundHalfUp_integers` — where rounding half up fails, and what it does elsewhere.
-/

namespace Keyset.Double

/-! ## Integers among doubles -/

/-- From `2 ^ 52` on, doubles are integers. -/
theorem Representable.exists_int {q : ℚ} (h : Representable q) (hq : 2 ^ 52 ≤ |q|) :
    ∃ k : ℤ, q = k := by
  rcases h.multiple_or_lt (show minExponent ≤ 0 by decide) with ⟨k, rfl⟩ | ⟨-, hlt⟩
  · exact ⟨k, by simp⟩
  · exact absurd hq (not_le.mpr (by simpa using hlt))

/-- From `2 ^ 53` on, they are even. -/
theorem Representable.exists_even {q : ℚ} (h : Representable q) (hq : 2 ^ 53 ≤ |q|) :
    ∃ k : ℤ, q = (2 * k : ℤ) := by
  rcases h.multiple_or_lt (show minExponent ≤ 1 by decide) with ⟨k, rfl⟩ | ⟨-, hlt⟩
  · exact ⟨k, by push_cast; ring⟩
  · exact absurd hq (not_le.mpr (by simpa using hlt))

/-- Up to `2 ^ 53`, all integers are doubles. -/
theorem representable_intCast {n : ℤ} (h : |n| ≤ 2 ^ 53) : Representable n := by
  rw [Int.abs_eq_natAbs] at h
  have hmagnitude : Representable (n.natAbs * 2 ^ (0 : ℤ)) :=
    representable_of_inRange (by omega) (by decide) (Or.inr (Or.inl (by decide)))
  rw [zpow_zero, mul_one, Nat.cast_natAbs] at hmagnitude
  rcases abs_choice n with habs | habs <;> rw [habs] at hmagnitude
  · exact hmagnitude
  · simpa using hmagnitude.neg

/-- **Half more than a wide integer is rounded to an even integer**, which is the integer itself or
the next one: from `2 ^ 53` on there are no others, and below that it is a tie. -/
theorem even_of_isRounding_half {x : ℤ} {y : ℚ} (hrep : Representable x)
    (hwide : 2 ^ 52 ≤ x ∨ x < -2 ^ 52) (h : IsRounding (x + 1 / 2) y) :
    ∃ k : ℤ, y = (2 * k : ℤ) ∧ x ≤ 2 * k ∧ 2 * k ≤ x + 1 := by
  -- the result is one of the two neighbours, which are integers this far out
  have hnear := h.nearest x hrep
  rw [add_sub_cancel_left, abs_of_pos (show (0 : ℚ) < 1 / 2 by norm_num), abs_le] at hnear
  have hlarge : 2 ^ 52 ≤ |y| := by
    rw [le_abs]
    rcases hwide with hpos | hneg
    · have : (2 ^ 52 : ℚ) ≤ x := by exact_mod_cast hpos
      left
      linarith
    · have : (x : ℚ) + 1 ≤ -2 ^ 52 := by exact_mod_cast hneg
      right
      linarith
  obtain ⟨j, rfl⟩ := h.representable.exists_int hlarge
  have hlow : x ≤ j := by exact_mod_cast (by linarith : (x : ℚ) ≤ j)
  have hhigh : j ≤ x + 1 := by exact_mod_cast (by linarith : (j : ℚ) ≤ x + 1)
  have heven : Even j := by
    by_cases hdense : |j| < 2 ^ 53
    · -- the other neighbour is a double as well, and as near
      have hother : Representable ((2 * x + 1 - j : ℤ) : ℚ) := representable_intCast (by
        rw [abs_le]
        rw [abs_lt] at hdense
        omega)
      obtain ⟨k, hk⟩ := h.even _ hother (by norm_cast; omega) (by
        rw [← abs_neg]
        congr 1
        push_cast
        ring)
      have hk : j = k * (2 * (2 * x + 1 - j - j)) := by exact_mod_cast hk
      rw [hk, mul_left_comm]
      exact even_two_mul _
    · -- doubles this large are even, so that the result is too
      obtain ⟨k, hk⟩ := h.representable.exists_even (by exact_mod_cast not_lt.mp hdense)
      have hk : j = 2 * k := by exact_mod_cast hk
      exact hk ▸ even_two_mul k
  obtain ⟨k, rfl⟩ := even_iff_two_dvd.mp heven
  exact ⟨k, rfl, hlow, hhigh⟩

/-- The greatest double is more than one half below the limit. -/
theorem Representable.abs_add_half_lt {q : ℚ} (h : Representable q) : |q| + 1 / 2 < limit := by
  obtain ⟨n, e, hn, -, he, rfl⟩ := h
  have hunit : (1 : ℚ) < 2 ^ maxExponent := one_lt_zpow₀ one_lt_two (by decide)
  have hnBound : |(n : ℚ)| ≤ 2 ^ 53 - 1 := by
    rw [← Int.cast_abs, Int.abs_eq_natAbs, le_sub_iff_add_le]
    exact_mod_cast hn
  have hbound : |(n * 2 ^ e : ℚ)| ≤ (2 ^ 53 - 1) * 2 ^ maxExponent := by
    rw [abs_mul, abs_of_pos (show (0 : ℚ) < 2 ^ e by positivity)]
    exact mul_le_mul hnBound (zpow_le_zpow_right₀ one_le_two he) (by positivity) (by norm_num)
  rw [limit_eq rfl]
  linarith

end Keyset.Double

namespace Keyset.Number

open Double

/-! ## Rounding integers half up -/

/-- Below the limit, rounding half up is two roundings and a floor. -/
theorem exists_roundings {n : ℤ} (h : |n| < limit) :
    ∃ x y : ℚ, IsRounding n x ∧ IsRounding (x + 1 / 2) y ∧
      (Number.int n).roundHalfUp = .ok ⌊y⌋ := by
  obtain ⟨x, hx⟩ := exists_toRat?_ofInt_iff.mpr h
  have hround := isRounding_ofInt hx
  obtain ⟨z, k, e, hadd, hk⟩ := add_eq_ofScaled hx toRat?_half
  -- no double is so near the limit that one half takes it there
  have hsum : |(k * 2 ^ e : ℚ)| < limit := by
    rw [hk]
    refine (abs_add_le _ _).trans_lt ?_
    rw [abs_of_pos (show (0 : ℚ) < 1 / 2 by norm_num)]
    exact hround.representable.abs_add_half_lt
  obtain ⟨y, hy⟩ := (exists_toRat?_ofScaled_iff z).mpr hsum
  refine ⟨x, y, hround, ?_, roundHalfUp_of_toRat? hx (by rw [hadd, hy])⟩
  rw [← hk]
  exact isRounding_ofScaled z hy

/-- An integer is too large for a double from the limit on. -/
theorem toDouble_int_eq_overflow_iff {n : ℤ} :
    (Number.int n).toDouble = .error .overflow ↔ limit ≤ |n| := by
  rw [← not_lt, ← exists_toRat?_ofInt_iff, toDouble, ofInt?]
  cases ofInt n with
  | finite s m e => simp [toRat?]
  | _ => simp [toRat?]

/-- The roundings that an integer goes through on its way. -/
theorem roundings_of_roundHalfUp {n r : ℤ} (h : (Number.int n).roundHalfUp = .ok r) :
    ∃ x y : ℚ, IsRounding n x ∧ IsRounding (x + 1 / 2) y ∧ r = ⌊y⌋ := by
  by_cases hn : |n| < limit
  · obtain ⟨x, y, hx, hy, hround⟩ := exists_roundings hn
    exact ⟨x, y, hx, hy, Except.ok.inj (h.symm.trans hround)⟩
  · rw [roundHalfUp, toDouble_int_eq_overflow_iff.mpr (not_lt.mp hn)] at h
    cases h

/-- What two integers are rounded to is in their order. -/
theorem roundHalfUp_mono {m n a b : ℤ} (h : m ≤ n) (hm : (Number.int m).roundHalfUp = .ok a)
    (hn : (Number.int n).roundHalfUp = .ok b) : a ≤ b := by
  obtain ⟨x, y, hx, hy, rfl⟩ := roundings_of_roundHalfUp hm
  obtain ⟨x', y', hx', hy', rfl⟩ := roundings_of_roundHalfUp hn
  have hconverted : x ≤ x' := hx.mono hx' (by exact_mod_cast h)
  have hsum : y ≤ y' := hy.mono hy' (by linarith)
  exact Int.floor_le_floor hsum

/-- A wide integer is rounded to an even one that is a wide double itself. -/
theorem roundHalfUp_wide {n r : ℤ} (hn : 2 ^ 52 < |n|) (h : (Number.int n).roundHalfUp = .ok r) :
    Even r ∧ Representable r := by
  obtain ⟨x, y, hx, hy, rfl⟩ := roundings_of_roundHalfUp h
  -- the conversion does not leave the side that the integer is on
  obtain ⟨k, rfl, hk⟩ : ∃ k : ℤ, x = k ∧ (2 ^ 52 ≤ k ∨ k < -2 ^ 52) := by
    rcases lt_abs.mp hn with hpos | hneg
    · have hle := (isRounding_self (representable_intCast (n := 2 ^ 52) (by decide))).mono hx
        (by exact_mod_cast hpos.le)
      obtain ⟨k, rfl⟩ := hx.representable.exists_int (hle.trans (le_abs_self x))
      exact ⟨k, rfl, Or.inl (by exact_mod_cast hle)⟩
    · have hle := hx.mono (isRounding_self (representable_intCast (n := -2 ^ 52 - 1) (by decide)))
        (by exact_mod_cast (by omega : n ≤ -2 ^ 52 - 1))
      push_cast at hle
      obtain ⟨k, rfl⟩ := hx.representable.exists_int (by
        rw [le_abs]
        right
        linarith)
      exact ⟨k, rfl, Or.inr (by exact_mod_cast (by linarith : (k : ℚ) < -2 ^ 52))⟩
  obtain ⟨l, rfl, hlow, hhigh⟩ := even_of_isRounding_half hx.representable hk hy
  rw [Int.floor_intCast]
  exact ⟨even_two_mul l, hy.representable⟩

/-- An even integer that is a wide double is not moved. -/
theorem roundHalfUp_of_even {r : ℤ} (hrep : Representable r) (heven : Even r)
    (hwide : 2 ^ 52 ≤ r ∨ r < -2 ^ 52) : (Number.int r).roundHalfUp = .ok r := by
  have hr : |r| < limit := by
    exact_mod_cast (by linarith [hrep.abs_add_half_lt] : |(r : ℚ)| < limit)
  obtain ⟨x, y, hx, hy, hround⟩ := exists_roundings hr
  obtain rfl := hx.eq_self hrep
  obtain ⟨l, rfl, hlow, hhigh⟩ := even_of_isRounding_half hrep hwide hy
  rw [hround, Int.floor_intCast]
  obtain ⟨k, rfl⟩ := heven
  congr 1
  omega

theorem roundHalfUp_of_abs_le {n : ℤ} (h : |n| ≤ 2 ^ 52) : (Number.int n).roundHalfUp = .ok n := by
  rw [Int.abs_eq_natAbs] at h
  exact roundHalfUp_int (by omega)

/-- What was rounded stays as it is: narrow integers are not moved, and wide ones became even. -/
theorem roundHalfUp_idem {n r : ℤ} (h : (Number.int n).roundHalfUp = .ok r) :
    (Number.int r).roundHalfUp = .ok r := by
  rcases le_or_gt |r| (2 ^ 52) with hr | hr
  · exact roundHalfUp_of_abs_le hr
  rcases le_or_gt |n| (2 ^ 52) with hn | hn
  · obtain rfl := Except.ok.inj ((roundHalfUp_of_abs_le hn).symm.trans h)
    exact absurd hn (not_le.mpr hr)
  · obtain ⟨heven, hrep⟩ := roundHalfUp_wide hn h
    refine roundHalfUp_of_even hrep heven ?_
    rw [lt_abs] at hr
    omega

/-- **Rounding integers half up.** It fails exactly where the conversion to a double fails, which is
from half a unit beyond the greatest double on. Below that an integer is converted, increased by one
half and rounded down, where both sums are exact numbers that are rounded once. Integers of 52
bits stay as they are; no two integers change their order; and what was rounded stays as it is. -/
theorem roundHalfUp_integers (n : ℤ) :
    ((Number.int n).roundHalfUp = .error .overflow ↔
      (Number.int n).toDouble = .error .overflow) ∧
    ((Number.int n).toDouble = .error .overflow ↔ limit ≤ |n|) ∧
    (|n| < limit → ∃ r, (Number.int n).roundHalfUp = .ok r ∧
      (∃ x y : ℚ, IsRounding n x ∧ IsRounding (x + 1 / 2) y ∧ r = ⌊y⌋) ∧
      (|n| ≤ 2 ^ 52 → r = n) ∧ (Number.int r).roundHalfUp = .ok r ∧
      ∀ m s, n ≤ m → (Number.int m).roundHalfUp = .ok s → r ≤ s) := by
  -- nothing but the conversion to a double can overflow
  have hfails : (Number.int n).roundHalfUp = .error .overflow ↔ limit ≤ |n| := by
    constructor
    · intro h
      by_contra hn
      obtain ⟨x, y, -, -, hround⟩ := exists_roundings (not_le.mp hn)
      rw [hround] at h
      cases h
    · intro hn
      rw [roundHalfUp, toDouble_int_eq_overflow_iff.mpr hn]
      rfl
  refine ⟨hfails.trans toDouble_int_eq_overflow_iff.symm, toDouble_int_eq_overflow_iff, ?_⟩
  intro hn
  obtain ⟨x, y, hx, hy, hround⟩ := exists_roundings hn
  refine ⟨⌊y⌋, hround, ⟨x, y, hx, hy, rfl⟩, ?_, roundHalfUp_idem hround,
    fun m s hm hs => roundHalfUp_mono hm hround hs⟩
  intro hnarrow
  rw [roundHalfUp_of_abs_le hnarrow] at hround
  exact (Except.ok.inj hround).symm

/-- The first integer that is moved goes to the next even one; the one before it stays before it. -/
theorem roundHalfUp_integers_firstMoved :
    |(4503599627370496 : ℤ)| < limit ∧ |(4503599627370496 : ℤ)| ≤ 2 ^ 52 ∧
    (4503599627370496 : ℤ) ≤ 4503599627370497 ∧
    (Number.int 4503599627370497).roundHalfUp = .ok 4503599627370498 ∧
    ∃ r, (Number.int 4503599627370496).roundHalfUp = .ok r ∧ r = 4503599627370496 ∧
      r ≤ 4503599627370498 := by
  have hlimit : |(4503599627370496 : ℤ)| < limit :=
    exists_toRat?_ofInt_iff.mp ⟨_, toRat?_ofInt (by decide)⟩
  have hnarrow : |(4503599627370496 : ℤ)| ≤ 2 ^ 52 := by decide
  have hle : (4503599627370496 : ℤ) ≤ 4503599627370497 := by decide
  have hmoved : (Number.int 4503599627370497).roundHalfUp = .ok 4503599627370498 := rfl
  obtain ⟨r, hr, -, hsame, -, hmono⟩ := (roundHalfUp_integers 4503599627370496).2.2 hlimit
  exact ⟨hlimit, hnarrow, hle, hmoved, r, hr, hsame hnarrow, hmono _ _ hle hmoved⟩

end Keyset.Number
