import Keyset.Number.Basic
import Mathlib

/-!
# Keyset — what rounding to a double keeps

A double is compared with the rational number that it denotes. Rounding keeps what
53 bits can hold, and whatever it does to other numbers, it does not carry them
far: that is all that page numbers need.

* `Double.toRat?` — the number that a finite double denotes.
* `Double.Representable` — the numbers that need no rounding.
* `Double.ratioExponent_spec` — the exponent places a quotient within a factor of two.
* `Double.toRat?_ofRatio`, `Double.exists_toRat?_ofRatio` — the rounded quotient.
* `Number.roundHalfUp_int`, `Number.exists_roundHalfUp_int` — integers that pass
  through a double.
* `Number.roundHalfUp_int_cases` — an integer is rounded, or is out of range.
-/

namespace Keyset.Double

/-! ## Values -/

/-- A magnitude with a sign. -/
def signed (negative : Bool) (q : ℚ) : ℚ := if negative then -q else q

@[simp] theorem signed_zero (s : Bool) : signed s 0 = 0 := by simp [signed]

theorem abs_signed (s : Bool) (q : ℚ) : |signed s q| = |q| := by
  unfold signed
  split <;> simp

/-- The rational number that a finite double denotes. -/
def toRat? : Double → Option ℚ
  | .finite s m e => some (signed s (m * 2 ^ e))
  | _ => none

@[simp] theorem toRat?_zero (s : Bool) : (zero s).toRat? = some 0 := by simp [zero, toRat?]

theorem scaleDen_pos (e : ℤ) : 0 < scaleDen e := Nat.two_pow_pos _

/-- The two halves of a scaled significand make up its value. -/
theorem scaleNum_div_scaleDen (m : ℕ) (e : ℤ) :
    (scaleNum m e : ℚ) / scaleDen e = m * 2 ^ e := by
  rw [scaleNum, scaleDen, Nat.pow_eq, Nat.pow_eq]
  push_cast
  rw [mul_div_assoc, ← zpow_natCast, ← zpow_natCast, ← zpow_sub₀ two_ne_zero]
  congr 2
  omega

theorem scaleNum_eq (m : ℕ) (e : ℤ) : (scaleNum m e : ℚ) = m * 2 ^ e * scaleDen e := by
  have hden : (scaleDen e : ℚ) ≠ 0 := by exact_mod_cast (scaleDen_pos e).ne'
  rw [← scaleNum_div_scaleDen, div_mul_cancel₀ _ hden]

/-- The floor of a double is the floor of its value. -/
theorem floor?_of_toRat? {x : Double} {q : ℚ} (h : x.toRat? = some q) : x.floor? = some ⌊q⌋ := by
  cases x with
  | finite s m e =>
    obtain rfl : signed s (m * 2 ^ e) = q := Option.some.inj h
    have hvalue : signed s (m * 2 ^ e) =
        ((if s then -(scaleNum m e : ℤ) else scaleNum m e : ℤ) : ℚ) / scaleDen e := by
      rw [← scaleNum_div_scaleDen, signed]
      split <;> push_cast <;> ring
    rw [hvalue, Rat.floor_intCast_div_natCast]
    simp only [floor?, Int.fdiv_eq_ediv_of_nonneg _ (Int.natCast_nonneg _)]
  | _ => cases h

/-- The numbers that a double denotes as they are: 53 bits within the range of
exponents. -/
def Representable (q : ℚ) : Prop :=
  ∃ n e : ℤ, n.natAbs < 2 ^ 53 ∧ minExponent ≤ e ∧ e ≤ maxExponent ∧ q = n * 2 ^ e

/-! ## Rounding a quotient to an integer -/

/-- An integer is not rounded. -/
theorem roundHalfEven_mul (n : ℕ) {den : ℕ} (h : 0 < den) : roundHalfEven (n * den) den = n := by
  simp [roundHalfEven, Nat.mul_div_cancel _ h, h]

/-- Rounding does not leave a bound that is an integer. -/
theorem roundHalfEven_le {num den bound : ℕ} (hden : 0 < den) (h : num ≤ bound * den) :
    roundHalfEven num den ≤ bound := by
  -- a quotient below the bound may be rounded up to it, but not beyond
  have hq : num / den ≤ bound := (Nat.div_le_iff_le_mul_add_pred hden).mpr (by
    rw [Nat.mul_comm]
    omega)
  rcases Nat.lt_or_ge (num / den) bound with hlt | hge
  · simp only [roundHalfEven]
    split_ifs <;> omega
  · -- the quotient is the bound, so nothing is left to round
    obtain rfl : num / den = bound := by omega
    have hrest : num % den = 0 := by
      have := Nat.div_add_mod num den
      rw [Nat.mul_comm] at this
      omega
    simp [roundHalfEven, hrest, hden]

/-! ## The exponent of a quotient -/

section Ratio

variable {num den : ℕ} (hNum : 0 < num) (hDen : 0 < den)

include hNum hDen

/-- The quotient lies within a factor of two of the power of its logarithms. -/
theorem div_within_log2 :
    (2 : ℚ) ^ ((num.log2 : ℤ) - den.log2 - 1) < num / den ∧
      (num : ℚ) / den < 2 ^ ((num.log2 : ℤ) - den.log2 + 1) := by
  have hden : (0 : ℚ) < den := by exact_mod_cast hDen
  -- each number lies between the power of its logarithm and the next
  have hnumLow : (2 : ℚ) ^ (num.log2 : ℤ) ≤ num := by
    exact_mod_cast Nat.log2_self_le hNum.ne'
  have hnumHigh : (num : ℚ) < 2 ^ ((num.log2 : ℤ) + 1) := by
    exact_mod_cast Nat.lt_log2_self
  have hdenLow : (2 : ℚ) ^ (den.log2 : ℤ) ≤ den := by
    exact_mod_cast Nat.log2_self_le hDen.ne'
  have hdenHigh : (den : ℚ) < 2 ^ ((den.log2 : ℤ) + 1) := by
    exact_mod_cast Nat.lt_log2_self
  constructor
  · rw [lt_div_iff₀ hden]
    calc (2 : ℚ) ^ ((num.log2 : ℤ) - den.log2 - 1) * den
        < 2 ^ ((num.log2 : ℤ) - den.log2 - 1) * 2 ^ ((den.log2 : ℤ) + 1) := by gcongr
      _ = 2 ^ (num.log2 : ℤ) := by
          rw [← zpow_add₀ two_ne_zero]
          congr 1
          omega
      _ ≤ num := hnumLow
  · rw [div_lt_iff₀ hden]
    calc (num : ℚ) < 2 ^ ((num.log2 : ℤ) + 1) := hnumHigh
      _ = 2 ^ ((num.log2 : ℤ) - den.log2 + 1) * 2 ^ (den.log2 : ℤ) := by
          rw [← zpow_add₀ two_ne_zero]
          congr 1
          omega
      _ ≤ 2 ^ ((num.log2 : ℤ) - den.log2 + 1) * den := by gcongr

/-- At its exponent a quotient has a full significand. -/
theorem ratioExponent_spec :
    (2 : ℚ) ^ (ratioExponent num den + 52) ≤ num / den ∧
      (num : ℚ) / den < 2 ^ (ratioExponent num den + 53) := by
  obtain ⟨hlow, hhigh⟩ := div_within_log2 hNum hDen
  have hden : (0 : ℚ) < den := by exact_mod_cast hDen
  set k : ℤ := (num.log2 : ℤ) - den.log2 with hk
  -- the comparison decides on which side of `2 ^ k` the quotient lies
  have hcompare : scaleNum den k ≤ num * scaleDen k ↔ (2 : ℚ) ^ k ≤ num / den := by
    have hscale : (0 : ℚ) < scaleDen k := by exact_mod_cast scaleDen_pos k
    rw [← Nat.cast_le (α := ℚ), Nat.cast_mul, scaleNum_eq, mul_le_mul_iff_left₀ hscale,
      le_div_iff₀ hden, mul_comm]
  rw [ratioExponent]
  simp only [← hk, precision, Nat.cast_ofNat]
  split
  next h =>
    rw [show k + 1 - 53 + 52 = k by ring, show k + 1 - 53 + 53 = k + 1 by ring]
    exact ⟨hcompare.mp h, hhigh⟩
  next h =>
    rw [show k - 53 + 52 = k - 1 by ring, show k - 53 + 53 = k by ring]
    exact ⟨hlow.le, lt_of_not_ge fun hle => h (hcompare.mpr hle)⟩

end Ratio

/-! ## Rounding a quotient to a double -/

/-- The canonical form denotes what it was made of. -/
theorem toRat?_normalize (s : Bool) {m : ℕ} {e : ℤ} (he : e ≤ maxExponent)
    (hfull : m = 2 ^ 53 → e < maxExponent) :
    (normalize s m e).toRat? = some (signed s (m * 2 ^ e)) := by
  have hpow : Nat.pow 2 precision = 2 ^ 53 := rfl
  have hhalf : Nat.pow 2 (precision - 1) = 2 ^ 52 := rfl
  rw [normalize]
  by_cases h0 : m = 0
  · simp [h0]
  rw [if_neg h0]
  by_cases h53 : m = Nat.pow 2 precision
  · -- a full significand is halved, and the exponent makes up for it
    have hlt := hfull (h53.trans hpow)
    rw [if_pos h53, if_neg (by omega), toRat?, h53, hhalf, hpow]
    congr 2
    push_cast
    rw [zpow_add_one₀ two_ne_zero]
    ring
  · rw [if_neg h53, if_neg (by omega), toRat?]

/-- A multiple of a power of two is one of a lesser power. -/
theorem exists_natCast_mul_zpow {q : ℚ} (hPos : 0 < q) {n f e : ℤ} (hq : q = n * 2 ^ f)
    (hef : e ≤ f) : ∃ k : ℕ, q = k * 2 ^ e := by
  have hnPos : 0 < n := by
    have : (0 : ℚ) < n * 2 ^ f := hq ▸ hPos
    exact_mod_cast pos_of_mul_pos_left this (by positivity)
  obtain ⟨d, hd⟩ := Int.eq_ofNat_of_zero_le (show 0 ≤ f - e by omega)
  have hn : ((n.toNat : ℕ) : ℚ) = n := by exact_mod_cast Int.toNat_of_nonneg hnPos.le
  refine ⟨n.toNat * 2 ^ d, ?_⟩
  rw [hq, show f = d + e by omega, zpow_add₀ two_ne_zero, zpow_natCast, Nat.cast_mul, hn,
    Nat.cast_pow, Nat.cast_ofNat, mul_assoc]

section Ratio

variable {num den : ℕ} (hDen : 0 < den) (s : Bool)

include hDen

theorem scaledDen_pos (e : ℤ) : 0 < den * scaleNum 1 e := by
  rw [scaleNum, Nat.one_mul]
  exact Nat.mul_pos hDen (Nat.two_pow_pos _)

/-- A quotient over a power of two is the quotient of what `ofRatio` rounds. -/
theorem scaled_eq {k : ℚ} {e : ℤ} (h : (num : ℚ) / den = k * 2 ^ e) :
    ((num * scaleDen e : ℕ) : ℚ) = k * ((den * scaleNum 1 e : ℕ) : ℚ) := by
  have hden : (den : ℚ) ≠ 0 := by exact_mod_cast hDen.ne'
  rw [div_eq_iff hden] at h
  rw [Nat.cast_mul, Nat.cast_mul, scaleNum_eq, h]
  push_cast
  ring

/-- The significand of a rounded quotient has no more than 53 bits, or is the next
power of two. -/
theorem significand_le (hNum : 0 < num) {e : ℤ} (he : ratioExponent num den ≤ e) :
    roundHalfEven (num * scaleDen e) (den * scaleNum 1 e) ≤ 2 ^ 53 := by
  refine roundHalfEven_le (scaledDen_pos hDen e) ?_
  have htwo : (0 : ℚ) < 2 ^ e := by positivity
  have hquotient : (num : ℚ) / den = num / den / 2 ^ e * 2 ^ e := by
    rw [div_mul_cancel₀ _ htwo.ne']
  have hle : (num : ℚ) / den / 2 ^ e ≤ 2 ^ 53 := by
    rw [div_le_iff₀ htwo, ← zpow_natCast, ← zpow_add₀ two_ne_zero]
    refine (ratioExponent_spec hNum hDen).2.le.trans (zpow_le_zpow_right₀ one_le_two ?_)
    push_cast
    omega
  rw [← Nat.cast_le (α := ℚ), scaled_eq hDen hquotient, Nat.cast_mul (2 ^ 53), Nat.cast_pow]
  gcongr
  exact hle

/-- The exponent of a quotient is not above that of a number of 53 bits that it equals. -/
theorem ratioExponent_le (hNum : 0 < num) {n f : ℤ} (hn : n.natAbs < 2 ^ 53)
    (hq : (num : ℚ) / den = n * 2 ^ f) : ratioExponent num den ≤ f := by
  have hlow := (ratioExponent_spec hNum hDen).1
  have hnBound : (n : ℚ) < 2 ^ (53 : ℤ) := by
    have : n < 2 ^ 53 := by omega
    exact_mod_cast this
  have hlt : (2 : ℚ) ^ (ratioExponent num den + 52) < 2 ^ (53 + f) := by
    rw [zpow_add₀ two_ne_zero 53]
    refine hlow.trans_lt ?_
    rw [hq]
    gcongr
  have := (zpow_lt_zpow_iff_right₀ (one_lt_two (α := ℚ))).mp hlt
  omega

/-- **A quotient that a double can hold is not rounded.** -/
theorem toRat?_ofRatio (h : Representable ((num : ℚ) / den)) :
    (ofRatio s num den).toRat? = some (signed s (num / den)) := by
  rcases Nat.eq_zero_or_pos num with rfl | hNum
  · simp [ofRatio]
  obtain ⟨n, f, hn, hf, hf', hq⟩ := h
  set e := max minExponent (ratioExponent num den) with he
  -- the quotient is a multiple of the chosen power, and nothing is rounded off
  have hef : e ≤ f := max_le hf (ratioExponent_le hDen hNum hn hq)
  obtain ⟨k, hquotient⟩ := exists_natCast_mul_zpow (by positivity) hq hef
  have hscaled : num * scaleDen e = k * (den * scaleNum 1 e) := by
    exact_mod_cast scaled_eq hDen hquotient
  -- that multiple is a significand, as the exponent gives no more bits
  have hk53 : k < 2 ^ 53 := by
    have hlt : (k : ℚ) * 2 ^ e < 2 ^ (53 : ℤ) * 2 ^ e := by
      rw [← hquotient, ← zpow_add₀ two_ne_zero]
      refine (ratioExponent_spec hNum hDen).2.trans_le (zpow_le_zpow_right₀ one_le_two ?_)
      omega
    have := lt_of_mul_lt_mul_right hlt (by positivity)
    exact_mod_cast this
  rw [ofRatio, if_neg hNum.ne']
  simp only [← he]
  rw [hscaled, roundHalfEven_mul k (scaledDen_pos hDen e), toRat?_normalize s (hef.trans hf')
    (fun h => absurd h hk53.ne), hquotient]

/-- A quotient that is not close to the end of the format is not rounded to an
infinity, and not to more than twice its bound. -/
theorem exists_toRat?_ofRatio {bits : ℕ} (hBits : bits ≤ 1010)
    (h : (num : ℚ) / den ≤ 2 ^ bits) :
    ∃ q, (ofRatio s num den).toRat? = some q ∧ |q| ≤ 2 ^ (bits + 1) := by
  rcases Nat.eq_zero_or_pos num with rfl | hNum
  · exact ⟨0, by simp [ofRatio], by simp⟩
  have hlow := (ratioExponent_spec hNum hDen).1
  set e := max minExponent (ratioExponent num den) with he
  -- the bound limits the exponent, and with it the magnitude
  have hratio : ratioExponent num den + 52 ≤ bits := by
    rw [← zpow_natCast] at h
    exact (zpow_le_zpow_iff_right₀ (one_lt_two (α := ℚ))).mp (hlow.trans h)
  have heBits : e + 53 ≤ bits + 1 := by
    rw [he, minExponent]
    omega
  have hm := significand_le hDen hNum (le_max_right minExponent (ratioExponent num den))
  rw [← he] at hm
  set m := roundHalfEven (num * scaleDen e) (den * scaleNum 1 e) with hmdef
  have hmax : e < maxExponent := by
    rw [maxExponent]
    omega
  refine ⟨signed s (m * 2 ^ e), ?_, ?_⟩
  · rw [ofRatio, if_neg hNum.ne']
    simp only [← he, ← hmdef]
    exact toRat?_normalize s hmax.le fun _ => hmax
  · rw [abs_signed, abs_of_nonneg (by positivity)]
    calc (m : ℚ) * 2 ^ e ≤ 2 ^ (53 : ℤ) * 2 ^ e := by
          gcongr
          exact_mod_cast hm
      _ = 2 ^ (53 + e) := (zpow_add₀ two_ne_zero _ _).symm
      _ ≤ 2 ^ ((bits + 1 : ℕ) : ℤ) := by
          refine zpow_le_zpow_right₀ one_le_two ?_
          push_cast
          omega
      _ = 2 ^ (bits + 1) := zpow_natCast _ _

end Ratio

/-! ## Sums and integers -/

/-- The opposite of what a double holds is held too. -/
theorem Representable.neg {q : ℚ} (h : Representable q) : Representable (-q) := by
  obtain ⟨n, e, hn, he, he', rfl⟩ := h
  exact ⟨-n, e, by omega, he, he', by push_cast; ring⟩

theorem Representable.abs {q : ℚ} (h : Representable q) : Representable |q| := by
  rcases abs_choice q with habs | habs <;> rw [habs]
  · exact h
  · exact h.neg

/-- The sign of an integer and its magnitude make up the integer. -/
theorem signed_natAbs (n : ℤ) (q : ℚ) : signed (n < 0) (n.natAbs * q) = n * q := by
  unfold signed
  by_cases hneg : n < 0
  · rw [if_pos (decide_eq_true hneg), Nat.cast_natAbs, abs_of_neg hneg]
    push_cast
    ring
  · rw [decide_eq_false hneg, if_neg Bool.false_ne_true, Nat.cast_natAbs,
      abs_of_nonneg (not_lt.mp hneg)]

section Scaled

variable (zeroSign : Bool) {n e : ℤ}

/-- A scaled integer that a double can hold is not rounded. -/
theorem toRat?_ofScaled (h : Representable (n * 2 ^ e)) :
    (ofScaled zeroSign n e).toRat? = some ((n : ℚ) * 2 ^ e) := by
  unfold ofScaled
  split
  next h0 => simp [h0]
  next h0 =>
    -- rounding sees the magnitude; the sign is put back afterwards
    have hmagnitude : Representable ((scaleNum n.natAbs e : ℚ) / scaleDen e) := by
      rw [scaleNum_div_scaleDen, Nat.cast_natAbs, Int.cast_abs]
      have := h.abs
      rwa [abs_mul, abs_of_nonneg (show (0 : ℚ) ≤ 2 ^ e by positivity)] at this
    rw [toRat?_ofRatio (scaleDen_pos e) _ hmagnitude, scaleNum_div_scaleDen, signed_natAbs]

/-- A scaled integer away from the end of the format rounds to a number. -/
theorem exists_toRat?_ofScaled {bits : ℕ} (hBits : bits ≤ 1010)
    (h : |(n * 2 ^ e : ℚ)| ≤ 2 ^ bits) :
    ∃ q, (ofScaled zeroSign n e).toRat? = some q ∧ |q| ≤ 2 ^ (bits + 1) := by
  unfold ofScaled
  split
  next h0 => exact ⟨0, toRat?_zero _, by simp⟩
  next h0 =>
    refine exists_toRat?_ofRatio (scaleDen_pos e) _ hBits ?_
    rw [scaleNum_div_scaleDen, Nat.cast_natAbs, Int.cast_abs]
    rwa [abs_mul, abs_of_nonneg (show (0 : ℚ) ≤ 2 ^ e by positivity)] at h

end Scaled

/-- An aligned significand denotes the same number at its exponent. -/
theorem alignedTo_mul (s : Bool) (m : ℕ) {g e : ℤ} (h : g ≤ e) :
    (alignedTo g s m e : ℚ) * 2 ^ g = signed s (m * 2 ^ e) := by
  obtain ⟨d, hd⟩ := Int.eq_ofNat_of_zero_le (show 0 ≤ e - g by omega)
  have hpow : (2 : ℚ) ^ e = 2 ^ d * 2 ^ g := by
    rw [← zpow_natCast, ← zpow_add₀ two_ne_zero]
    congr 1
    omega
  rw [alignedTo, signed, hd, Int.toNat_natCast, hpow, Nat.pow_eq]
  split <;> push_cast <;> ring

/-- The exact sum of two doubles, before it is rounded. -/
theorem add_eq_ofScaled {x y : Double} {a b : ℚ} (hx : x.toRat? = some a)
    (hy : y.toRat? = some b) :
    ∃ (zeroSign : Bool) (n e : ℤ), x.add y = ofScaled zeroSign n e ∧ (n * 2 ^ e : ℚ) = a + b := by
  cases x with
  | finite s m e =>
    cases y with
    | finite t n f =>
      obtain rfl : signed s (m * 2 ^ e) = a := Option.some.inj hx
      obtain rfl : signed t (n * 2 ^ f) = b := Option.some.inj hy
      refine ⟨s && t, alignedTo (min e f) s m e + alignedTo (min e f) t n f, min e f, rfl, ?_⟩
      rw [Int.cast_add, add_mul, alignedTo_mul s m (min_le_left e f),
        alignedTo_mul t n (min_le_right e f)]
    | _ => cases hy
  | _ => cases hx

theorem toRat?_half : half.toRat? = some (1 / 2) := by
  rw [half, toRat?, signed]
  norm_num

/-- A rounded sum may leave the range of doubles, but it is a number. -/
theorem ofScaled_ne_nan (zeroSign : Bool) (n e : ℤ) : ofScaled zeroSign n e ≠ .nan := by
  have hnormalize (s : Bool) (m : ℕ) (e : ℤ) : normalize s m e ≠ .nan := by
    unfold normalize
    split_ifs <;> nofun
  unfold ofScaled
  split
  · nofun
  · unfold ofRatio
    split
    · nofun
    · exact hnormalize _ _ _

/-- Integers of 53 bits are doubles. -/
theorem toRat?_ofInt {n : ℤ} (h : n.natAbs < 2 ^ 53) : (ofInt n).toRat? = some n := by
  have hmagnitude : Representable ((n.natAbs : ℚ) / (1 : ℕ)) :=
    ⟨n.natAbs, 0, by rwa [Int.natAbs_natCast], by decide, by decide, by simp⟩
  rw [ofInt, toRat?_ofRatio Nat.one_pos _ hmagnitude, div_eq_mul_inv, signed_natAbs]
  simp

theorem exists_toRat?_ofInt {n : ℤ} {bits : ℕ} (hBits : bits ≤ 1010) (h : n.natAbs ≤ 2 ^ bits) :
    ∃ q, (ofInt n).toRat? = some q ∧ |q| ≤ 2 ^ (bits + 1) := by
  refine exists_toRat?_ofRatio Nat.one_pos _ hBits ?_
  rw [Nat.cast_one, div_one]
  exact_mod_cast h

/-- A double with a value is what converting the integer gives. -/
theorem ofInt?_of_toRat? {n : ℤ} {q : ℚ} (h : (ofInt n).toRat? = some q) :
    ofInt? n = some (ofInt n) := by
  unfold ofInt?
  cases hx : ofInt n with
  | finite s m e => rfl
  | nan => simp [hx, toRat?] at h
  | infinity s => simp [hx, toRat?] at h

end Keyset.Double

namespace Keyset.Number

open Double

/-! ## Rounding half up -/

/-- What rounding half up gives, once the conversion and the sum have values. -/
theorem roundHalfUp_of_toRat? {n : ℤ} {q r : ℚ} (hn : (ofInt n).toRat? = some q)
    (hsum : ((ofInt n).add half).toRat? = some r) : (Number.int n).roundHalfUp = .ok ⌊r⌋ := by
  simp only [roundHalfUp, toDouble, ofInt?_of_toRat? hn, bind, Except.bind,
    floor?_of_toRat? hsum]
  rfl

/-- An integer is converted to a finite double, or is out of their range. -/
theorem toDouble_int_cases (n : ℤ) :
    (∃ s m e, (Number.int n).toDouble = .ok (.finite s m e)) ∨
      (Number.int n).toDouble = .error .overflow := by
  rw [toDouble, ofInt?]
  cases ofInt n with
  | nan => exact Or.inr rfl
  | infinity s => exact Or.inr rfl
  | finite s m e => exact Or.inl ⟨s, m, e, rfl⟩

/-- An integer is rounded, or is out of the range of doubles. -/
theorem roundHalfUp_int_cases (n : ℤ) :
    (∃ r, (Number.int n).roundHalfUp = .ok r) ∨ (Number.int n).roundHalfUp = .error .overflow := by
  obtain ⟨s, m, e, hn⟩ | hn := toDouble_int_cases n
  · -- the sum of two finite numbers is finite or an infinity
    obtain ⟨z, k, f, hsum⟩ : ∃ z k f, (Double.finite s m e).add half = ofScaled z k f :=
      ⟨_, _, _, rfl⟩
    simp only [roundHalfUp, hn, bind, Except.bind, hsum]
    cases hscaled : ofScaled z k f with
    | nan => exact absurd hscaled (ofScaled_ne_nan z k f)
    | infinity t => exact Or.inr rfl
    | finite t n g => exact Or.inl ⟨_, rfl⟩
  · rw [roundHalfUp, hn]
    exact Or.inr rfl

/-- **Rounding keeps integers of 52 bits**, although they pass through a double. -/
theorem roundHalfUp_int {n : ℤ} (h : n.natAbs ≤ 2 ^ 52) : (Number.int n).roundHalfUp = .ok n := by
  -- one more than `2 ^ 53` halves is a tie, and the only one in the range
  by_cases hlast : n = 4503599627370496
  · rw [hlast]
    rfl
  have hn : (ofInt n).toRat? = some n := toRat?_ofInt (by omega)
  obtain ⟨z, k, e, hadd, hk⟩ := add_eq_ofScaled hn toRat?_half
  -- with one half more there is one bit more, after the point
  have hsum : Representable (n + 1 / 2) :=
    ⟨2 * n + 1, -1, by omega, by decide, by decide, by push_cast; ring⟩
  rw [← hk] at hsum
  rw [roundHalfUp_of_toRat? hn (by rw [hadd]; exact toRat?_ofScaled z hsum), hk]
  congr 1
  rw [Int.floor_eq_iff]
  constructor <;> linarith

/-- Rounding gives an integer as long as doubles reach, and one of the same size. -/
theorem exists_roundHalfUp_int {n : ℤ} (bits : ℕ) (hBits : bits ≤ 1008)
    (h : n.natAbs ≤ 2 ^ bits) :
    ∃ r, (Number.int n).roundHalfUp = .ok r ∧ r.natAbs ≤ 2 ^ (bits + 4) := by
  obtain ⟨q, hq, hqBound⟩ := exists_toRat?_ofInt (by omega) h
  obtain ⟨z, k, e, hadd, hk⟩ := add_eq_ofScaled hq toRat?_half
  have hpow : (1 : ℚ) ≤ 2 ^ (bits + 1) := one_le_pow₀ one_le_two
  -- one half is little beside the bound
  have hkBound : |(k * 2 ^ e : ℚ)| ≤ 2 ^ (bits + 2) := by
    rw [hk, pow_succ]
    rw [abs_le] at hqBound ⊢
    constructor <;> linarith
  obtain ⟨r, hr, hrBound⟩ := exists_toRat?_ofScaled z (by omega) hkBound
  refine ⟨⌊r⌋, roundHalfUp_of_toRat? hq (by rw [hadd]; exact hr), ?_⟩
  have hfloor : |(⌊r⌋ : ℚ)| ≤ 2 ^ (bits + 4) := by
    have hle := Int.floor_le r
    have hlt := Int.lt_floor_add_one r
    have hstep : (2 : ℚ) ^ (bits + 4) = 2 * 2 ^ (bits + 2 + 1) := by ring
    have hpow' : (1 : ℚ) ≤ 2 ^ (bits + 2 + 1) := one_le_pow₀ one_le_two
    rw [abs_le] at hrBound ⊢
    constructor <;> linarith
  rw [← Int.cast_abs, Int.abs_eq_natAbs] at hfloor
  exact_mod_cast hfloor

end Keyset.Number
