import Keyset.Proofs.Number.Rounding

/-!
# Keyset — which double a number is rounded to

Rounding is described here without the format: a number goes to the nearest that 53 bits can
hold, and of two that are equally near to the one with the even significand. That leaves one
number, and it never turns two numbers around.

* `Double.IsRounding` — what a number is rounded to; `IsRounding.unique`, `IsRounding.mono`.
* `Double.Rounded` — a number and the significand it is rounded to; `Rounded.isRounding`.
* `Double.limit` — the least number that is rounded to an infinity; `Rounded.lt_limit`,
  `Rounded.inRange`.
* `Double.isRounding_ofRatio`, `Double.exists_toRat?_ofRatio_iff` — `ofRatio` rounds in this way,
  and has a value exactly below the limit.
* `Double.isRounding_ofScaled`, `Double.isRounding_ofInt` — so do sums, and integers that are
  converted.
-/

namespace Keyset.Double

/-! ## Nearest numbers -/

/-- What a number is rounded to: the nearest that a double can hold. A tie goes to the even
significand, which is an even multiple of the distance to the neighbour. -/
structure IsRounding (q r : ℚ) : Prop where
  representable : Representable r
  nearest : ∀ p, Representable p → |q - r| ≤ |q - p|
  even : ∀ p, Representable p → p ≠ r → |q - p| = |q - r| → ∃ k : ℤ, r = k * (2 * (p - r))

/-- A number is rounded to one number. -/
theorem IsRounding.unique {q r r' : ℚ} (h : IsRounding q r) (h' : IsRounding q r') : r = r' := by
  by_contra hne
  have htie : |q - r'| = |q - r| :=
    le_antisymm (h'.nearest r h.representable) (h.nearest r' h'.representable)
  obtain ⟨k, hk⟩ := h.even r' h'.representable (Ne.symm hne) htie
  obtain ⟨l, hl⟩ := h'.even r h.representable hne htie.symm
  -- both are even multiples of their distance, and one multiple more than the other
  have hzero : (r' - r) * ((1 + 2 * (k + l) : ℤ) : ℚ) = 0 := by
    push_cast
    linarith
  rcases mul_eq_zero.mp hzero with hsame | hodd
  · exact hne (sub_eq_zero.mp hsame).symm
  · have hodd : 1 + 2 * (k + l) = 0 := by exact_mod_cast hodd
    omega

/-- What is at least as near to a number as to a lesser one is not before their middle. -/
theorem add_le_of_abs_le {q v w : ℚ} (hwv : w < v) (h : |q - v| ≤ |q - w|) : v + w ≤ 2 * q := by
  have hsquares := sq_le_sq.mpr h
  nlinarith

theorem abs_neg_sub (a b : ℚ) : |-a - b| = |a - -b| := by
  rw [← abs_neg, neg_sub', neg_neg]

/-- Rounding takes no notice of the sign. -/
theorem IsRounding.neg {q r : ℚ} (h : IsRounding q r) : IsRounding (-q) (-r) where
  representable := h.representable.neg
  nearest p hp := by
    rw [abs_neg_sub, abs_neg_sub, neg_neg]
    exact h.nearest (-p) hp.neg
  even p hp hne htie := by
    rw [abs_neg_sub, abs_neg_sub, neg_neg] at htie
    obtain ⟨k, hk⟩ := h.even (-p) hp.neg (fun hp' => hne (by rw [← hp', neg_neg])) htie
    exact ⟨k, by linarith⟩

/-- Rounding does not turn two numbers around. -/
theorem IsRounding.mono {a b x y : ℚ} (ha : IsRounding a x) (hb : IsRounding b y) (h : a ≤ b) :
    x ≤ y := by
  rcases h.eq_or_lt with rfl | hlt
  · exact (ha.unique hb).le
  by_contra hturned
  rw [not_le] at hturned
  -- one of the two would be on the wrong side of the middle between the results
  have hafter : x + y ≤ 2 * a := add_le_of_abs_le hturned (ha.nearest y hb.representable)
  have hbefore : -y + -x ≤ 2 * -b :=
    add_le_of_abs_le (neg_lt_neg hturned) (hb.neg.nearest (-x) ha.representable.neg)
  linarith

/-- A number that a double can hold is not rounded. -/
theorem isRounding_self {q : ℚ} (h : Representable q) : IsRounding q q where
  representable := h
  nearest p _ := by simp
  even p _ hne htie := by
    rw [sub_self, abs_zero, abs_eq_zero, sub_eq_zero] at htie
    exact absurd htie.symm hne

theorem IsRounding.eq_self {q r : ℚ} (h : IsRounding q r) (hq : Representable q) : r = q :=
  h.unique (isRounding_self hq)

/-! ## Rounding a quotient -/

theorem div_lt_half_iff {rest den : ℕ} (hden : 0 < den) :
    (rest / den : ℚ) < 1 / 2 ↔ 2 * rest < den := by
  rw [div_lt_div_iff₀ (by exact_mod_cast hden) two_pos, one_mul, mul_comm]
  norm_cast

theorem half_lt_div_iff {rest den : ℕ} (hden : 0 < den) :
    (1 / 2 : ℚ) < rest / den ↔ den < 2 * rest := by
  rw [div_lt_div_iff₀ two_pos (by exact_mod_cast hden), one_mul, mul_comm]
  norm_cast

/-- Rounding to an integer moves a quotient by no more than one half, and a quotient that is
moved by one half to an even integer. -/
theorem roundHalfEven_spec {num den : ℕ} (hden : 0 < den) :
    |(num / den : ℚ) - roundHalfEven num den| ≤ 1 / 2 ∧
      (|(num / den : ℚ) - roundHalfEven num den| = 1 / 2 → Even (roundHalfEven num den)) := by
  have hdenQ : (0 : ℚ) < den := by exact_mod_cast hden
  have hsplit : num = den * (num / den) + num % den := (Nat.div_add_mod num den).symm
  have hrest : num % den < den := Nat.mod_lt _ hden
  set q := num / den
  set rest := num % den
  -- the quotient is the integer below and the part of the divisor that is left
  have hquotient : (num / den : ℚ) = q + rest / den := by
    rw [hsplit]
    push_cast
    field_simp
  have hpart : (0 : ℚ) ≤ rest / den := by positivity
  have hround : roundHalfEven num den = if 2 * rest < den then q else if den < 2 * rest then q + 1
      else if q % 2 = 0 then q else q + 1 := rfl
  rw [hround, hquotient]
  rcases lt_trichotomy (2 * rest) den with hless | hhalf | hmore
  · have hpart' : (rest / den : ℚ) < 1 / 2 := (div_lt_half_iff hden).mpr hless
    rw [if_pos hless, add_sub_cancel_left, abs_of_nonneg hpart]
    exact ⟨hpart'.le, fun h => absurd h hpart'.ne⟩
  · -- the part is one half, and the even one of the two neighbours is chosen
    have hpart' : (rest / den : ℚ) = 1 / 2 := le_antisymm
      (not_lt.mp fun h => hhalf.not_gt ((half_lt_div_iff hden).mp h))
      (not_lt.mp fun h => hhalf.not_lt ((div_lt_half_iff hden).mp h))
    rw [if_neg hhalf.not_lt, if_neg hhalf.not_gt, hpart']
    split
    next heven =>
      rw [add_sub_cancel_left, abs_of_pos one_half_pos]
      exact ⟨le_rfl, fun _ => Nat.even_iff.mpr heven⟩
    next hodd =>
      push_cast
      rw [show (q + 1 / 2 - (q + 1) : ℚ) = -(1 / 2) by ring, abs_neg, abs_of_pos one_half_pos]
      exact ⟨le_rfl, fun _ => Nat.even_add_one.mpr (by rwa [Nat.even_iff])⟩
  · have hpart' : (1 / 2 : ℚ) < rest / den := (half_lt_div_iff hden).mpr hmore
    have hone : (rest / den : ℚ) < 1 := by
      rw [div_lt_one hdenQ]
      exact_mod_cast hrest
    rw [if_neg hmore.not_gt, if_pos hmore]
    push_cast
    rw [add_sub_add_left_eq_sub, abs_of_neg (by linarith)]
    exact ⟨by linarith, fun h => by linarith⟩

/-- A number is rounded to `m` units of `2 ^ e`: the nearest number of them, and the even one in a
tie. The unit is the least of the format, or so little that the significand is full. -/
structure Rounded (q : ℚ) (m : ℕ) (e : ℤ) : Prop where
  le : m ≤ 2 ^ 53
  min : minExponent ≤ e
  full : e = minExponent ∨ (2 : ℚ) ^ (e + 52) ≤ q
  lt : q < 2 ^ (e + 53)
  near : |q / 2 ^ e - m| ≤ 1 / 2
  even : |q / 2 ^ e - m| = 1 / 2 → Even m

/-- A quotient is rounded to a significand at its exponent before it is put into canonical form. -/
theorem ofRatio_spec {num den : ℕ} (hNum : 0 < num) (hDen : 0 < den) (s : Bool) :
    ∃ (m : ℕ) (e : ℤ), ofRatio s num den = normalize s m e ∧ Rounded (num / den) m e := by
  obtain ⟨hlow, hhigh⟩ := ratioExponent_spec hNum hDen
  set e := max minExponent (ratioExponent num den) with he
  have hle : ratioExponent num den ≤ e := le_max_right _ _
  have hscaledDen := scaledDen_pos hDen e
  -- scaling by the exponent makes the quotient one of units
  have hquotient : ((num * scaleDen e : ℕ) / (den * scaleNum 1 e : ℕ) : ℚ) = num / den / 2 ^ e := by
    have hscaledDenQ : ((den * scaleNum 1 e : ℕ) : ℚ) ≠ 0 := by exact_mod_cast hscaledDen.ne'
    rw [div_eq_iff hscaledDenQ]
    exact scaled_eq hDen (by rw [div_mul_cancel₀ _ (by positivity)])
  have hnearest := @roundHalfEven_spec (num * scaleDen e) _ hscaledDen
  rw [hquotient] at hnearest
  refine ⟨roundHalfEven (num * scaleDen e) (den * scaleNum 1 e), e, ?_,
    significand_le hDen hNum hle, le_max_left _ _, ?full, ?lt, hnearest.1, hnearest.2⟩
  · rw [ofRatio, if_neg hNum.ne']
  case full =>
    rcases max_choice minExponent (ratioExponent num den) with hmin | hratio
    · exact Or.inl (he.trans hmin)
    · right
      rwa [he, hratio]
  case lt =>
    refine hhigh.trans_le (zpow_le_zpow_right₀ one_le_two ?_)
    omega

/-- A significand is in the range of the format: it is zero, or the exponent is not too great. -/
def InRange (m : ℕ) (e : ℤ) : Prop :=
  m = 0 ∨ e < maxExponent ∨ e = maxExponent ∧ m < 2 ^ 53

/-- The canonical form has a value exactly in the range of the format. -/
theorem toRat?_normalize_eq_some_iff {s : Bool} {m : ℕ} {e : ℤ} {r : ℚ} (hm : m ≤ 2 ^ 53) :
    (normalize s m e).toRat? = some r ↔ InRange m e ∧ r = signed s (m * 2 ^ e) := by
  have hpow : Nat.pow 2 precision = 2 ^ 53 := rfl
  by_cases h0 : m = 0
  · simp [normalize, InRange, h0, eq_comm]
  by_cases hin : InRange m e
  · obtain h | h := hin.resolve_left h0
    · rw [toRat?_normalize s h.le fun _ => h]
      simp [hin, eq_comm]
    · rw [toRat?_normalize s h.1.le fun hfull => absurd hfull h.2.ne]
      simp [hin, eq_comm]
  · -- out of range, the exponent is too great, or becomes so as a full significand is halved
    have hinfinity : normalize s m e = .infinity s := by
      rw [InRange] at hin
      rw [normalize, if_neg h0, hpow]
      split_ifs <;> first | rfl | omega
    simp [hinfinity, toRat?, hin]

theorem representable_zero : Representable 0 := ⟨0, 0, by decide, by decide, by decide, by simp⟩

theorem representable_of_inRange {m : ℕ} {e : ℤ} (hm : m ≤ 2 ^ 53) (he : minExponent ≤ e)
    (h : InRange m e) : Representable (m * 2 ^ e) := by
  rcases Nat.eq_zero_or_pos m with rfl | hpos
  · simpa using representable_zero
  have hle : e ≤ maxExponent := by
    rw [InRange] at h
    omega
  rcases hm.lt_or_eq with hlt | rfl
  · exact ⟨m, e, by rwa [Int.natAbs_natCast], he, hle, by push_cast; ring⟩
  · -- a full significand is halved, and the exponent makes up for it
    have hlt : e < maxExponent := by
      rw [InRange] at h
      omega
    refine ⟨2 ^ 52, e + 1, by decide, by omega, by omega, ?_⟩
    rw [zpow_add_one₀ two_ne_zero]
    push_cast
    ring

/-- A number that a double can hold is a multiple of a power of two, or finer and less than the
least full significand over that power. -/
theorem Representable.multiple_or_lt {p : ℚ} (h : Representable p) {e : ℤ} (he : minExponent ≤ e) :
    (∃ k : ℤ, p = k * 2 ^ e) ∨ minExponent < e ∧ |p| < 2 ^ (e + 52) := by
  obtain ⟨n, f, hn, hf, -, rfl⟩ := h
  rcases le_or_gt e f with hef | hfe
  · obtain ⟨d, hd⟩ := Int.eq_ofNat_of_zero_le (show 0 ≤ f - e by omega)
    refine Or.inl ⟨n * 2 ^ d, ?_⟩
    rw [show f = d + e by omega, zpow_add₀ two_ne_zero, zpow_natCast]
    push_cast
    ring
  · refine Or.inr ⟨by omega, ?_⟩
    -- a finer number has no more than 53 bits, which its exponent keeps below
    have hnBound : |(n : ℚ)| < 2 ^ (53 : ℤ) := by
      rw [← Int.cast_abs, Int.abs_eq_natAbs]
      exact_mod_cast hn
    calc |(n * 2 ^ f : ℚ)| = |(n : ℚ)| * 2 ^ f := by
          rw [abs_mul, abs_of_pos (show (0 : ℚ) < 2 ^ f by positivity)]
      _ < 2 ^ (53 : ℤ) * 2 ^ f := by gcongr
      _ = 2 ^ (53 + f) := (zpow_add₀ two_ne_zero _ _).symm
      _ ≤ 2 ^ (e + 52) := zpow_le_zpow_right₀ one_le_two (by omega)

/-- Another integer is one away from a natural number at least, also by way of a third number. -/
theorem one_le_abs_add_abs (x : ℚ) {m : ℕ} {k : ℤ} (hk : k ≠ m) :
    (1 : ℚ) ≤ |(k : ℚ) - m| ∧ |(k : ℚ) - m| ≤ |x - k| + |x - m| := by
  constructor
  · have : (1 : ℤ) ≤ |k - m| := Int.one_le_abs (sub_ne_zero.mpr hk)
    exact_mod_cast this
  · rw [abs_sub_comm x k]
    exact abs_sub_le _ _ _

/-- An integer within one half is nearest. -/
theorem abs_sub_le_abs_sub {x : ℚ} {m : ℕ} (hnear : |x - m| ≤ 1 / 2) (k : ℤ) :
    |x - m| ≤ |x - k| := by
  by_cases hk : k = m
  · rw [hk, Int.cast_natCast]
  · obtain ⟨hone, htriangle⟩ := one_le_abs_add_abs x hk
    linarith

/-- If another integer is as near, it is the next one. -/
theorem eq_mul_of_tie {x : ℚ} {m : ℕ} (hnear : |x - m| ≤ 1 / 2) (heven : |x - m| = 1 / 2 → Even m)
    {k : ℤ} (hk : k ≠ m) (htie : |x - k| = |x - m|) : ∃ j : ℤ, (m : ℤ) = j * (2 * (k - m)) := by
  obtain ⟨hone, htriangle⟩ := one_le_abs_add_abs x hk
  -- two integers that are both within one half of a number are neighbours
  have hdistance : |k - m| = 1 := by
    have : |((k - m : ℤ) : ℚ)| = (1 : ℤ) := by
      push_cast
      linarith
    exact_mod_cast this
  have hsquare : (k - m) * (k - m) = 1 := by
    rw [← abs_mul_abs_self, hdistance, mul_one]
  obtain ⟨j, hj⟩ := heven (by linarith)
  refine ⟨j * (k - m), ?_⟩
  calc (m : ℤ) = 2 * j * 1 := by omega
    _ = j * (k - m) * (2 * (k - m)) := by
        rw [← hsquare]
        ring

section Rounded

variable {q : ℚ} {m : ℕ} {e : ℤ}

/-- Distances are measured in units. -/
theorem abs_sub_mul_zpow (q x : ℚ) (e : ℤ) : |q - x * 2 ^ e| = |q / 2 ^ e - x| * 2 ^ e := by
  have hunit : (0 : ℚ) < 2 ^ e := by positivity
  rw [← abs_of_pos hunit, ← abs_mul, abs_of_pos hunit, sub_mul, div_mul_cancel₀ _ hunit.ne']

/-- No other number of units is nearer. -/
theorem Rounded.abs_sub_le (h : Rounded q m e) (k : ℤ) : |q - m * 2 ^ e| ≤ |q - k * 2 ^ e| := by
  rw [abs_sub_mul_zpow, abs_sub_mul_zpow]
  exact mul_le_mul_of_nonneg_right (abs_sub_le_abs_sub h.near k) (by positivity)

/-- Finer numbers lie below the least full significand, which is nearer already. -/
theorem Rounded.abs_sub_lt (h : Rounded q m e) {p : ℚ} (hmin : minExponent < e)
    (hp : |p| < 2 ^ (e + 52)) : |q - m * 2 ^ e| < |q - p| := by
  have hfull := h.full.resolve_left hmin.ne'
  have hleast : ((2 ^ 52 : ℤ) : ℚ) * 2 ^ e = 2 ^ (e + 52) := by
    rw [zpow_add₀ two_ne_zero, mul_comm]
    norm_cast
  calc |q - m * 2 ^ e| ≤ |q - 2 ^ (e + 52)| := by
        rw [← hleast]
        exact h.abs_sub_le _
    _ = q - 2 ^ (e + 52) := abs_of_nonneg (sub_nonneg.mpr hfull)
    _ < q - p := by linarith [le_abs_self p]
    _ ≤ |q - p| := le_abs_self _

/-- Of two numbers of units that are equally near, the even one is chosen. -/
theorem Rounded.exists_of_tie (h : Rounded q m e) {k : ℤ} (hk : k ≠ m)
    (htie : |q - k * 2 ^ e| = |q - m * 2 ^ e|) :
    ∃ j : ℤ, (m * 2 ^ e : ℚ) = j * (2 * (k * 2 ^ e - m * 2 ^ e)) := by
  have hunit : (2 : ℚ) ^ e ≠ 0 := by positivity
  rw [abs_sub_mul_zpow, abs_sub_mul_zpow, mul_left_inj' hunit] at htie
  obtain ⟨j, hj⟩ := eq_mul_of_tie h.near h.even hk htie
  have hjQ : (m : ℚ) = j * (2 * (k - m)) := by exact_mod_cast hj
  refine ⟨j, ?_⟩
  calc (m * 2 ^ e : ℚ) = j * (2 * (k - m)) * 2 ^ e := by rw [← hjQ]
    _ = j * (2 * (k * 2 ^ e - m * 2 ^ e)) := by ring

/-- A rounded significand in range is nearest among all that doubles can hold. -/
theorem Rounded.isRounding (h : Rounded q m e) (hRange : InRange m e) :
    IsRounding q (m * 2 ^ e) := by
  refine ⟨representable_of_inRange h.le h.min hRange, fun p hp => ?nearest,
    fun p hp hne htie => ?even⟩
  case nearest =>
    rcases hp.multiple_or_lt h.min with ⟨k, rfl⟩ | ⟨hmin, hlt⟩
    · exact h.abs_sub_le k
    · exact (h.abs_sub_lt hmin hlt).le
  case even =>
    rcases hp.multiple_or_lt h.min with ⟨k, rfl⟩ | ⟨hmin, hlt⟩
    · refine h.exists_of_tie (fun hk => hne ?_) htie
      rw [hk, Int.cast_natCast]
    · exact absurd htie (h.abs_sub_lt hmin hlt).ne'

end Rounded

/-! ## The rounded quotient -/

/-- The least number that is rounded to an infinity: half a unit beyond the greatest double. -/
def limit : ℤ := 2 ^ 1024 - 2 ^ 970

theorem limit_eq {e : ℤ} (h : e = maxExponent) : (limit : ℚ) = (2 ^ 53 - 1 / 2) * 2 ^ e := by
  have htop : (2 : ℤ) ^ 1024 = 2 ^ 54 * 2 ^ 970 := by rw [← pow_add]
  have hunit : (2 : ℚ) ^ maxExponent = 2 ^ 970 * 2 := by
    rw [maxExponent, show (971 : ℤ) = (970 : ℕ) + 1 from rfl, zpow_add_one₀ two_ne_zero,
      zpow_natCast]
  rw [limit, htop, h, hunit, Int.cast_sub, Int.cast_mul, Int.cast_pow, Int.cast_pow, Int.cast_ofNat]
  generalize (2 : ℚ) ^ 970 = unit
  ring

/-- The limit lies between the powers of two about the greatest double. -/
theorem limit_bounds :
    (2 : ℚ) ^ (maxExponent + 52) ≤ limit ∧ (limit : ℚ) ≤ 2 ^ (maxExponent + 53) := by
  rw [limit_eq rfl, zpow_add₀ two_ne_zero, zpow_add₀ two_ne_zero, mul_comm, mul_comm (2 ^ maxExponent)]
  constructor <;> gcongr <;> norm_num

section Limit

variable {q : ℚ} {m : ℕ} {e : ℤ}

/-- Above the least unit the significand is full, or one less. -/
theorem Rounded.le_significand (h : Rounded q m e) (he : e ≠ minExponent) : 2 ^ 52 ≤ m + 1 := by
  have hunit : (0 : ℚ) < 2 ^ e := by positivity
  have hfull := h.full.resolve_left he
  rw [zpow_add₀ two_ne_zero, mul_comm, ← le_div_iff₀ hunit] at hfull
  have hnear := (abs_le.mp h.near).2
  have hcast : (2 ^ 52 : ℚ) ≤ m + 1 := by
    have : (2 : ℚ) ^ (52 : ℤ) = 2 ^ 52 := by norm_cast
    linarith
  exact_mod_cast hcast

/-- Beyond the limit the exponent is the greatest at least. -/
theorem Rounded.maxExponent_le (h : Rounded q m e) (hOver : limit ≤ q) : maxExponent ≤ e := by
  have := (zpow_lt_zpow_iff_right₀ (one_lt_two (α := ℚ))).mp
    ((limit_bounds.1.trans hOver).trans_lt h.lt)
  omega

/-- Beyond the limit, at the greatest exponent, the significand is the next power of two: the
one before it is odd, and loses the tie. -/
theorem Rounded.significand_of_limit_le (h : Rounded q m e) (he : e = maxExponent)
    (hOver : limit ≤ q) : m = 2 ^ 53 := by
  have hunit : (0 : ℚ) < 2 ^ e := by positivity
  rw [limit_eq he, ← le_div_iff₀ hunit] at hOver
  have hnear := abs_le.mp h.near
  have hm : 2 ^ 53 ≤ m + 1 := by
    exact_mod_cast (by linarith [hnear.2] : (2 ^ 53 : ℚ) ≤ m + 1)
  by_contra hne
  obtain rfl : m = 2 ^ 53 - 1 := by
    have := h.le
    omega
  -- half a unit beyond the greatest double is as near to it as to the next power
  have heven := h.even (by
    rw [abs_of_nonneg (by push_cast; linarith)]
    push_cast at hnear ⊢
    linarith)
  rw [Nat.even_iff] at heven
  omega

/-- What is rounded to a significand in range is below the limit. -/
theorem Rounded.lt_limit (h : Rounded q m e) (hRange : InRange m e) : q < limit := by
  have hmin : minExponent < maxExponent := by decide
  by_contra hover
  rw [not_lt] at hover
  have hmax := h.maxExponent_le hover
  have hpos := h.le_significand (by omega)
  rw [InRange] at hRange
  obtain ⟨hlast, hm⟩ : e = maxExponent ∧ m < 2 ^ 53 := by omega
  exact hm.ne (h.significand_of_limit_le hlast hover)

/-- What is below the limit is rounded to a significand in range. -/
theorem Rounded.inRange (h : Rounded q m e) (hBelow : q < limit) : InRange m e := by
  have hmin : minExponent < maxExponent := by decide
  have hm := h.le
  by_contra hout
  rw [InRange] at hout
  rcases (show maxExponent ≤ e by omega).eq_or_lt with hlast | hgreat
  · -- the next power of two is no more than half a unit away
    obtain rfl : m = 2 ^ 53 := by omega
    have hunit : (0 : ℚ) < 2 ^ e := by positivity
    have hnear := (abs_le.mp h.near).1
    rw [limit_eq hlast.symm, ← div_lt_iff₀ hunit] at hBelow
    push_cast at hnear
    linarith
  · have hfull := h.full.resolve_left (by omega)
    have : (2 : ℚ) ^ (maxExponent + 53) ≤ 2 ^ (e + 52) :=
      zpow_le_zpow_right₀ one_le_two (by omega)
    linarith [limit_bounds.2]

end Limit

section Ratio

variable {num den : ℕ} (hDen : 0 < den) (s : Bool)

include hDen

/-- **A quotient is rounded to the nearest double**, if it has a value. -/
theorem isRounding_ofRatio {r : ℚ} (h : (ofRatio s num den).toRat? = some r) :
    IsRounding (signed s (num / den)) r := by
  rcases Nat.eq_zero_or_pos num with rfl | hNum
  · obtain rfl : 0 = r := by simpa [ofRatio] using h
    simpa using isRounding_self representable_zero
  obtain ⟨m, e, hround, hrounded⟩ := ofRatio_spec hNum hDen s
  rw [hround, toRat?_normalize_eq_some_iff hrounded.le] at h
  obtain ⟨hrange, rfl⟩ := h
  have hmagnitude := hrounded.isRounding hrange
  cases s with
  | false => exact hmagnitude
  | true => exact hmagnitude.neg

/-- A quotient is rounded to a finite double exactly below the limit. -/
theorem exists_toRat?_ofRatio_iff :
    (∃ r, (ofRatio s num den).toRat? = some r) ↔ (num / den : ℚ) < limit := by
  rcases Nat.eq_zero_or_pos num with rfl | hNum
  · refine iff_of_true ⟨0, by simp [ofRatio]⟩ ?_
    rw [Nat.cast_zero, zero_div]
    exact lt_of_lt_of_le (by positivity) limit_bounds.1
  obtain ⟨m, e, hround, hrounded⟩ := ofRatio_spec hNum hDen s
  rw [hround]
  simp only [toRat?_normalize_eq_some_iff hrounded.le, exists_and_left, exists_eq, and_true]
  exact ⟨hrounded.lt_limit, hrounded.inRange⟩

end Ratio

/-! ## Rounded sums and integers -/

section Scaled

variable (zeroSign : Bool) {n e : ℤ}

theorem isRounding_ofScaled {r : ℚ} (h : (ofScaled zeroSign n e).toRat? = some r) :
    IsRounding (n * 2 ^ e) r := by
  unfold ofScaled at h
  split at h
  next h0 =>
    obtain rfl : 0 = r := by simpa using h
    simpa [h0] using isRounding_self representable_zero
  next h0 =>
    rw [← signed_natAbs, ← scaleNum_div_scaleDen]
    exact isRounding_ofRatio (scaleDen_pos e) _ h

theorem exists_toRat?_ofScaled_iff :
    (∃ r, (ofScaled zeroSign n e).toRat? = some r) ↔ |(n * 2 ^ e : ℚ)| < limit := by
  unfold ofScaled
  split
  next h0 =>
    refine iff_of_true ⟨0, toRat?_zero _⟩ ?_
    rw [h0, Int.cast_zero, zero_mul, abs_zero]
    exact lt_of_lt_of_le (by positivity) limit_bounds.1
  next h0 =>
    rw [exists_toRat?_ofRatio_iff (scaleDen_pos e), scaleNum_div_scaleDen, Nat.cast_natAbs,
      Int.cast_abs, abs_mul, abs_of_nonneg (show (0 : ℚ) ≤ 2 ^ e by positivity)]

end Scaled

theorem isRounding_ofInt {n : ℤ} {r : ℚ} (h : (ofInt n).toRat? = some r) : IsRounding n r := by
  have hvalue : signed (n < 0) ((n.natAbs : ℚ) / (1 : ℕ)) = n := by
    rw [div_eq_mul_inv, signed_natAbs]
    simp
  rw [← hvalue]
  exact isRounding_ofRatio Nat.one_pos _ h

theorem exists_toRat?_ofInt_iff {n : ℤ} : (∃ r, (ofInt n).toRat? = some r) ↔ |n| < limit := by
  rw [ofInt, exists_toRat?_ofRatio_iff Nat.one_pos, Nat.cast_one, div_one, Nat.cast_natAbs]
  norm_cast

end Keyset.Double
