import Keyset.Proofs.Bytes.Forest

/-!
# Keyset — depths and room

Splitting the last root gives each leaf its depth, and at every moment the nodes at hand share
the words of the greatest length between them. Depths are cut at the limit; what the nodes
that were cut take too much is counted, and made up for by longer words elsewhere.

* `Balanced` — nodes share all words, up to what is counted; `Splits.balanced`.
* `Divided` — two children below a parent; `Balanced.divide` and `Balanced.cutShort`.
* `weigh` — words are counted by their lengths; `Balanced.crowded`.
* `Crowded.makeRoom` — longer words make up for what was cut.
-/

namespace Keyset.CodeLengths

/-! ## Depths -/

/-- Note the depth of a node below its parent, cut off at the limit. -/
def deepen (limit : Nat) (parent : Nat → Nat) (acc : Array Nat × Nat) (n : Nat) : Array Nat × Nat :=
  let depth := acc.1[parent n]?.getD 0 + 1
  if limit < depth then (acc.1.setIfInBounds n limit, acc.2 + 1)
  else (acc.1.setIfInBounds n depth, acc.2)

theorem depths_eq (limit : Nat) (parent : Array Nat) (order : List Nat) (nodes : Nat) :
    depths limit parent order nodes = order.tail.foldl
      (deepen limit fun n => parent[n]?.getD 0) (Array.replicate nodes 0, 0) := rfl

section Deepen

variable {limit : Nat} {parent : Nat → Nat} {acc : Array Nat × Nat} {n : Nat}

theorem deepen_fst : (deepen limit parent acc n).1 =
    acc.1.setIfInBounds n (min limit (acc.1[parent n]?.getD 0 + 1)) := by
  rw [deepen]
  split
  · rw [Nat.min_eq_left (by omega)]
  · rw [Nat.min_eq_right (by omega)]

theorem deepen_snd : (deepen limit parent acc n).2 =
    acc.2 + if limit < acc.1[parent n]?.getD 0 + 1 then 1 else 0 := by
  rw [deepen]
  split <;> rfl

@[simp] theorem size_deepen : (deepen limit parent acc n).1.size = acc.1.size := by
  rw [deepen_fst, Array.size_setIfInBounds]

@[simp] theorem size_foldl_deepen (limit : Nat) (parent : Nat → Nat) (pairs : List Nat)
    (acc : Array Nat × Nat) : (pairs.foldl (deepen limit parent) acc).1.size = acc.1.size := by
  induction pairs generalizing acc with
  | nil => rfl
  | cons n rest ih => rw [List.foldl_cons, ih, size_deepen]

/-- The depth of a node after one more depth was noted. -/
theorem depth_deepen (i : Nat) (h : n < acc.1.size) : (deepen limit parent acc n).1[i]?.getD 0 =
    if i = n then min limit (acc.1[parent n]?.getD 0 + 1) else acc.1[i]?.getD 0 := by
  rw [deepen_fst]
  by_cases hi : i = n
  · subst hi
    rw [if_pos rfl, Array.getElem?_setIfInBounds_self_of_lt h, Option.getD_some]
  · rw [if_neg hi, Array.getElem?_setIfInBounds_ne (Ne.symm hi)]

end Deepen

/-- A word leaves twice as many words of the greatest length as one that is a bit longer. -/
theorem words_at_depth {limit depth : Nat} (h : depth < limit) :
    2 ^ (limit - depth) = 2 * 2 ^ (limit - (depth + 1)) := by
  rw [← Nat.pow_succ']
  congr 1
  omega

/-- Nodes share the words of the greatest length: each takes those that start at its depth.
What they take too much is half of the number of nodes that were cut, and there are as
many nodes at the limit. -/
structure Balanced (limit : Nat) (acc : Array Nat × Nat) (nodes : List Nat) (excess : Nat) :
    Prop where
  lt : ∀ n ∈ nodes, n < acc.1.size
  le : ∀ n ∈ nodes, acc.1[n]?.getD 0 ≤ limit
  sum : (nodes.map fun n => 2 ^ (limit - acc.1[n]?.getD 0)).sum = 2 ^ limit + excess
  cut : acc.2 = 2 * excess
  atLimit : excess ≤ nodes.countP fun n => acc.1[n]?.getD 0 = limit

section Balanced

variable {limit : Nat} {parent : Nat → Nat} {acc : Array Nat × Nat}

theorem Balanced.congr {nodes nodes' : List Nat} {excess : Nat}
    (h : Balanced limit acc nodes excess) (hPerm : nodes.Perm nodes') :
    Balanced limit acc nodes' excess where
  lt n hn := h.lt n (hPerm.mem_iff.mpr hn)
  le n hn := h.le n (hPerm.mem_iff.mpr hn)
  sum := by rw [← (hPerm.map _).sum_eq, h.sum]
  cut := h.cut
  atLimit := by rw [← hPerm.countP_eq]; exact h.atLimit

/-- The depths after two children of a node were noted. -/
theorem depth_deepen_two (limit : Nat) {p m n : Nat} (hm : parent m = p ∧ m ≠ p) (hn : parent n = p ∧ n ≠ p)
    (hmLt : m < acc.1.size) (hnLt : n < acc.1.size) (i : Nat) :
    (deepen limit parent (deepen limit parent acc m) n).1[i]?.getD 0 =
      if i = n ∨ i = m then min limit (acc.1[p]?.getD 0 + 1) else acc.1[i]?.getD 0 := by
  rw [depth_deepen i (by rwa [size_deepen]), depth_deepen i hmLt, depth_deepen _ hmLt, hn.1, hm.1,
    if_neg (Ne.symm hm.2)]
  by_cases hin : i = n
  · rw [if_pos hin, if_pos (Or.inl hin)]
  · rw [if_neg hin]
    by_cases him : i = m
    · rw [if_pos him, if_pos (Or.inr him)]
    · rw [if_neg him, if_neg (by tauto)]

/-- Two children `m` and `n` of `p` were noted: both are one below it, or at the limit and
counted as cut, and the depths of the other nodes stay. -/
structure Divided (limit : Nat) (acc acc' : Array Nat × Nat) (p m n : Nat) (rest : List Nat) :
    Prop where
  size : acc'.1.size = acc.1.size
  left : acc'.1[m]?.getD 0 = min limit (acc.1[p]?.getD 0 + 1)
  right : acc'.1[n]?.getD 0 = min limit (acc.1[p]?.getD 0 + 1)
  rest : ∀ i ∈ rest, acc'.1[i]?.getD 0 = acc.1[i]?.getD 0
  cut : acc'.2 = acc.2 + 2 * if limit < acc.1[p]?.getD 0 + 1 then 1 else 0

theorem divided_deepen (limit : Nat) {p m n : Nat} {rest : List Nat} (hm : parent m = p ∧ m ≠ p)
    (hn : parent n = p ∧ n ≠ p) (hNodup : (m :: n :: rest).Nodup) (hmLt : m < acc.1.size)
    (hnLt : n < acc.1.size) :
    Divided limit acc (deepen limit parent (deepen limit parent acc m) n) p m n rest := by
  have hdepth := depth_deepen_two limit hm hn hmLt hnLt
  rw [List.nodup_cons, List.nodup_cons, List.mem_cons, not_or] at hNodup
  refine ⟨by rw [size_deepen, size_deepen], ?left, ?right, ?rest, ?cut⟩
  case left => rw [hdepth, if_pos (Or.inr rfl)]
  case right => rw [hdepth, if_pos (Or.inl rfl)]
  case rest =>
    intro i hi
    rw [hdepth i, if_neg]
    rintro (rfl | rfl)
    · exact hNodup.2.1 hi
    · exact hNodup.1.2 hi
  case cut =>
    rw [deepen_snd, deepen_snd, depth_deepen _ hmLt, hn.1, hm.1, if_neg (Ne.symm hm.2)]
    omega

section Divided

variable {acc' : Array Nat × Nat} {p m n : Nat} {rest : List Nat}

/-- The words that start at the new depths: the children's stand in for their parent's. -/
theorem Divided.sum (h : Divided limit acc acc' p m n rest) :
    ((m :: n :: rest).map fun i => 2 ^ (limit - acc'.1[i]?.getD 0)).sum +
        2 ^ (limit - acc.1[p]?.getD 0) =
      ((p :: rest).map fun i => 2 ^ (limit - acc.1[i]?.getD 0)).sum +
        2 * 2 ^ (limit - min limit (acc.1[p]?.getD 0 + 1)) := by
  have hrest : (rest.map fun i => 2 ^ (limit - acc'.1[i]?.getD 0)) =
      rest.map fun i => 2 ^ (limit - acc.1[i]?.getD 0) :=
    List.map_congr_left fun i hi => by rw [h.rest i hi]
  simp only [List.map_cons, List.sum_cons, hrest, h.left, h.right]
  omega

/-- The nodes at the limit, other than the children and their parent, stay at it. -/
theorem Divided.countP (h : Divided limit acc acc' p m n rest) :
    (rest.countP fun i => decide (acc'.1[i]?.getD 0 = limit)) =
      rest.countP fun i => decide (acc.1[i]?.getD 0 = limit) :=
  List.countP_congr fun i hi => by rw [h.rest i hi]

theorem Divided.le (h : Divided limit acc acc' p m n rest)
    (hLe : ∀ i ∈ rest, acc.1[i]?.getD 0 ≤ limit) :
    ∀ i ∈ m :: n :: rest, acc'.1[i]?.getD 0 ≤ limit := by
  simp only [List.forall_mem_cons, h.left, h.right]
  refine ⟨Nat.min_le_left .., Nat.min_le_left .., fun i hi => ?_⟩
  rw [h.rest i hi]
  exact hLe i hi

/-- Below the limit the parent's words are divided between the children. -/
theorem Balanced.divide {excess : Nat} (h : Balanced limit acc (p :: rest) excess)
    (hDivided : Divided limit acc acc' p m n rest) (hLt : ∀ i ∈ m :: n :: rest, i < acc'.1.size)
    (hDeep : acc.1[p]?.getD 0 < limit) : Balanced limit acc' (m :: n :: rest) excess := by
  have hsum := hDivided.sum
  have hlimit := h.atLimit
  rw [h.sum, Nat.min_eq_right hDeep, ← words_at_depth hDeep] at hsum
  rw [List.countP_cons, if_neg (by simpa using hDeep.ne)] at hlimit
  refine ⟨hLt, hDivided.le fun i hi => h.le i (List.mem_cons_of_mem _ hi), by omega, ?cut, ?atLimit⟩
  case cut => rw [hDivided.cut, if_neg (by omega), h.cut, Nat.mul_zero, Nat.add_zero]
  case atLimit =>
    rw [List.countP_cons, List.countP_cons, hDivided.countP]
    omega

/-- At the limit both children are cut: each takes a whole word, of which their parent had one. -/
theorem Balanced.cutShort {excess : Nat} (h : Balanced limit acc (p :: rest) excess)
    (hDivided : Divided limit acc acc' p m n rest) (hLt : ∀ i ∈ m :: n :: rest, i < acc'.1.size)
    (hDeep : acc.1[p]?.getD 0 = limit) : Balanced limit acc' (m :: n :: rest) (excess + 1) := by
  have hmin : min limit (limit + 1) = limit := Nat.min_eq_left (Nat.le_succ _)
  have hsum := hDivided.sum
  have hlimit := h.atLimit
  rw [h.sum, hDeep, hmin, Nat.sub_self, Nat.pow_zero] at hsum
  rw [List.countP_cons, if_pos (by simpa using hDeep)] at hlimit
  refine ⟨hLt, hDivided.le fun i hi => h.le i (List.mem_cons_of_mem _ hi), by omega, ?cut, ?atLimit⟩
  case cut =>
    rw [hDivided.cut, if_pos (by omega), h.cut]
    omega
  case atLimit =>
    rw [List.countP_cons, List.countP_cons, hDivided.countP, hDivided.left, hDivided.right, hDeep,
      hmin, if_pos (by simp)]
    omega

end Divided

/-- Two children take what their parent took, or one word each more if they are cut. -/
theorem Balanced.split {p m n : Nat} {rest : List Nat} {excess : Nat}
    (h : Balanced limit acc (p :: rest) excess) (hm : parent m = p ∧ m ≠ p)
    (hn : parent n = p ∧ n ≠ p) (hNodup : (m :: n :: rest).Nodup) (hmLt : m < acc.1.size)
    (hnLt : n < acc.1.size) :
    ∃ excess', Balanced limit (deepen limit parent (deepen limit parent acc m) n)
      (m :: n :: rest) excess' := by
  have hdivided := divided_deepen limit hm hn hNodup hmLt hnLt
  have hlt : ∀ i ∈ m :: n :: rest,
      i < (deepen limit parent (deepen limit parent acc m) n).1.size := by
    rw [hdivided.size]
    simp only [List.forall_mem_cons]
    exact ⟨hmLt, hnLt, fun i hi => h.lt i (List.mem_cons_of_mem _ hi)⟩
  rcases (h.le p (List.mem_cons_self ..)).lt_or_eq with hdeep | hdeep
  · exact ⟨excess, h.divide hdivided hlt hdeep⟩
  · exact ⟨excess + 1, h.cutShort hdivided hlt hdeep⟩

/-- **Splitting keeps the balance.** -/
theorem Splits.balanced {nodes pairs leaves : List Nat} {excess : Nat}
    (h : Splits parent nodes pairs leaves) (hBalanced : Balanced limit acc nodes excess)
    (hLt : ∀ n ∈ pairs, n < acc.1.size) :
    ∃ excess', Balanced limit (pairs.foldl (deepen limit parent) acc) leaves excess' := by
  induction h generalizing acc excess with
  | done hPerm => exact ⟨excess, hBalanced.congr hPerm⟩
  | split hNodes hm hn hNodup _ ih =>
    simp only [List.forall_mem_cons] at hLt
    obtain ⟨excess', hsplit⟩ := (hBalanced.congr hNodes).split hm hn hNodup hLt.1 hLt.2.1
    rw [List.foldl_cons, List.foldl_cons]
    exact ih hsplit fun n hn => by
      rw [size_deepen, size_deepen]
      exact hLt.2.2 n hn

/-- Depths that are noted are positive; the others stay. -/
theorem depth_foldl (parent : Nat → Nat) (hLimit : 0 < limit) {pairs : List Nat} (hLt : ∀ n ∈ pairs, n < acc.1.size)
    (i : Nat) : if i ∈ pairs then 0 < (pairs.foldl (deepen limit parent) acc).1[i]?.getD 0
      else (pairs.foldl (deepen limit parent) acc).1[i]?.getD 0 = acc.1[i]?.getD 0 := by
  induction pairs generalizing acc with
  | nil => rfl
  | cons n rest ih =>
    rw [List.forall_mem_cons] at hLt
    have hrest := @ih (deepen limit parent acc n) fun m hm => by
      rw [size_deepen]
      exact hLt.2 m hm
    rw [List.foldl_cons]
    -- if the node is noted again later on, that decides
    by_cases hmem : i ∈ rest
    · rw [if_pos hmem] at hrest
      rwa [if_pos (List.mem_cons_of_mem _ hmem)]
    · rw [if_neg hmem, depth_deepen i hLt.1] at hrest
      by_cases hi : i = n
      · rw [if_pos hi] at hrest
        rw [if_pos (by simp [hi]), hrest]
        omega
      · rw [if_neg hi] at hrest
        rwa [if_neg (by simp [hi, hmem])]

end Balanced

/-! ## Making room -/

/-- The sum of the weights of words, by how many there are of each length up to the limit. -/
def weigh (limit : Nat) (counts : Array Nat) (weight : Nat → Nat) : Nat :=
  ∑ bits ∈ Finset.range (limit + 1), counts[bits]?.getD 0 * weight bits

section Weigh

variable {limit : Nat} {counts : Array Nat}

theorem getD_modify (counts : Array Nat) (bits i : Nat) (f : Nat → Nat) :
    (counts.modify bits f)[i]?.getD 0 =
      if bits = i ∧ i < counts.size then f (counts[i]?.getD 0) else counts[i]?.getD 0 := by
  rw [Array.getElem?_modify]
  by_cases hi : i < counts.size
  · by_cases hbits : bits = i
    · rw [if_pos hbits, if_pos ⟨hbits, hi⟩, Array.getElem?_eq_getElem hi, Option.map_some,
        Option.getD_some, Option.getD_some]
    · rw [if_neg hbits, if_neg (by tauto)]
  · rw [if_neg (fun h : bits = i ∧ i < counts.size => hi h.2), Array.getElem?_eq_none (by omega)]
    split <;> rfl

/-- Changing one number changes the sum by what it weighs. -/
theorem weigh_modify {bits : Nat} (hBits : bits ≤ limit) (hSize : bits < counts.size)
    (f : Nat → Nat) (weight : Nat → Nat) :
    weigh limit (counts.modify bits f) weight + counts[bits]?.getD 0 * weight bits =
      weigh limit counts weight + f (counts[bits]?.getD 0) * weight bits := by
  have hmem : bits ∈ Finset.range (limit + 1) := Finset.mem_range.mpr (by omega)
  have hothers : ∑ i ∈ (Finset.range (limit + 1)).erase bits,
      (counts.modify bits f)[i]?.getD 0 * weight i =
      ∑ i ∈ (Finset.range (limit + 1)).erase bits, counts[i]?.getD 0 * weight i := by
    refine Finset.sum_congr rfl fun i hi => ?_
    rw [getD_modify, if_neg (fun h => Finset.ne_of_mem_erase hi h.1.symm)]
  rw [weigh, weigh, ← Finset.add_sum_erase _ _ hmem, ← Finset.add_sum_erase _ _ hmem, hothers,
    getD_modify, if_pos ⟨rfl, hSize⟩]
  omega

theorem weigh_modify_pred {bits : Nat} (hBits : bits ≤ limit) (hSize : bits < counts.size)
    (hCount : counts[bits]?.getD 0 ≠ 0) (weight : Nat → Nat) :
    weigh limit (counts.modify bits (· - 1)) weight + weight bits = weigh limit counts weight := by
  obtain ⟨n, hn⟩ := Nat.exists_eq_succ_of_ne_zero hCount
  have hchange := weigh_modify hBits hSize (· - 1) weight
  rw [hn, Nat.succ_eq_add_one, Nat.add_sub_cancel, Nat.add_mul] at hchange
  omega

theorem weigh_modify_add_two {bits : Nat} (hBits : bits ≤ limit) (hSize : bits < counts.size)
    (weight : Nat → Nat) :
    weigh limit (counts.modify bits (· + 2)) weight = weigh limit counts weight + 2 * weight bits := by
  have hchange := weigh_modify hBits hSize (· + 2) weight
  rw [Nat.add_mul] at hchange
  omega

/-- The longest words below the limit are found. -/
theorem longestBelow_spec {bits b : Nat} (hb : b < bits) (hCount : counts[b]?.getD 0 ≠ 0) :
    longestBelow counts bits < bits ∧ counts[longestBelow counts bits]?.getD 0 ≠ 0 := by
  induction bits with
  | zero => omega
  | succ bits ih =>
    rw [longestBelow]
    by_cases hlast : counts[bits]?.getD 0 ≠ 0
    · rw [if_pos hlast]
      exact ⟨Nat.lt_succ_self _, hlast⟩
    · have hne : b ≠ bits := by
        rintro rfl
        exact hlast hCount
      rw [if_neg hlast]
      have := ih (by omega)
      exact ⟨by omega, this.2⟩

/-- The words of each length, which take more than there is by the given excess. -/
structure Crowded (limit words excess : Nat) (counts : Array Nat) : Prop where
  size : counts.size = limit + 2
  none : counts[0]?.getD 0 = 0
  words : weigh limit counts (fun _ => 1) = words
  share : weigh limit counts (fun bits => 2 ^ (limit - bits)) = 2 ^ limit + excess
  atLimit : excess ≤ counts[limit]?.getD 0

/-- Where too much is taken, not all words are at the limit. -/
theorem Crowded.exists_below {words excess : Nat} (h : Crowded limit words (excess + 1) counts)
    (hWords : words ≤ 2 ^ limit) : ∃ bits < limit, counts[bits]?.getD 0 ≠ 0 := by
  by_contra hnone
  push Not at hnone
  have hlast (weight : Nat → Nat) :
      weigh limit counts weight = counts[limit]?.getD 0 * weight limit := by
    rw [weigh, Finset.sum_range_succ, Finset.sum_eq_zero fun bits hbits => ?_, Nat.zero_add]
    rw [hnone bits (Finset.mem_range.mp hbits), Nat.zero_mul]
  have hwords := h.words
  have hshare := h.share
  rw [hlast] at hwords hshare
  rw [Nat.sub_self, Nat.pow_zero] at hshare
  omega

/-- Make room for one word that was cut. -/
def makeRoomOnce (limit : Nat) (counts : Array Nat) : Array Nat :=
  let bits := longestBelow counts limit
  ((counts.modify bits (· - 1)).modify (bits + 1) (· + 2)).modify limit (· - 1)

theorem makeRoom_succ (limit fuel overflow : Nat) (counts : Array Nat) :
    makeRoom limit (fuel + 1) overflow counts =
      if overflow ≤ 2 then makeRoomOnce limit counts
      else makeRoom limit fuel (overflow - 2) (makeRoomOnce limit counts) := rfl

/-- A word that becomes one bit longer leaves room for a word of its new length; one that was
at the limit takes it. -/
theorem Crowded.makeRoomOnce {words excess : Nat} (h : Crowded limit words (excess + 1) counts)
    (hWords : words ≤ 2 ^ limit) : Crowded limit words excess (makeRoomOnce limit counts) := by
  obtain ⟨b, hb, hcount⟩ := h.exists_below hWords
  obtain ⟨hbits, hlongest⟩ := longestBelow_spec hb hcount
  have hsize := h.size
  have hatLimit := h.atLimit
  rw [CodeLengths.makeRoomOnce]
  generalize longestBelow counts limit = bits at hbits hlongest
  -- there are no words of no bits, so that a shorter word can become longer
  have hpos : bits ≠ 0 := by
    rintro rfl
    exact hlongest h.none
  -- at the limit there are no fewer words in between, of which one is taken
  have hlimit : ((counts.modify bits (· - 1)).modify (bits + 1) (· + 2))[limit]?.getD 0 ≥
      counts[limit]?.getD 0 := by
    rw [getD_modify, getD_modify, if_neg (fun h : bits = limit ∧ _ => by omega)]
    split <;> omega
  -- whatever words weigh, one goes, two of the next length come, and one at the limit goes
  have hweigh (weight : Nat → Nat) :
      weigh limit (((counts.modify bits (· - 1)).modify (bits + 1) (· + 2)).modify limit (· - 1))
        weight + weight limit + weight bits = weigh limit counts weight + 2 * weight (bits + 1) := by
    rw [weigh_modify_pred le_rfl (by simp only [Array.size_modify]; omega) (by omega),
      weigh_modify_add_two (by omega) (by rw [Array.size_modify]; omega)]
    have hshorter : weigh limit (counts.modify bits (· - 1)) weight + weight bits =
        weigh limit counts weight := weigh_modify_pred (by omega) (by omega) hlongest weight
    omega
  refine ⟨by simp only [Array.size_modify, hsize], ?none, ?words, ?share, ?atLimit⟩
  case none =>
    rw [getD_modify, if_neg (fun h : limit = 0 ∧ _ => by omega), getD_modify,
      if_neg (fun h : bits + 1 = 0 ∧ _ => by omega), getD_modify,
      if_neg (fun h : bits = 0 ∧ _ => hpos h.1), h.none]
  case words =>
    have hwords := hweigh fun _ => 1
    rw [h.words] at hwords
    omega
  case share =>
    -- the two longer words take what the shorter one took
    have hshare := hweigh fun b => 2 ^ (limit - b)
    rw [h.share, Nat.sub_self, Nat.pow_zero, words_at_depth hbits] at hshare
    omega
  case atLimit =>
    rw [getD_modify, if_pos ⟨rfl, by simp only [Array.size_modify]; omega⟩]
    omega

/-- **Making room** for all words that were cut leaves as many words, which take what there is. -/
theorem Crowded.makeRoom {words excess fuel : Nat} (h : Crowded limit words excess counts)
    (hWords : words ≤ 2 ^ limit) (hPos : excess ≠ 0) (hFuel : excess ≤ fuel) :
    Crowded limit words 0 (makeRoom limit fuel (2 * excess) counts) := by
  induction fuel generalizing excess counts with
  | zero => omega
  | succ fuel ih =>
    obtain ⟨excess, rfl⟩ := Nat.exists_eq_succ_of_ne_zero hPos
    have honce := h.makeRoomOnce hWords
    rw [makeRoom_succ]
    by_cases hlast : excess = 0
    · subst hlast
      rw [if_pos (by omega)]
      exact honce
    · rw [if_neg (by omega), show 2 * excess.succ - 2 = 2 * excess by omega]
      exact ih honce hlast (by omega)

end Weigh

/-! ## Numbers of words -/

/-- Count one more word for each length in a list. -/
def tally (counts : Array Nat) (bits : List Nat) : Array Nat :=
  bits.foldl (fun c b => c.modify b (· + 1)) counts

theorem tally_cons (counts : Array Nat) (b : Nat) (bits : List Nat) :
    tally counts (b :: bits) = tally (counts.modify b (· + 1)) bits := rfl

@[simp] theorem size_tally (counts : Array Nat) (bits : List Nat) :
    (tally counts bits).size = counts.size := by
  induction bits generalizing counts with
  | nil => rfl
  | cons b rest ih => rw [tally_cons, ih, Array.size_modify]

theorem getD_tally {counts : Array Nat} {i : Nat} (hi : i < counts.size) (bits : List Nat) :
    (tally counts bits)[i]?.getD 0 = counts[i]?.getD 0 + bits.count i := by
  induction bits generalizing counts with
  | nil => rfl
  | cons b rest ih =>
    rw [tally_cons, ih (by rwa [Array.size_modify]), getD_modify, List.count_cons]
    by_cases hb : b = i
    · rw [if_pos ⟨hb, hi⟩, if_pos (by simpa using hb)]
      omega
    · rw [if_neg (fun h => hb h.1), if_neg (by simpa using hb)]
      omega

/-- What words weigh is added up length by length. -/
theorem weigh_tally {limit : Nat} {counts : Array Nat} (hSize : limit < counts.size)
    {bits : List Nat} (hBits : ∀ b ∈ bits, b ≤ limit) (weight : Nat → Nat) :
    weigh limit (tally counts bits) weight = weigh limit counts weight + (bits.map weight).sum := by
  induction bits generalizing counts with
  | nil => rfl
  | cons b rest ih =>
    rw [List.forall_mem_cons] at hBits
    have hone := weigh_modify hBits.1 (show b < counts.size by omega) (· + 1) weight
    rw [Nat.add_mul, Nat.one_mul] at hone
    rw [tally_cons, ih (by rwa [Array.size_modify]) hBits.2, List.map_cons, List.sum_cons]
    omega

/-- No words at all weigh nothing. -/
theorem weigh_replicate (limit size : Nat) (weight : Nat → Nat) :
    weigh limit (Array.replicate size 0) weight = 0 := by
  refine Finset.sum_eq_zero fun bits _ => ?_
  rw [Array.getElem?_replicate]
  split <;> exact Nat.zero_mul _

/-- The words of nodes that share all words, by how many there are of each length. -/
theorem Balanced.crowded {limit excess : Nat} {acc : Array Nat × Nat} {nodes : List Nat}
    (h : Balanced limit acc nodes excess) (hPos : ∀ n ∈ nodes, acc.1[n]?.getD 0 ≠ 0) :
    Crowded limit nodes.length excess (tally (Array.replicate (limit + 2) 0)
      (nodes.map fun n => acc.1[n]?.getD 0)) := by
  have hle : ∀ b ∈ nodes.map fun n => acc.1[n]?.getD 0, b ≤ limit := by
    simpa using h.le
  have hsize : (Array.replicate (limit + 2) 0 : Array Nat).size = limit + 2 := Array.size_replicate
  -- what is counted length by length is what the nodes have
  have hweigh (weight : Nat → Nat) : weigh limit (tally (Array.replicate (limit + 2) 0)
      (nodes.map fun n => acc.1[n]?.getD 0)) weight =
        (nodes.map fun n => weight (acc.1[n]?.getD 0)).sum := by
    rw [weigh_tally (by omega) hle, weigh_replicate, Nat.zero_add, List.map_map]
    rfl
  have hcount (i : Nat) (hi : i ≤ limit) : (tally (Array.replicate (limit + 2) 0)
      (nodes.map fun n => acc.1[n]?.getD 0))[i]?.getD 0 =
        nodes.countP fun n => acc.1[n]?.getD 0 = i := by
    rw [getD_tally (by omega), Array.getElem?_replicate, if_pos (by omega), Option.getD_some,
      Nat.zero_add, List.count, List.countP_map]
    rfl
  refine ⟨by rw [size_tally, hsize], ?none, ?words, ?share, ?atLimit⟩
  case none =>
    rw [hcount 0 (Nat.zero_le _), List.countP_eq_zero]
    simpa using hPos
  case words => rw [hweigh, List.map_const', List.sum_replicate, smul_eq_mul, Nat.mul_one]
  case share => rw [hweigh, h.sum]
  case atLimit =>
    rw [hcount limit le_rfl]
    exact h.atLimit

end Keyset.CodeLengths
