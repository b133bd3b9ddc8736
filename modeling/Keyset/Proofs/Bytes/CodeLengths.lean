import Keyset.Proofs.Bytes.Depths
import Keyset.Proofs.Bytes.Huffman

/-!
# Keyset — optimal codes are complete

The symbols that occur become the leaves of one tree, whose depths are word lengths; where
depths were cut, the lengths for which room was made are given out anew.

* `Keeps` — symbols that occur are given words; `atLeastTwo_spec`.
* `complete_of_places` — lengths that take all words between them.
* `Leaves` — symbols and their depths; `Leaves.serves_settled`, `Forest.Joins.leaves`.
* `ofFrequencies_spec` — the lengths of an optimal code.
-/

namespace Keyset.CodeLengths

/-! ## Giving out lengths -/

/-- The words of each length in a list, the longest first. -/
def given (limit : Nat) (counts : Array Nat) : List Nat :=
  ((List.range (limit + 1)).reverse.filter (· ≠ 0)).flatMap fun bits =>
    List.replicate (counts[bits]?.getD 0) bits

theorem mem_given {limit bits : Nat} {counts : Array Nat} (h : bits ∈ given limit counts) :
    bits ≠ 0 ∧ bits ≤ limit := by
  obtain ⟨b, hb, hmem⟩ := List.mem_flatMap.mp h
  obtain rfl := List.eq_of_mem_replicate hmem
  rw [List.mem_filter, List.mem_reverse, List.mem_range] at hb
  exact ⟨by simpa using hb.2, by omega⟩

/-- What is given out weighs what the words of each length weigh. -/
theorem sum_given {limit : Nat} {counts : Array Nat} (hNone : counts[0]?.getD 0 = 0)
    (weight : Nat → Nat) : ((given limit counts).map weight).sum = weigh limit counts weight := by
  have hsum (bits : List Nat) : ((bits.flatMap fun b =>
      List.replicate (counts[b]?.getD 0) b).map weight).sum =
        (bits.map fun b => counts[b]?.getD 0 * weight b).sum := by
    induction bits with
    | nil => rfl
    | cons b rest ih =>
      rw [List.flatMap_cons, List.map_append, List.sum_append, ih, List.map_replicate,
        List.sum_replicate, smul_eq_mul, List.map_cons, List.sum_cons]
  -- words of no bits are left out, and there are none
  have hfilter (bits : List Nat) : ((bits.filter (· ≠ 0)).map fun b =>
      counts[b]?.getD 0 * weight b).sum = (bits.map fun b => counts[b]?.getD 0 * weight b).sum := by
    induction bits with
    | nil => rfl
    | cons b rest ih =>
      by_cases hb : b = 0
      · subst hb
        rw [List.filter_cons_of_neg (by simp), ih, List.map_cons, List.sum_cons, hNone,
          Nat.zero_mul, Nat.zero_add]
      · rw [List.filter_cons_of_pos (by simpa using hb), List.map_cons, List.sum_cons, ih,
          List.map_cons, List.sum_cons]
  rw [given, hsum, hfilter, List.map_reverse, List.sum_reverse]
  rfl

/-- Write values at places. -/
def write (pairs : List (Nat × Nat)) (acc : Array Nat) : Array Nat :=
  pairs.foldl (fun acc p => acc.setIfInBounds p.1 p.2) acc

theorem write_cons (p : Nat × Nat) (pairs : List (Nat × Nat)) (acc : Array Nat) :
    write (p :: pairs) acc = write pairs (acc.setIfInBounds p.1 p.2) := rfl

@[simp] theorem size_write (pairs : List (Nat × Nat)) (acc : Array Nat) :
    (write pairs acc).size = acc.size := by
  induction pairs generalizing acc with
  | nil => rfl
  | cons p rest ih => rw [write_cons, ih, Array.size_setIfInBounds]

theorem getElem?_write_of_notMem {pairs : List (Nat × Nat)} {n : Nat}
    (h : n ∉ pairs.map (·.1)) (acc : Array Nat) : (write pairs acc)[n]? = acc[n]? := by
  induction pairs generalizing acc with
  | nil => rfl
  | cons p rest ih =>
    rw [List.map_cons, List.mem_cons, not_or] at h
    rw [write_cons, ih h.2, Array.getElem?_setIfInBounds_ne (Ne.symm h.1)]

/-- Values that are written at different places are read there. -/
theorem map_getD_write {places values : List Nat} (hNodup : places.Nodup)
    (hLength : values.length = places.length) {acc : Array Nat} (hLt : ∀ n ∈ places, n < acc.size) :
    (places.map fun n => (write (places.zip values) acc)[n]?.getD 0) = values := by
  induction places generalizing values acc with
  | nil => rw [List.map_nil, List.length_eq_zero_iff.mp hLength]
  | cons n places ih =>
    obtain ⟨value, values, rfl⟩ := List.exists_cons_of_length_eq_add_one hLength
    rw [List.nodup_cons] at hNodup
    rw [List.forall_mem_cons] at hLt
    have hlength : values.length = places.length := Nat.succ.inj hLength
    -- the places are different, so that no later value overwrites the first one
    have hfresh : n ∉ (places.zip values).map Prod.fst := by
      rw [List.map_fst_zip (by omega)]
      exact hNodup.1
    have hrest := @ih values hNodup.2 hlength (acc.setIfInBounds n value) fun m hm => by
      rw [Array.size_setIfInBounds]
      exact hLt.2 m hm
    rw [List.map_cons, List.zip_cons_cons, write_cons, hrest, getElem?_write_of_notMem hfresh,
      Array.getElem?_setIfInBounds_self_of_lt hLt.1, Option.getD_some]

/-! ## Used symbols -/

/-- The symbols that occur. -/
def used (frequencies : List Nat) : List Nat :=
  (frequencies.zipIdx.filter (·.1 ≠ 0)).map (·.2)

variable {frequencies : List Nat}

theorem nodup_used (frequencies : List Nat) : (used frequencies).Nodup := by
  refine List.Nodup.sublist (List.filter_sublist.map _) ?_
  rw [List.zipIdx_map_snd]
  exact List.nodup_range'

theorem mem_used {s : Nat} : s ∈ used frequencies ↔ frequencies[s]?.getD 0 ≠ 0 := by
  simp only [used, List.mem_map, List.mem_filter, Prod.exists, List.mk_mem_zipIdx_iff_getElem?,
    decide_eq_true_eq, exists_eq_right]
  cases frequencies[s]? with
  | none => simp
  | some n => simp

theorem lt_of_mem_used {s : Nat} (h : s ∈ used frequencies) : s < frequencies.length := by
  by_contra hge
  rw [mem_used, List.getElem?_eq_none (by omega)] at h
  exact h rfl

/-- The frequencies with some symbols counted once instead. -/
theorem getD_map_zipIdx (frequencies : List Nat) (counted : Nat → Prop) [DecidablePred counted]
    {s : Nat} (h : s < frequencies.length) :
    (frequencies.zipIdx.map fun p => if counted p.2 then 1 else p.1)[s]?.getD 0 =
      if counted s then 1 else frequencies[s]?.getD 0 := by
  rw [List.getElem?_map, List.getElem?_zipIdx, List.getElem?_eq_getElem h, Option.map_some,
    Option.map_some, Option.getD_some, Option.getD_some, Nat.zero_add]

/-- Two different symbols that occur. -/
theorem two_le_length_used {s t : Nat} (hne : s ≠ t) (hs : frequencies[s]?.getD 0 ≠ 0)
    (ht : frequencies[t]?.getD 0 ≠ 0) : 2 ≤ (used frequencies).length := by
  have hpair : [s, t].Nodup := by simpa using hne
  refine (hpair.subperm ?_).length_le
  simp only [List.cons_subset, List.nil_subset, and_true]
  exact ⟨mem_used.mpr hs, mem_used.mpr ht⟩

/-- Two lists have as many places, and where the first one is positive the second one is. -/
structure Keeps (frequencies others : List Nat) : Prop where
  length : others.length = frequencies.length
  pos : ∀ s : Nat, frequencies[s]?.getD 0 ≠ 0 → others[s]?.getD 0 ≠ 0

/-- Counting some symbols once keeps those that occur. -/
theorem keeps_counted (frequencies : List Nat) (counted : Nat → Prop) [DecidablePred counted] :
    Keeps frequencies (frequencies.zipIdx.map fun p => if counted p.2 then 1 else p.1) := by
  refine ⟨by rw [List.length_map, List.length_zipIdx], fun s hs => ?_⟩
  rw [getD_map_zipIdx _ _ (lt_of_mem_used (mem_used.mpr hs))]
  split
  · exact Nat.one_ne_zero
  · exact hs

/-- At least two symbols are given words, those that occur among them. -/
theorem atLeastTwo_spec (h : 3 ≤ frequencies.length) :
    Keeps frequencies (atLeastTwo frequencies) ∧ 2 ≤ (used (atLeastTwo frequencies)).length := by
  rw [atLeastTwo]
  dsimp only
  rw [← used]
  match hused : used frequencies with
  | [] =>
    -- no symbol occurs, and the first two are counted
    refine ⟨keeps_counted _ (· < 2), two_le_length_used Nat.zero_ne_one ?_ ?_⟩
    · rw [getD_map_zipIdx _ (· < 2) (by omega), if_pos (by omega)]
      exact Nat.one_ne_zero
    · rw [getD_map_zipIdx _ (· < 2) (by omega), if_pos (by omega)]
      exact Nat.one_ne_zero
  | [only] =>
    -- one symbol occurs, and the one that is counted besides is another one
    have hmem : only ∈ used frequencies := hused ▸ List.mem_singleton_self only
    have hextra : (if only < 2 then only + 1 else 0) ≠ only ∧
        (if only < 2 then only + 1 else 0) < frequencies.length := by
      split <;> omega
    have hkeeps := keeps_counted frequencies (· = if only < 2 then only + 1 else 0)
    refine ⟨hkeeps, two_le_length_used hextra.1 ?_ (hkeeps.pos _ (mem_used.mp hmem))⟩
    rw [getD_map_zipIdx _ (· = if only < 2 then only + 1 else 0) hextra.2, if_pos rfl]
    exact Nat.one_ne_zero
  | s :: t :: rest =>
    refine ⟨⟨rfl, fun _ hs => hs⟩, ?_⟩
    dsimp only
    rw [hused, List.length_cons, List.length_cons]
    omega

/-! ## Starting -/

/-- A forest with one tree for each symbol that occurs. -/
def start (frequencies : List Nat) : Forest :=
  { heap := (0 :: used frequencies).toArray
    frequency := frequencies.toArray
    height := Array.replicate frequencies.length 0
    parent := Array.replicate frequencies.length 0 }

/-- Settling the roots from the middle down. -/
def settleAll (places : List Nat) (f : Forest) : Forest :=
  places.foldl (fun f k => f.settle (k + 1)) f

/-- Settling roots keeps them, and all that is not in the heap. -/
theorem settleAll_spec {f : Forest} {places : List Nat} (h : ∀ k ∈ places, k + 1 < f.heap.size) :
    (settleAll places f).roots.Perm f.roots ∧
      settleAll places f = { f with heap := (settleAll places f).heap } ∧
      (settleAll places f).heap.size = f.heap.size := by
  induction places generalizing f with
  | nil => exact ⟨.refl _, rfl, rfl⟩
  | cons k places ih =>
    rw [List.forall_mem_cons] at h
    have hsize := f.size_settle (Nat.le_add_left 1 k) h.1
    obtain ⟨hroots, hothers, hheap⟩ := @ih (f.settle (k + 1)) fun m hm => by
      rw [hsize]
      exact h.2 m hm
    exact ⟨hroots.trans (f.settle_perm (Nat.le_add_left 1 k) h.1), hothers, hheap.trans hsize⟩

/-- The forest that is joined. -/
def ordered (frequencies : List Nat) : Forest :=
  settleAll (List.range ((used frequencies).length / 2)).reverse (start frequencies)

/-- The forest that is joined has a root for each symbol that occurs. -/
theorem ordered_spec (hUsed : 2 ≤ (used frequencies).length) :
    (ordered frequencies).Valid ∧ (ordered frequencies).roots.Perm (used frequencies) ∧
      (ordered frequencies).frequency.size = frequencies.length ∧
      (ordered frequencies).heap.size = (used frequencies).length + 1 := by
  have hsize : (start frequencies).heap.size = (used frequencies).length + 1 := by
    rw [start, List.size_toArray, List.length_cons]
  -- the places that are settled are those of the first half of the roots
  have hplaces : ∀ k ∈ (List.range ((used frequencies).length / 2)).reverse,
      k + 1 < (start frequencies).heap.size := by
    intro k hk
    rw [List.mem_reverse, List.mem_range] at hk
    omega
  obtain ⟨hroots, hothers, hheap⟩ := settleAll_spec hplaces
  rw [← ordered] at hroots hothers hheap
  -- settling only moves roots within the heap
  have hused : (ordered frequencies).roots.Perm (used frequencies) := hroots
  have hfrequency : (ordered frequencies).frequency.size = frequencies.length := by
    rw [hothers]
    exact List.size_toArray
  have hparent : (ordered frequencies).parent.size = frequencies.length := by
    rw [hothers]
    exact Array.size_replicate
  refine ⟨⟨by omega, ?_, ?_, by rw [hparent, hfrequency]⟩, hused, hfrequency, by rw [hheap, hsize]⟩
  · exact hused.nodup_iff.mpr (nodup_used frequencies)
  · intro n hn
    rw [hfrequency]
    exact lt_of_mem_used (hused.mem_iff.mp hn)

/-! ## Complete codes -/

/-- Lengths are complete if those that are positive take all words between them. -/
theorem complete_of_places {limit : Nat} {lengths places values : List Nat}
    (hNodup : places.Nodup) (hValues : places.map (fun n => lengths[n]?.getD 0) = values)
    (hOthers : ∀ n ∉ places, lengths[n]?.getD 0 = 0) (hIn : ∀ b ∈ values, b ≠ 0 ∧ b ≤ limit)
    (hSum : (values.map fun b => 2 ^ (limit - b)).sum = 2 ^ limit) :
    Code.Complete limit lengths := by
  have hle (n : Nat) : lengths[n]?.getD 0 ≤ limit := by
    by_cases hn : n ∈ places
    · exact (hIn _ (hValues ▸ List.mem_map_of_mem hn)).2
    · rw [hOthers n hn]
      exact Nat.zero_le _
  refine ⟨fun length hmem => ?_, ?_⟩
  · obtain ⟨n, hn⟩ := List.getElem?_of_mem hmem
    have := hle n
    rwa [hn, Option.getD_some] at this
  · have hall : lengths.map (Code.share limit) =
        (List.range lengths.length).map fun n => Code.share limit (lengths[n]?.getD 0) := by
      refine List.ext_getElem? fun n => ?_
      rw [List.getElem?_map, List.getElem?_map]
      rcases Nat.lt_or_ge n lengths.length with hn | hn
      · rw [List.getElem?_range hn, Option.map_some, List.getElem?_eq_getElem hn, Option.map_some,
          Option.getD_some]
      · rw [List.getElem?_eq_none hn, List.getElem?_eq_none (by rwa [List.length_range])]
        rfl
    have hplaces : (places.map fun n => Code.share limit (lengths[n]?.getD 0)).sum =
        (values.map fun b => 2 ^ (limit - b)).sum := by
      rw [← hValues, List.map_map]
      refine congrArg List.sum (List.map_congr_left fun n hn => ?_)
      have := hIn _ (hValues ▸ List.mem_map_of_mem hn)
      exact if_pos ⟨by omega, this.2⟩
    rw [Code.taken, hall, ← hSum, ← hplaces, ← List.sum_toFinset _ List.nodup_range,
      ← List.sum_toFinset _ hNodup]
    -- the other symbols take nothing
    refine Finset.sum_congr_of_eq_on_inter (fun n _ hn => ?_) (fun n _ hn => ?_) fun _ _ _ => rfl
    · rw [hOthers n (by simpa using hn)]
      rfl
    · rw [List.getElem?_eq_none (by simpa using hn)]
      rfl

/-- The lengths of the leaves: their depths, or those for which room was made. -/
def settled (limit elements : Nat) (acc : Array Nat × Nat) (leaves : List Nat) : List Nat :=
  let lengths := acc.1.toList.take elements
  if acc.2 = 0 then lengths
  else (write (leaves.reverse.zip (given limit (makeRoom limit acc.2 acc.2
    (tally (Array.replicate (limit + 2) 0) (leaves.map fun n => lengths[n]?.getD 0)))))
    lengths.toArray).toList

theorem ofFrequencies_eq (limit : Nat) (frequencies : List Nat) :
    ofFrequencies limit frequencies =
      let counted := atLeastTwo frequencies
      let joined := Forest.join (used counted).length (ordered counted) []
      settled limit counted.length
        (depths limit joined.1.parent joined.2 joined.1.frequency.size)
        (joined.2.filter (· < counted.length)) := rfl

/-- Once room was made, as many lengths are given out as there are words. -/
theorem length_given {limit words excess : Nat} {counts : Array Nat}
    (h : Crowded limit words excess counts) : (given limit counts).length = words := by
  have hones : ((given limit counts).map fun _ => 1).sum = weigh limit counts fun _ => 1 :=
    sum_given h.none _
  rwa [h.words, List.map_const', List.sum_replicate, smul_eq_mul, Nat.mul_one] at hones

/-- The leaves are symbols, no other symbol has a depth, and they share all words. -/
structure Leaves (limit elements excess : Nat) (acc : Array Nat × Nat) (leaves : List Nat) :
    Prop where
  balanced : Balanced limit acc leaves excess
  nodup : leaves.Nodup
  lt : ∀ n ∈ leaves, n < elements
  size : elements ≤ acc.1.size
  pos : ∀ n ∈ leaves, acc.1[n]?.getD 0 ≠ 0
  others : ∀ n < elements, n ∉ leaves → acc.1[n]?.getD 0 = 0

/-- Lengths of the symbols that are complete and give every leaf a word. -/
structure Serves (limit elements : Nat) (leaves lengths : List Nat) : Prop where
  length : lengths.length = elements
  pos : ∀ n ∈ leaves, lengths[n]?.getD 0 ≠ 0
  complete : Code.Complete limit lengths

section Leaves

variable {limit elements excess : Nat} {acc : Array Nat × Nat} {leaves : List Nat}

theorem Leaves.length_take (h : Leaves limit elements excess acc leaves) :
    (acc.1.toList.take elements).length = elements := by
  rw [List.length_take, Array.length_toList, Nat.min_eq_left h.size]

/-- The lengths of the leaves are their depths. -/
theorem Leaves.map_take (h : Leaves limit elements excess acc leaves) :
    (leaves.map fun n => (acc.1.toList.take elements)[n]?.getD 0) =
      leaves.map fun n => acc.1[n]?.getD 0 :=
  List.map_congr_left fun n hn => by rw [List.getElem?_take_of_lt (h.lt n hn), Array.getElem?_toList]

/-- Only leaves have a length. -/
theorem Leaves.take_others (h : Leaves limit elements excess acc leaves) {n : Nat}
    (hn : n ∉ leaves) : (acc.1.toList.take elements)[n]?.getD 0 = 0 := by
  rcases Nat.lt_or_ge n elements with hlt | hge
  · rw [List.getElem?_take_of_lt hlt, Array.getElem?_toList, h.others n hlt hn]
  · rw [List.getElem?_eq_none (by rwa [h.length_take]), Option.getD_none]

/-- Where no depth was cut, the depths are lengths. -/
theorem Leaves.serves_take (h : Leaves limit elements 0 acc leaves) :
    Serves limit elements leaves (acc.1.toList.take elements) where
  length := h.length_take
  pos n hn := by
    rw [List.getElem?_take_of_lt (h.lt n hn), Array.getElem?_toList]
    exact h.pos n hn
  complete := by
    refine complete_of_places h.nodup h.map_take (fun _ => h.take_others) ?_ ?_
    · simpa using fun n hn => ⟨h.pos n hn, h.balanced.le n hn⟩
    · rw [List.map_map]
      exact h.balanced.sum

/-- Where depths were cut, room is made for all leaves. -/
theorem Leaves.crowded_makeRoom (h : Leaves limit elements excess acc leaves)
    (hFits : elements ≤ 2 ^ limit) (hPos : excess ≠ 0) :
    Crowded limit leaves.length 0 (makeRoom limit acc.2 acc.2
      (tally (Array.replicate (limit + 2) 0) (leaves.map fun n => acc.1[n]?.getD 0))) := by
  have hrange : leaves ⊆ List.range elements := fun n hn => List.mem_range.mpr (h.lt n hn)
  have hwords : leaves.length ≤ elements := by
    simpa using (h.nodup.subperm hrange).length_le
  have hcut := h.balanced.cut
  have hroom := (h.balanced.crowded h.pos).makeRoom (Nat.le_trans hwords hFits) hPos
    (show excess ≤ acc.2 by omega)
  rwa [← hcut] at hroom

/-- Lengths for which room was made, given out to the leaves, serve them. -/
theorem Leaves.serves_write (h : Leaves limit elements excess acc leaves) {counts : Array Nat}
    (hCrowded : Crowded limit leaves.length 0 counts) :
    Serves limit elements leaves (write (leaves.reverse.zip (given limit counts))
      (acc.1.toList.take elements).toArray).toList := by
  have hgiven : (given limit counts).length = leaves.reverse.length := by
    rw [length_given hCrowded, List.length_reverse]
  have hreverse : leaves.reverse.Nodup := List.nodup_reverse.mpr h.nodup
  have hplaces : ∀ n ∈ leaves.reverse, n < (acc.1.toList.take elements).toArray.size := by
    intro n hn
    rw [List.size_toArray, h.length_take]
    exact h.lt n (List.mem_reverse.mp hn)
  -- read back leaf by leaf, what was written are the lengths given out
  have hwritten := map_getD_write hreverse hgiven hplaces
  generalize hresult : write (leaves.reverse.zip (given limit counts))
    (acc.1.toList.take elements).toArray = result at hwritten
  simp only [← Array.getElem?_toList] at hwritten
  refine ⟨?length, fun n hn => ?pos, complete_of_places hreverse hwritten (fun n hn => ?others)
    (fun _ => mem_given) ?sum⟩
  case length => rw [Array.length_toList, ← hresult, size_write, List.size_toArray, h.length_take]
  case pos =>
    have hmem : result.toList[n]?.getD 0 ∈ given limit counts := by
      rw [← hwritten]
      exact List.mem_map.mpr ⟨n, List.mem_reverse.mpr hn, rfl⟩
    exact (mem_given hmem).1
  case others =>
    rw [List.mem_reverse] at hn
    rw [Array.getElem?_toList, ← hresult, getElem?_write_of_notMem, List.getElem?_toArray,
      h.take_others hn]
    rw [List.map_fst_zip (by omega), List.mem_reverse]
    exact hn
  case sum => rw [sum_given hCrowded.none, hCrowded.share, Nat.add_zero]

/-- Leaves that share all words have lengths that do. -/
theorem Leaves.serves_settled (h : Leaves limit elements excess acc leaves)
    (hFits : elements ≤ 2 ^ limit) :
    Serves limit elements leaves (settled limit elements acc leaves) := by
  have hcut := h.balanced.cut
  rw [settled, h.map_take]
  split
  · next hzero =>
    obtain rfl : excess = 0 := by omega
    exact h.serves_take
  · next hne => exact h.serves_write (h.crowded_makeRoom hFits (by omega))

end Leaves

/-- The root of a tree, of depth zero, takes all words. -/
theorem balanced_root {limit size root : Nat} (h : root < size) :
    Balanced limit (Array.replicate size 0, 0) [root] 0 := by
  have hdepth : (Array.replicate size 0)[root]?.getD 0 = 0 := by
    rw [Array.getElem?_replicate, if_pos h, Option.getD_some]
  refine ⟨?_, ?_, ?_, rfl, Nat.zero_le _⟩
  · simpa using h
  · simp [hdepth]
  · simp [hdepth]

/-- A forest whose roots are symbols, at least two of them, is joined into a tree whose leaves
are these symbols. -/
theorem Forest.Joins.leaves {f g : Forest} {limit root elements : Nat} {pairs symbols : List Nat}
    (hLimit : 0 < limit) (h : f.Joins g root pairs) (hMany : 2 < f.heap.size)
    (hElements : f.frequency.size = elements) (hRoots : f.roots.Perm symbols)
    (hNodup : symbols.Nodup) (hLt : ∀ n ∈ symbols, n < elements) :
    ((root :: pairs).filter (· < elements)).Perm symbols ∧
      ∃ excess, Leaves limit elements excess
        (depths limit g.parent (root :: pairs) g.frequency.size)
        ((root :: pairs).filter (· < elements)) := by
  have hleaves : ((root :: pairs).filter (· < elements)).Perm symbols := by
    have hall : symbols.filter (· < elements) = symbols :=
      List.filter_eq_self.mpr fun n hn => by simpa using hLt n hn
    have hfilter := (h.filter elements (by omega)).trans (hRoots.filter _)
    rwa [hall] at hfilter
  -- the root is no symbol, so the symbols below it are those that were noted
  have hnew := h.isNew
  rw [if_pos hMany] at hnew
  have hmem (n : Nat) (hn : n < elements) : n ∈ pairs ↔ n ∈ symbols := by
    rw [← hleaves.mem_iff, List.mem_filter, List.mem_cons]
    simp only [hn, decide_true, and_true]
    exact ⟨Or.inr, fun h => h.resolve_left (by omega)⟩
  have hpairs : ∀ n ∈ pairs, n < (Array.replicate g.frequency.size 0, 0).1.size := by
    intro n hn
    rw [Array.size_replicate]
    exact h.lt n (List.mem_cons_of_mem _ hn)
  have hroot : Balanced limit (Array.replicate g.frequency.size 0, 0) [root] 0 :=
    balanced_root (h.lt root (List.mem_cons_self ..))
  obtain ⟨excess, hbalanced⟩ := h.splits.balanced hroot hpairs
  have hdepth := depth_foldl (fun n => g.parent[n]?.getD 0) hLimit hpairs
  have hsize := size_foldl_deepen limit (fun n => g.parent[n]?.getD 0) pairs
    (Array.replicate g.frequency.size 0, 0)
  have hle := h.le
  rw [Array.size_replicate] at hsize
  refine ⟨hleaves, excess, ?_⟩
  rw [depths_eq, List.tail_cons]
  refine ⟨hbalanced.congr (hRoots.trans hleaves.symm), hleaves.nodup_iff.mpr hNodup, ?lt,
    by omega, ?pos, ?others⟩
  case lt => exact fun n hn => hLt n (hleaves.mem_iff.mp hn)
  case pos =>
    intro n hn
    have hsymbol := hleaves.mem_iff.mp hn
    have hdeep := hdepth n
    rw [if_pos ((hmem n (hLt n hsymbol)).mpr hsymbol)] at hdeep
    omega
  case others =>
    intro n hn hnot
    rw [hleaves.mem_iff, ← hmem n hn] at hnot
    have hflat := hdepth n
    rwa [if_neg hnot, Array.getElem?_replicate, if_pos (by omega)] at hflat

/-- **The lengths of an optimal code** are complete, and give a word to every symbol that
occurs. -/
theorem ofFrequencies_spec {limit : Nat} {frequencies : List Nat} (hLimit : 0 < limit)
    (hMany : 3 ≤ frequencies.length) (hFits : frequencies.length ≤ 2 ^ limit) :
    Keeps frequencies (ofFrequencies limit frequencies) ∧
      Code.Complete limit (ofFrequencies limit frequencies) := by
  obtain ⟨hkeeps, htwo⟩ := atLeastTwo_spec hMany
  have helements := hkeeps.length
  rw [ofFrequencies_eq]
  -- from here on the frequencies are those that are counted
  generalize atLeastTwo frequencies = counted at hkeeps htwo helements
  obtain ⟨hvalid, hroots, hfrequency, hheap⟩ := ordered_spec htwo
  obtain ⟨g, root, pairs, hjoin, hjoins⟩ := Forest.exists_joins hvalid hheap.le []
  obtain ⟨hperm, excess, hleaves⟩ := hjoins.leaves hLimit (by omega) hfrequency hroots
    (nodup_used counted) fun _ => lt_of_mem_used
  rw [List.append_nil] at hjoin
  dsimp only
  rw [hjoin]
  have hserves := hleaves.serves_settled (by omega)
  refine ⟨⟨by rw [hserves.length, helements], fun s hs => ?_⟩, hserves.complete⟩
  exact hserves.pos s (hperm.mem_iff.mpr (mem_used.mpr (hkeeps.pos s hs)))

end Keyset.CodeLengths
