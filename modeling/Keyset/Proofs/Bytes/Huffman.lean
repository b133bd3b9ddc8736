import Keyset.Proofs.Bytes.Bits

/-!
# Keyset — canonical codes are read back

The words of one length are consecutive numbers, and the first of them follows the last
shorter word, one bit longer. A word is therefore read as soon as its bits are below the end
of the words of their number, and never sooner.

* `Code.firstFrom` — the first word of each length.
* `Code.words_eq` — the word of a symbol, by its length and its place among its equals.
* `Code.symbolsOf_eq` — the symbol of a word.
* `Code.reads_words` — a symbol is read back from its word.
-/

namespace Keyset.Code

/-! ## First words -/

/-- The first word of each length that follows, where `next` comes after the shorter words. -/
def firstFrom (next : Nat) : List Nat → List Nat
  | [] => []
  | n :: rest => 2 * next :: firstFrom (2 * next + n) rest

theorem firstWords_eq (counts : List Nat) : firstWords counts = firstFrom 0 counts := by
  have hfold : ∀ (counts words : List Nat) (next : Nat),
      (counts.foldl (fun acc n => (acc.1 ++ [2 * acc.2], 2 * acc.2 + n)) (words, next)).1 =
        words ++ firstFrom next counts := by
    intro counts
    induction counts with
    | nil => exact fun words _ => (List.append_nil words).symm
    | cons n rest ih =>
      intro words next
      rw [List.foldl_cons, ih, firstFrom, List.append_assoc, List.singleton_append]
  exact hfold counts [] 0

variable {counts : List Nat} {k next start n : Nat}

/-- Longer words come after the shorter ones, continued by zeros. -/
theorem le_of_firstFrom (h : (firstFrom next counts)[k]? = some start) :
    next * 2 ^ (k + 1) ≤ start := by
  induction counts generalizing k next with
  | nil => cases h
  | cons n rest ih =>
    cases k with
    | zero =>
      obtain rfl := Option.some.inj h
      omega
    | succ k =>
      have hrest := ih h
      calc next * 2 ^ (k + 1 + 1) = 2 * next * 2 ^ (k + 1) := by ring
        _ ≤ (2 * next + n) * 2 ^ (k + 1) := Nat.mul_le_mul_right _ (by omega)
        _ ≤ start := hrest

/-- If there are enough words, those of each length fit their bits. -/
theorem firstFrom_add_le {left left' size : Nat}
    (hUnused : counts.foldlM (fun left n => if 2 * left < n then none else some (2 * left - n))
      left = some left')
    (hSize : next + left = size) (hStart : (firstFrom next counts)[k]? = some start)
    (hCount : counts[k]? = some n) : start + n ≤ size * 2 ^ (k + 1) := by
  induction counts generalizing k next left size with
  | nil => cases hCount
  | cons m rest ih =>
    rw [List.foldlM_cons] at hUnused
    by_cases hm : 2 * left < m
    · rw [if_pos hm] at hUnused
      cases hUnused
    · rw [if_neg hm] at hUnused
      cases k with
      | zero =>
        obtain rfl := Option.some.inj hStart
        obtain rfl := Option.some.inj hCount
        omega
      | succ k =>
        -- the words of the next length are twice those in hand, less the ones that are taken
        have hdouble : 2 * next + m + (2 * left - m) = 2 * size := by omega
        have hrest := ih hUnused hdouble hStart hCount
        calc start + n ≤ 2 * size * 2 ^ (k + 1) := hrest
          _ = size * 2 ^ (k + 1 + 1) := by ring

/-! ## Reading -/

theorem wordBits_succ (length word : Nat) :
    wordBits (length + 1) word = (word / 2 ^ length % 2 == 1) :: wordBits length word := by
  rw [wordBits, List.range_succ_eq_map, List.map_cons, List.map_map, wordBits]
  refine congrArg₂ List.cons ?_ (List.map_congr_left fun i _ => ?_)
  · rw [Nat.add_sub_cancel, Nat.sub_zero]
    rfl
  · rw [Function.comp, show length + 1 - 1 - i.succ = length - 1 - i by omega]

/-- **A word is read** at its own length: its bits are beyond the shorter words, and among the
words of their number. -/
theorem reads_wordBits {symbols : Array Nat} {index r s : Nat}
    (hStart : (firstFrom next counts)[k]? = some start) (hCount : counts[k]? = some n) (hr : r < n)
    (hSymbol : symbols[index + (counts.take k).sum + r]? = some s) :
    (readFrom symbols counts ((start + r) / 2 ^ (k + 1)) next index).Reads
      (wordBits (k + 1) (start + r)) s := by
  induction counts generalizing k next index with
  | nil => cases hCount
  | cons m rest ih =>
    have hbit : BitReader.bit.Reads [(start + r) / 2 ^ k % 2 == 1]
        ((start + r) / 2 ^ k % 2 == 1) := fun _ => rfl
    -- the bits so far, with one more
    have hvalue : 2 * ((start + r) / 2 ^ (k + 1)) +
        (if ((start + r) / 2 ^ k % 2 == 1) = true then 1 else 0) = (start + r) / 2 ^ k := by
      rw [Nat.pow_succ, ← Nat.div_div_eq_div_mul, Nat.add_comm]
      exact bit_add_double _
    rw [wordBits_succ, readFrom]
    refine hbit.bind ?_
    dsimp only
    rw [hvalue]
    cases k with
    | zero =>
      obtain rfl := Option.some.inj hStart
      obtain rfl := Option.some.inj hCount
      rw [List.take_zero, List.sum_nil, Nat.add_zero] at hSymbol
      rw [Nat.pow_zero, Nat.div_one, if_pos (by omega), Nat.add_sub_cancel_left, hSymbol]
      exact BitReader.reads_pure s
    | succ k =>
      have hbeyond : 2 * next + m ≤ (start + r) / 2 ^ (k + 1) := by
        rw [Nat.le_div_iff_mul_le (Nat.two_pow_pos _)]
        have hstart : (firstFrom (2 * next + m) rest)[k]? = some start := hStart
        have := le_of_firstFrom hstart
        omega
      rw [if_neg (by omega)]
      refine ih hStart hCount ?_
      rw [List.take_succ_cons, List.sum_cons, ← Nat.add_assoc] at hSymbol
      exact hSymbol

/-! ## Words -/

/-- Give a word to one more symbol. -/
def assign : Array (List Bool) × Array Nat → Nat → Array (List Bool) × Array Nat :=
  fun (out, next) length =>
    if length = 0 then (out.push [], next)
    else
      let word := next[length - 1]?.getD 0
      (out.push (wordBits length word), next.setIfInBounds (length - 1) (word + 1))

variable {lengths : List Nat} {s length : Nat}

theorem assign_fst (acc : Array (List Bool) × Array Nat) (m : Nat) : (assign acc m).1 =
    acc.1.push (if m = 0 then [] else wordBits m (acc.2[m - 1]?.getD 0)) := by
  rw [assign]
  split <;> rfl

theorem size_assign_snd (acc : Array (List Bool) × Array Nat) (m : Nat) :
    (assign acc m).2.size = acc.2.size := by
  rw [assign]
  split
  · rfl
  · exact Array.size_setIfInBounds ..

/-- The next word of a length moves on when one is given out. -/
theorem next_assign (acc : Array (List Bool) × Array Nat) (m : Nat) (hPos : length ≠ 0)
    (hSize : length ≤ acc.2.size) : (assign acc m).2[length - 1]?.getD 0 =
      acc.2[length - 1]?.getD 0 + if m == length then 1 else 0 := by
  rw [assign]
  by_cases hm : m = length
  · subst hm
    rw [if_neg hPos, beq_self_eq_true, if_pos rfl]
    dsimp only
    rw [Array.getElem?_setIfInBounds_self_of_lt (by omega), Option.getD_some]
  · rw [beq_eq_false_iff_ne.mpr hm, if_neg Bool.false_ne_true, Nat.add_zero]
    split
    · rfl
    · next hzero => rw [Array.getElem?_setIfInBounds_ne (by omega)]

/-- Words that were given stay. -/
theorem getElem?_foldl_assign_of_lt (lengths : List Nat) (acc : Array (List Bool) × Array Nat)
    {i : Nat} (h : i < acc.1.size) : (lengths.foldl assign acc).1[i]? = acc.1[i]? := by
  induction lengths generalizing acc with
  | nil => rfl
  | cons m rest ih =>
    rw [List.foldl_cons, ih (assign acc m) (by rw [assign_fst, Array.size_push]; omega), assign_fst,
      Array.getElem?_push, if_neg (by omega)]

/-- The words of one length are given out in a row. -/
theorem getElem?_foldl_assign (hLength : lengths[s]? = some length) (hPos : length ≠ 0)
    (acc : Array (List Bool) × Array Nat) (hSize : length ≤ acc.2.size) :
    (lengths.foldl assign acc).1[acc.1.size + s]? =
      some (wordBits length (acc.2[length - 1]?.getD 0 + (lengths.take s).count length)) := by
  induction lengths generalizing s acc with
  | nil => cases hLength
  | cons m rest ih =>
    rw [List.foldl_cons]
    have hsize : (assign acc m).1.size = acc.1.size + 1 := by rw [assign_fst, Array.size_push]
    cases s with
    | zero =>
      obtain rfl := Option.some.inj hLength
      rw [Nat.add_zero, getElem?_foldl_assign_of_lt rest _ (by omega), assign_fst, if_neg hPos,
        Array.getElem?_push_size, List.take_zero, List.count_nil, Nat.add_zero]
    | succ s =>
      have hrest := ih (s := s) hLength (assign acc m) (by rwa [size_assign_snd])
      rw [hsize, next_assign acc m hPos hSize, Nat.add_right_comm] at hrest
      rw [← Nat.add_assoc, hrest, List.take_succ_cons, List.count_cons, Nat.add_assoc,
        Nat.add_comm (if m == length then 1 else 0)]

/-- The word of a symbol: its length says where words start, and the symbols before it of the
same length how many of these words are taken. -/
theorem words_eq (hLength : lengths[s]? = some length) (hPos : length ≠ 0)
    (hStart : (firstFrom 0 (countsOf lengths))[length - 1]? = some start) :
    (words lengths)[s]?.getD [] = wordBits length (start + (lengths.take s).count length) := by
  have hsize : length ≤ (firstWords (countsOf lengths)).toArray.size := by
    have := (List.getElem?_eq_some_iff.mp hStart).1
    rw [firstWords_eq, List.size_toArray]
    omega
  have hnext : (firstWords (countsOf lengths)).toArray[length - 1]?.getD 0 = start := by
    rw [List.getElem?_toArray, firstWords_eq, hStart, Option.getD_some]
  have hword := getElem?_foldl_assign hLength hPos (#[], (firstWords (countsOf lengths)).toArray)
    hsize
  rw [show (#[] : Array (List Bool)).size + s = s from Nat.zero_add s] at hword
  dsimp only at hword
  rw [hnext] at hword
  rw [show words lengths = (lengths.foldl assign (#[], (firstWords (countsOf lengths)).toArray)).1
    from rfl, hword, Option.getD_some]

/-! ## Symbols -/

/-- The symbols of one length keep their order. -/
theorem getElem?_filter_zipIdx (hLength : lengths[s]? = some length) (offset : Nat) :
    (((lengths.zipIdx offset).filter fun p => p.1 == length).map (·.2))[(lengths.take s).count
      length]? = some (offset + s) := by
  induction lengths generalizing s offset with
  | nil => cases hLength
  | cons m rest ih =>
    rw [List.zipIdx_cons]
    cases s with
    | zero =>
      obtain rfl := Option.some.inj hLength
      rw [List.filter_cons_of_pos (by simp)]
      rfl
    | succ s =>
      have hrest := ih (s := s) hLength (offset + 1)
      rw [Nat.add_assoc, Nat.add_comm 1 s] at hrest
      rw [List.take_succ_cons, List.count_cons]
      -- the first symbol stands before this one if it has a word of the same length
      by_cases hm : m = length
      · rw [List.filter_cons_of_pos (by simpa using hm), if_pos (by simpa using hm),
          List.map_cons, List.getElem?_cons_succ, hrest]
      · rw [List.filter_cons_of_neg (by simpa using hm), if_neg (by simpa using hm)]
        exact hrest

theorem length_filter_zipIdx (lengths : List Nat) (length offset : Nat) :
    (((lengths.zipIdx offset).filter fun p => p.1 == length).map (·.2)).length =
      lengths.count length := by
  induction lengths generalizing offset with
  | nil => rfl
  | cons m rest ih =>
    rw [List.zipIdx_cons, List.count_cons, ← ih (offset + 1)]
    by_cases hm : m = length <;> simp [hm]

/-- An element of one of several lists in a row. -/
theorem getElem?_flatMap {α β : Type} {f : α → List β} {l : List α} {a : α} {r : Nat}
    (h : l[k]? = some a) (hr : r < (f a).length) :
    (l.flatMap f)[((l.take k).map fun x => (f x).length).sum + r]? = (f a)[r]? := by
  induction l generalizing k with
  | nil => cases h
  | cons x rest ih =>
    rw [List.flatMap_cons]
    cases k with
    | zero =>
      obtain rfl := Option.some.inj h
      rw [List.take_zero, List.map_nil, List.sum_nil, Nat.zero_add, List.getElem?_append_left hr]
    | succ k =>
      rw [List.take_succ_cons, List.map_cons, List.sum_cons, Nat.add_assoc,
        List.getElem?_append_right (Nat.le_add_right ..), Nat.add_sub_cancel_left]
      exact ih h

/-- The symbol of a word. -/
theorem symbolsOf_eq (hLength : lengths[s]? = some length) (hPos : length ≠ 0)
    (hMax : length ≤ maxLength) :
    (symbolsOf lengths)[((countsOf lengths).take (length - 1)).sum +
      (lengths.take s).count length]? = some s := by
  have hplace : (List.range maxLength)[length - 1]? = some (length - 1) :=
    List.getElem?_range (by omega)
  have hcounts : (countsOf lengths).take (length - 1) = ((List.range maxLength).take (length - 1)).map
      fun i => (((lengths.zipIdx.filter fun p => p.1 == i + 1).map (·.2))).length := by
    rw [countsOf, List.map_take]
    exact congrArg (List.take (length - 1)) (List.map_congr_left fun i _ =>
      (length_filter_zipIdx lengths (i + 1) 0).symm)
  have hsymbol := getElem?_filter_zipIdx hLength 0
  have hlt := (List.getElem?_eq_some_iff.mp hsymbol).1
  rw [show length = length - 1 + 1 by omega] at hlt
  rw [hcounts, symbolsOf]
  have hflat := getElem?_flatMap (f := fun i =>
    (lengths.zipIdx.filter fun p => p.1 == i + 1).map (·.2)) hplace hlt
  rw [show length - 1 + 1 = length by omega, hsymbol, Nat.zero_add] at hflat
  exact hflat

/-! ## Codes -/

theorem length_firstFrom (next : Nat) (counts : List Nat) :
    (firstFrom next counts).length = counts.length := by
  induction counts generalizing next with
  | nil => rfl
  | cons n rest ih => rw [firstFrom, List.length_cons, ih, List.length_cons]

/-- There is room for one more symbol among those of its length. -/
theorem count_take_lt (hLength : lengths[s]? = some length) :
    (lengths.take s).count length < lengths.count length := by
  obtain ⟨hs, hget⟩ := List.getElem?_eq_some_iff.mp hLength
  have hsplit := congrArg (List.count length) (List.take_append_drop s lengths)
  rw [List.count_append, List.drop_eq_getElem_cons hs, hget, List.count_cons_self] at hsplit
  omega

/-- Word lengths that have a code do not ask for more words than there are. -/
theorem ofLengths?_eq_some {lone : Bool} {code : Code} (h : ofLengths? lone lengths = some code) :
    (∃ left, unused? (countsOf lengths) = some left) ∧
      code = ⟨countsOf lengths, (symbolsOf lengths).toArray⟩ := by
  rw [ofLengths?] at h
  dsimp only at h
  cases hunused : unused? (countsOf lengths) with
  | none =>
    rw [hunused] at h
    cases h
  | some left =>
    rw [hunused, Option.bind_eq_bind, Option.bind_some] at h
    split at h
    · exact ⟨⟨left, rfl⟩, (Option.some.inj h).symm⟩
    · cases h

/-- **A symbol is read back from its word.** -/
theorem reads_words {lone : Bool} {code : Code} (hCode : ofLengths? lone lengths = some code)
    (hLength : lengths[s]? = some length) (hPos : length ≠ 0) (hMax : length ≤ maxLength) :
    code.read.Reads ((words lengths)[s]?.getD []) s := by
  obtain ⟨⟨left, hunused⟩, rfl⟩ := ofLengths?_eq_some hCode
  have hsize : (countsOf lengths).length = maxLength := by
    rw [countsOf, List.length_map, List.length_range]
  obtain ⟨start, hstart⟩ : ∃ start, (firstFrom 0 (countsOf lengths))[length - 1]? = some start :=
    ⟨_, List.getElem?_eq_getElem (by rw [length_firstFrom, hsize]; omega)⟩
  have hcount : (countsOf lengths)[length - 1]? = some (lengths.count length) := by
    rw [countsOf, List.getElem?_map, List.getElem?_range (by omega), Option.map_some,
      show length - 1 + 1 = length by omega]
  have hfits := firstFrom_add_le hunused (Nat.zero_add 1) hstart hcount
  have hr := count_take_lt hLength
  have hlength : length - 1 + 1 = length := by omega
  -- the number of a symbol among those of its length is its place in their row
  have hsymbol : (symbolsOf lengths).toArray[0 + ((countsOf lengths).take (length - 1)).sum +
      (lengths.take s).count length]? = some s := by
    rw [Nat.zero_add, List.getElem?_toArray, symbolsOf_eq hLength hPos hMax]
  have hreads := reads_wordBits hstart hcount hr hsymbol
  rw [hlength, Nat.one_mul] at hfits
  rw [hlength, Nat.div_eq_of_lt (by omega)] at hreads
  rw [words_eq hLength hPos hstart]
  exact hreads

/-! ## Complete codes -/

/-- How many words of a width start with a given word, by its length. -/
def share (width length : Nat) : Nat := if 0 < length ∧ length ≤ width then 2 ^ (width - length) else 0

/-- How many words of a width start with a word of a code. -/
def taken (width : Nat) (lengths : List Nat) : Nat := (lengths.map (share width)).sum

theorem taken_cons (width m : Nat) (lengths : List Nat) :
    taken width (m :: lengths) = share width m + taken width lengths := by
  rw [taken, List.map_cons, List.sum_cons, taken]

/-- One bit more doubles what is taken, and there are the words of the new length. -/
theorem taken_succ (width : Nat) (lengths : List Nat) :
    taken (width + 1) lengths = 2 * taken width lengths + lengths.count (width + 1) := by
  induction lengths with
  | nil => rfl
  | cons m rest ih =>
    have hshare : share (width + 1) m = 2 * share width m + if m == width + 1 then 1 else 0 := by
      simp only [share, beq_iff_eq]
      by_cases hin : 0 < m ∧ m ≤ width
      · rw [if_pos hin, if_pos (by omega), if_neg (by omega), Nat.succ_sub hin.2, Nat.pow_succ']
        omega
      · by_cases hlast : m = width + 1
        · rw [if_neg hin, if_pos (by omega), if_pos hlast, hlast, Nat.sub_self]
          rfl
        · rw [if_neg hin, if_neg (by omega), if_neg hlast]
    rw [taken_cons, taken_cons, List.count_cons, ih, hshare]
    omega

theorem taken_zero (lengths : List Nat) : taken 0 lengths = 0 := by
  refine List.sum_eq_zero fun n hn => ?_
  obtain ⟨m, -, rfl⟩ := List.mem_map.mp hn
  exact if_neg (by omega)

/-- More bits at least multiply what is taken. -/
theorem taken_mul_le (width more : Nat) (lengths : List Nat) :
    taken width lengths * 2 ^ more ≤ taken (width + more) lengths := by
  induction more with
  | zero => rw [Nat.pow_zero, Nat.mul_one, Nat.add_zero]
  | succ more ih =>
    rw [← Nat.add_assoc, taken_succ, Nat.pow_succ, ← Nat.mul_assoc]
    omega

/-- Where no width takes more words than it has, those that are left are counted width by
width. -/
theorem foldlM_countsOf (h : ∀ width, taken width lengths ≤ 2 ^ width) (width : Nat) :
    ((List.range width).map fun i => lengths.count (i + 1)).foldlM
      (fun left n => if 2 * left < n then none else some (2 * left - n)) 1 =
        some (2 ^ width - taken width lengths) := by
  induction width with
  | zero => simp [taken_zero]
  | succ width ih =>
    have hnext := h (width + 1)
    rw [taken_succ, Nat.pow_succ] at hnext
    rw [List.range_succ, List.map_append, List.foldlM_append, ih, taken_succ, Nat.pow_succ]
    simp only [List.map_cons, List.map_nil, List.foldlM_cons, List.foldlM_nil]
    rw [Option.bind_eq_bind, Option.bind_some, if_neg (by omega)]
    exact congrArg some (by omega)

/-- Lengths up to a limit are complete if every word of the greatest length starts with a word
of one of them. -/
structure Complete (limit : Nat) (lengths : List Nat) : Prop where
  le : ∀ length ∈ lengths, length ≤ limit
  full : taken limit lengths = 2 ^ limit

theorem Complete.getD_le {limit : Nat} (h : Complete limit lengths) (s : Nat) :
    lengths[s]?.getD 0 ≤ limit := by
  cases hs : lengths[s]? with
  | none => exact Nat.zero_le limit
  | some length => exact h.le length (List.mem_of_getElem? hs)

/-- Beyond the greatest length nothing is added. -/
theorem Complete.taken_add {limit : Nat} (h : Complete limit lengths) (more : Nat) :
    taken (limit + more) lengths = 2 ^ (limit + more) := by
  induction more with
  | zero => exact h.full
  | succ more ih =>
    have hcount : lengths.count (limit + more + 1) = 0 := by
      refine List.count_eq_zero.mpr fun hmem => ?_
      have := h.le _ hmem
      omega
    rw [← Nat.add_assoc, taken_succ, ih, hcount, Nat.pow_succ]
    omega

/-- No width takes more words than it has, as it would not at the limit. -/
theorem Complete.taken_le {limit : Nat} (h : Complete limit lengths) (width : Nat) :
    taken width lengths ≤ 2 ^ width := by
  have hall := taken_mul_le width limit lengths
  rw [Nat.add_comm width, h.taken_add, Nat.pow_add, Nat.mul_comm (2 ^ limit)] at hall
  exact Nat.le_of_mul_le_mul_right hall (Nat.two_pow_pos limit)

/-- No words are left unused. -/
theorem Complete.unused?_eq {limit : Nat} (h : Complete limit lengths) (hLimit : limit ≤ maxLength) :
    unused? (countsOf lengths) = some 0 := by
  have hfull := h.taken_add (maxLength - limit)
  rw [Nat.add_sub_cancel' hLimit] at hfull
  rw [unused?, countsOf, foldlM_countsOf h.taken_le, hfull, Nat.sub_self]

/-- **Complete lengths have a code.** -/
theorem Complete.exists_code {limit : Nat} (h : Complete limit lengths) (hLimit : limit ≤ maxLength)
    (lone : Bool) : ∃ code, ofLengths? lone lengths = some code := by
  have hunused := h.unused?_eq hLimit
  refine ⟨⟨countsOf lengths, (symbolsOf lengths).toArray⟩, ?_⟩
  rw [ofLengths?]
  dsimp only
  rw [hunused, Option.bind_eq_bind, Option.bind_some, if_pos (Or.inr (Or.inl rfl))]

end Keyset.Code
