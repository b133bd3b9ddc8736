import Keyset.Proofs.Bytes.CodeLengths
import Keyset.Proofs.Bytes.Runs

/-!
# Keyset — the codes of a block are read back

Codes that are made for a block have words for all its symbols. They are written as their word
lengths, less the zeros at the end, with a third code whose own lengths stand before them.

* `Serves.exists_code` — a code made for symbols reads their words.
* `lengths_of_ordered` — the lengths of the length code.
* `reads_blockCodes` — both codes of a block are read back.
-/

namespace Keyset.Deflate

open CodeLengths (ofFrequencies)

/-! ## Codes for symbols -/

/-- How often a symbol occurs. -/
theorem getD_frequencies {size s : Nat} (hs : s < size) (codes : List Nat) :
    (frequencies size codes)[s]?.getD 0 = codes.count s := by
  change (CodeLengths.tally (Array.replicate size 0) codes).toList[s]?.getD 0 = codes.count s
  rw [Array.getElem?_toList, CodeLengths.getD_tally (by rwa [Array.size_replicate]),
    Array.getElem?_replicate, if_pos hs, Option.getD_some, Nat.zero_add]

theorem length_frequencies (size : Nat) (codes : List Nat) :
    (frequencies size codes).length = size := by
  change (CodeLengths.tally (Array.replicate size 0) codes).toList.length = size
  rw [Array.length_toList, CodeLengths.size_tally, Array.size_replicate]

/-- A code reads the words of all symbols that have one. -/
theorem Speaks.of_length {lone : Bool} {code : Code} {lengths : List Nat} {s : Nat}
    (hCode : Code.ofLengths? lone lengths = some code) (hPos : lengths[s]?.getD 0 ≠ 0)
    (hLe : ∀ n ∈ lengths, n ≤ Code.maxLength) : Speaks code (Code.words lengths) s := by
  cases hLength : lengths[s]? with
  | none =>
    rw [hLength] at hPos
    exact absurd rfl hPos
  | some length =>
    rw [hLength] at hPos
    exact Code.reads_words hCode hLength hPos (hLe length (List.mem_of_getElem? hLength))

/-- Lengths of a complete code for symbols, each of which has a word. -/
structure Serves (limit size : Nat) (codes lengths : List Nat) : Prop where
  length : lengths.length = size
  complete : Code.Complete limit lengths
  pos : ∀ s ∈ codes, s < size → lengths[s]?.getD 0 ≠ 0

/-- **A code made for symbols** serves them. -/
theorem serves_ofFrequencies {limit size : Nat} (hLimit : 0 < limit) (hMany : 3 ≤ size)
    (hFits : size ≤ 2 ^ limit) (codes : List Nat) :
    Serves limit size codes (ofFrequencies limit (frequencies size codes)) := by
  have hlength := length_frequencies size codes
  obtain ⟨hkeeps, hcomplete⟩ := CodeLengths.ofFrequencies_spec hLimit (by rwa [hlength])
    (show (frequencies size codes).length ≤ 2 ^ limit by rwa [hlength])
  refine ⟨by rw [hkeeps.length, hlength], hcomplete, fun s hs hlt => hkeeps.pos s ?_⟩
  rw [getD_frequencies hlt]
  exact (List.count_pos_iff.mpr hs).ne'

/-- The code exists and reads the words of the symbols. -/
theorem Serves.exists_code {limit size : Nat} {codes lengths : List Nat}
    (h : Serves limit size codes lengths) (hLimit : limit ≤ Code.maxLength) (lone : Bool) :
    ∃ code, Code.ofLengths? lone lengths = some code ∧
      ∀ s ∈ codes, s < size → Speaks code (Code.words lengths) s := by
  obtain ⟨code, hcode⟩ := h.complete.exists_code hLimit lone
  exact ⟨code, hcode, fun s hs hlt => Speaks.of_length hcode (h.pos s hs hlt) fun n hn =>
    (h.complete.le n hn).trans hLimit⟩

/-! ## Zeros at the end -/

/-- The lengths that are left out are zeros. -/
theorem usedLengths_append (lengths : List Nat) :
    ∃ n, lengths = usedLengths lengths ++ List.replicate n 0 := by
  refine ⟨(lengths.reverse.takeWhile (· = 0)).length, ?_⟩
  have hzeros : lengths.reverse.takeWhile (· = 0) =
      List.replicate (lengths.reverse.takeWhile (· = 0)).length 0 :=
    List.eq_replicate_iff.mpr ⟨rfl, fun n hn => by simpa using List.mem_takeWhile_imp hn⟩
  have hsplit := congrArg List.reverse
    (List.takeWhile_append_dropWhile (p := (· = 0)) (l := lengths.reverse))
  rw [List.reverse_append, List.reverse_reverse, hzeros, List.reverse_replicate] at hsplit
  exact hsplit.symm

theorem getD_usedLengths (lengths : List Nat) (s : Nat) :
    (usedLengths lengths)[s]?.getD 0 = lengths[s]?.getD 0 := by
  obtain ⟨n, hsplit⟩ := usedLengths_append lengths
  generalize usedLengths lengths = front at hsplit
  subst hsplit
  rcases Nat.lt_or_ge s front.length with hs | hs
  · rw [List.getElem?_append_left hs]
  · rw [List.getElem?_eq_none hs, List.getElem?_append_right hs, List.getElem?_replicate]
    split <;> rfl

theorem length_usedLengths_le (lengths : List Nat) :
    (usedLengths lengths).length ≤ lengths.length := by
  obtain ⟨n, hsplit⟩ := usedLengths_append lengths
  have := congrArg List.length hsplit
  rw [List.length_append] at this
  omega

theorem lt_length_usedLengths {lengths : List Nat} {s : Nat} (h : lengths[s]?.getD 0 ≠ 0) :
    s < (usedLengths lengths).length := by
  by_contra hge
  rw [← getD_usedLengths, List.getElem?_eq_none (by omega)] at h
  exact h rfl

/-- Zeros at the end do not matter to a code. -/
theorem ofLengths?_append_replicate (lone : Bool) (lengths : List Nat) (n : Nat) :
    Code.ofLengths? lone (lengths ++ List.replicate n 0) = Code.ofLengths? lone lengths := by
  -- symbols without a word count for no length of words, and have no place in the order
  have hcounts : Code.countsOf (lengths ++ List.replicate n 0) = Code.countsOf lengths := by
    refine List.map_congr_left fun i _ => ?_
    rw [List.count_append, List.count_replicate]
    rfl
  have hsymbols : Code.symbolsOf (lengths ++ List.replicate n 0) = Code.symbolsOf lengths := by
    refine congrArg List.flatten (List.map_congr_left fun i _ => ?_)
    have hnone : ((List.replicate n 0).zipIdx (0 + lengths.length)).filter (fun p => p.1 == i + 1) =
        [] := by
      refine List.filter_eq_nil_iff.mpr fun p hp => ?_
      have := List.eq_of_mem_replicate (List.fst_mem_of_mem_zipIdx hp)
      simp [this]
    rw [List.zipIdx_append, List.filter_append, List.map_append, hnone, List.map_nil,
      List.append_nil]
  have hzeros (n m : Nat) : (List.replicate n 0).foldl max m = m := by
    induction n with
    | zero => rfl
    | succ n ih => rw [List.replicate_succ, List.foldl_cons, Nat.max_zero, ih]
  have hmax : (lengths ++ List.replicate n 0).foldl max 0 = lengths.foldl max 0 := by
    rw [List.foldl_append, hzeros]
  rw [Code.ofLengths?, Code.ofLengths?]
  dsimp only
  rw [hcounts, hsymbols, hmax]

theorem ofLengths?_usedLengths (lone : Bool) (lengths : List Nat) :
    Code.ofLengths? lone (usedLengths lengths) = Code.ofLengths? lone lengths := by
  obtain ⟨n, hsplit⟩ := usedLengths_append lengths
  conv_rhs => rw [hsplit]
  rw [ofLengths?_append_replicate]

/-! ## The length code -/

/-- What is found for a symbol in an order, of which a part is given. -/
theorem find?_zip_take (order : List Nat) (f : Nat → Nat) (k s : Nat) :
    (((order.zip ((order.map f).take k)).find? (·.1 == s)).map (·.2)) =
      if s ∈ order.take k then some (f s) else none := by
  induction order generalizing k with
  | nil => simp
  | cons m order ih =>
    cases k with
    | zero => simp
    | succ k =>
      rw [List.map_cons, List.take_succ_cons, List.zip_cons_cons, List.find?_cons,
        List.take_succ_cons]
      by_cases hm : m = s
      · subst hm
        simp
      · -- another symbol is first in the order, and is passed over
        have hbeq : (m == s) = false := beq_eq_false_iff_ne.mpr hm
        dsimp only
        rw [hbeq]
        dsimp only
        rw [ih]
        refine if_congr ?_ rfl rfl
        rw [List.mem_cons]
        exact (or_iff_right (Ne.symm hm)).symm

/-- **The lengths of the length code** are read from their order, less zeros at its end. -/
theorem lengths_of_ordered {lengths : List Nat} (hLength : lengths.length = 19) {k : Nat}
    (hk : (usedLengths (Inflate.lengthCodeOrder.map fun s => lengths[s]?.getD 0)).length ≤ k) :
    ((List.range 19).map fun s => (((Inflate.lengthCodeOrder.zip
      ((Inflate.lengthCodeOrder.map fun s => lengths[s]?.getD 0).take k)).find?
        (·.1 == s)).map (·.2)).getD 0) = lengths := by
  have hall : ∀ s < 19, s ∈ Inflate.lengthCodeOrder := by decide
  refine List.ext_getElem? fun s => ?_
  rw [List.getElem?_map]
  rcases Nat.lt_or_ge s 19 with hs | hs
  · obtain ⟨value, hvalue⟩ : ∃ value, lengths[s]? = some value :=
      ⟨_, List.getElem?_eq_getElem (by omega)⟩
    rw [List.getElem?_range hs, Option.map_some, find?_zip_take, hvalue]
    split
    · rfl
    · next hnot =>
      -- a symbol that is left out has no word
      obtain ⟨j, hj⟩ := List.getElem?_of_mem (hall s hs)
      have hjk : k ≤ j := by
        by_contra hlt
        exact hnot (List.mem_of_getElem? (by
          rw [List.getElem?_take_of_lt (Nat.lt_of_not_le hlt), hj]))
      have hzero := getD_usedLengths (Inflate.lengthCodeOrder.map fun s => lengths[s]?.getD 0) j
      rw [List.getElem?_eq_none (Nat.le_trans hk hjk), Option.getD_none, List.getElem?_map, hj, Option.map_some,
        Option.getD_some, hvalue, Option.getD_some] at hzero
      rw [← hzero, Option.getD_none]
  · rw [List.getElem?_eq_none (by rwa [List.length_range]), List.getElem?_eq_none (by omega)]
    rfl

/-! ## Both codes -/

/-- The symbols for the word lengths of two codes. -/
def codeRuns (literalLengths distanceLengths : List Nat) : List Symbol :=
  lengthSymbols none none 0 (usedLengths literalLengths) ++
    lengthSymbols none none 0 (usedLengths distanceLengths)

/-- The word lengths of the length code, in their order. -/
def orderedLengths (lengths : List Nat) : List Nat :=
  Inflate.lengthCodeOrder.map fun s => lengths[s]?.getD 0

/-- How many of them are written. -/
def orderedUsed (lengths : List Nat) : Nat := max 4 (usedLengths (orderedLengths lengths)).length

/-- The bits of two codes, with the length code that they are written with. -/
def codeBits (literalLengths distanceLengths runLengths : List Nat) : List Bool :=
  numberBits 5 ((usedLengths literalLengths).length - 257) ++
    (numberBits 5 ((usedLengths distanceLengths).length - 1) ++
      (numberBits 4 (orderedUsed runLengths - 4) ++
        (((orderedLengths runLengths).take (orderedUsed runLengths)).flatMap (numberBits 3) ++
          (codeRuns literalLengths distanceLengths).flatMap (symbolBits (Code.words runLengths)))))

/-- A complete code has a word. -/
theorem exists_getD_ne_zero {limit : Nat} {lengths : List Nat} (h : Code.Complete limit lengths) :
    ∃ s : Nat, lengths[s]?.getD 0 ≠ 0 := by
  by_contra hnone
  push Not at hnone
  -- symbols without words take nothing, and a complete code takes everything
  have hzero : Code.taken limit lengths = 0 := by
    refine List.sum_eq_zero fun n hn => ?_
    obtain ⟨length, hmem, rfl⟩ := List.mem_map.mp hn
    obtain ⟨s, hs⟩ := List.getElem?_of_mem hmem
    have := hnone s
    rw [hs, Option.getD_some] at this
    rw [this]
    rfl
  have hpow := Nat.two_pow_pos limit
  rw [h.full] at hzero
  omega

theorem length_orderedLengths (lengths : List Nat) : (orderedLengths lengths).length = 19 := rfl

theorem orderedUsed_bounds (lengths : List Nat) :
    4 ≤ orderedUsed lengths ∧ orderedUsed lengths ≤ 19 := by
  have hle := length_usedLengths_le (orderedLengths lengths)
  rw [length_orderedLengths] at hle
  rw [orderedUsed]
  omega

/-- The lengths of the length code are read in their order. -/
theorem reads_orderedLengths {lengths : List Nat} (h : Code.Complete 7 lengths) :
    ((List.range (orderedUsed lengths)).mapM fun _ => BitReader.number 3).Reads
      (((orderedLengths lengths).take (orderedUsed lengths)).flatMap (numberBits 3))
      ((orderedLengths lengths).take (orderedUsed lengths)) := by
  -- no length exceeds seven, which three bits hold
  have hone : ∀ n ∈ (orderedLengths lengths).take (orderedUsed lengths),
      (BitReader.number 3).Reads (numberBits 3 n) n := by
    intro n hn
    obtain ⟨s, -, rfl⟩ := List.mem_map.mp (List.mem_of_mem_take hn)
    exact BitReader.reads_number (Nat.lt_succ_of_le (h.getD_le s))
  have hplaces : (List.range (orderedUsed lengths)).length =
      ((orderedLengths lengths).take (orderedUsed lengths)).length := by
    rw [List.length_range, List.length_take, length_orderedLengths,
      Nat.min_eq_left (orderedUsed_bounds lengths).2]
  have hall := BitReader.Reads.mapM hone hplaces
  rwa [List.map_id'] at hall

/-- The symbols for the word lengths of two codes stand for them. -/
theorem spelled_codeRuns {literalLengths distanceLengths : List Nat}
    (hLiterals : Code.Complete 15 literalLengths) (hDistances : Code.Complete 15 distanceLengths) :
    Spelled [] (codeRuns literalLengths distanceLengths)
      (usedLengths literalLengths ++ usedLengths distanceLengths).reverse := by
  have hbelow {lengths : List Nat} (h : Code.Complete 15 lengths) :
      ∀ n ∈ usedLengths lengths, n < 16 := by
    obtain ⟨_, hsplit⟩ := usedLengths_append lengths
    refine fun n hn => Nat.lt_succ_of_le (h.le n ?_)
    rw [hsplit]
    exact List.mem_append_left _ hn
  have hliterals := spelled_lengthSymbols (hbelow hLiterals) []
  rw [List.append_nil] at hliterals
  rw [List.reverse_append]
  exact hliterals.append (spelled_lengthSymbols (hbelow hDistances) _)

/-- The word lengths of two codes are read back. -/
theorem reads_codeRuns {literalLengths distanceLengths runLengths : List Nat} {code : Code}
    (hLiterals : Code.Complete 15 literalLengths) (hDistances : Code.Complete 15 distanceLengths)
    (hRuns : Serves 7 19 ((codeRuns literalLengths distanceLengths).map (·.code)) runLengths)
    (hCode : Code.ofLengths? false runLengths = some code) {total : Nat}
    (hTotal : (usedLengths literalLengths).length + (usedLengths distanceLengths).length = total) :
    (Inflate.wordLengths code total total []).Reads
      ((codeRuns literalLengths distanceLengths).flatMap (symbolBits (Code.words runLengths)))
      (usedLengths literalLengths ++ usedLengths distanceLengths) := by
  -- every run has a word, and there are no more runs than lengths
  have hspelled := spelled_codeRuns hLiterals hDistances
  have hspeaks : ∀ s ∈ codeRuns literalLengths distanceLengths,
      Speaks code (Code.words runLengths) s.code := by
    obtain ⟨code', hcode', hspeaks⟩ := hRuns.exists_code (by decide) false
    obtain rfl := Option.some.inj (hCode.symm.trans hcode')
    exact fun s hs => hspeaks s.code (List.mem_map_of_mem hs) (hspelled.code_lt s hs)
  have htotal : (usedLengths literalLengths ++ usedLengths distanceLengths).reverse.length = total := by
    rw [List.length_reverse, List.length_append, hTotal]
  have hfuel := hspelled.length_le
  rw [htotal, List.length_nil, Nat.zero_add] at hfuel
  have hreads := hspelled.reads hspeaks hfuel
  rwa [htotal, List.reverse_reverse] at hreads

/-- **Both codes of a block are read back.** -/
theorem reads_blockCodes {literalCodes distanceCodes literalLengths distanceLengths : List Nat}
    {runLengths : List Nat} (hLiterals : Serves 15 286 literalCodes literalLengths)
    (hEnd : 256 ∈ literalCodes) (hDistances : Serves 15 30 distanceCodes distanceLengths)
    (hRuns : Serves 7 19 ((codeRuns literalLengths distanceLengths).map (·.code)) runLengths)
    {literals distances : Code} (hLiteralCode : Code.ofLengths? true literalLengths = some literals)
    (hDistanceCode : Code.ofLengths? true distanceLengths = some distances) :
    Inflate.blockCodes.Reads (codeBits literalLengths distanceLengths runLengths)
      (literals, distances) := by
  -- the numbers of lengths are within what their fields hold: the end of a block has a word, and
  -- so has some distance
  have hendPos : literalLengths[256]?.getD 0 ≠ 0 := hLiterals.pos 256 hEnd (by decide)
  have hliteralMin := lt_length_usedLengths hendPos
  have hliteralMax := length_usedLengths_le literalLengths
  rw [hLiterals.length] at hliteralMax
  obtain ⟨s, hs⟩ := exists_getD_ne_zero hDistances.complete
  have hdistanceMin := lt_length_usedLengths hs
  have hdistanceMax := length_usedLengths_le distanceLengths
  rw [hDistances.length] at hdistanceMax
  obtain ⟨horderedMin, horderedMax⟩ := orderedUsed_bounds runLengths
  obtain ⟨code, hcode, -⟩ := hRuns.exists_code (by decide) false
  rw [Inflate.blockCodes, codeBits]
  -- the three numbers, less what each is at least
  refine BitReader.Reads.bind (BitReader.reads_number (by omega)) ?_
  refine BitReader.Reads.bind (BitReader.reads_number (by omega)) ?_
  refine BitReader.Reads.bind (BitReader.reads_number (by omega)) ?_
  dsimp only
  rw [Nat.add_sub_cancel' hliteralMin, Nat.add_sub_cancel' (show 1 ≤ _ by omega),
    Nat.add_sub_cancel' horderedMin, if_neg (by omega)]
  -- the lengths of the code for runs, and then the runs
  refine BitReader.Reads.bind (reads_orderedLengths hRuns.complete) ?_
  rw [orderedLengths, lengths_of_ordered hRuns.length
    (show _ ≤ orderedUsed runLengths from Nat.le_max_right _ _)]
  refine BitReader.reads_lift_bind hcode ?_
  rw [← List.append_nil (List.flatMap _ (codeRuns literalLengths distanceLengths))]
  refine BitReader.Reads.bind
    (reads_codeRuns hLiterals.complete hDistances.complete hRuns hcode rfl) ?_
  -- both sets of lengths come from one row of runs, which is cut where the first set ends
  rw [List.take_left, List.drop_left, getD_usedLengths, if_neg hendPos, ofLengths?_usedLengths,
    ofLengths?_usedLengths]
  exact BitReader.reads_lift_bind hLiteralCode (BitReader.reads_lift_bind hDistanceCode
    (BitReader.reads_pure _))

end Keyset.Deflate
