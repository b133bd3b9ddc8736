import Keyset.Bytes.Deflate
import Mathlib

/-!
# Keyset — literals and copies expand to the bytes

Whatever candidates the search tries, a match is only ever a repetition that was compared byte
by byte. The bytes before the position that is read, less the one that is pending, are
therefore at every moment what the items so far expand to.

* `Item.expand?` — the bytes that items stand for.
* `Match.Repeats` — bytes that occur earlier; `copyBack_of_repeats`.
* `Match.Holds` — what every step keeps, whether it writes or holds a match; `Holds.step`,
  `Holds.run`.
* `Match.items_spec` — the items of a byte sequence expand to it, and can be written.
-/

namespace Keyset

namespace Item

/-- Append what an item stands for. -/
def append? (out : Array UInt8) : Item → Option (Array UInt8)
  | .literal b => some (out.push b)
  | .copy length distance => Inflate.copyBack distance length out

/-- Append what items stand for. -/
def expand? (out : Array UInt8) (items : List Item) : Option (Array UInt8) := items.foldlM append? out

/-- Copies have lengths and distances that can be written. -/
def Writable : Item → Prop
  | .literal _ => True
  | .copy length distance => (Match.minLength ≤ length ∧ length ≤ Match.maxLength) ∧
      1 ≤ distance ∧ distance ≤ Match.maxDistance

end Item

namespace Match

variable {data : Array UInt8} {i : Nat}

/-! ## Repetitions -/

/-- The bytes from a position occur earlier, not too far away. -/
structure Repeats (data : Array UInt8) (i length start : Nat) : Prop where
  lt : start < i
  near : i - start ≤ maxDistance
  short : length ≤ maxLength
  inside : i + length ≤ data.size
  same : ∀ k < length, data[start + k]? = data[i + k]?

/-- Copying a repetition continues the bytes before it. -/
theorem copyBack_of_repeats {distance length : Nat} (hLe : distance ≤ i)
    (hPos : 1 ≤ distance) (hSize : i + length ≤ data.size)
    (hSame : ∀ k < length, data[i - distance + k]? = data[i + k]?) :
    Inflate.copyBack distance length (data.extract 0 i) = some (data.extract 0 (i + length)) := by
  induction length generalizing i with
  | zero => rfl
  | succ length ih =>
    have hsize : (data.extract 0 i).size = i := by
      rw [Array.size_extract]
      omega
    -- the byte that is copied is the one that comes next
    have hbyte : (data.extract 0 i)[i - distance]? = some data[i] := by
      have hfirst := hSame 0 (Nat.succ_pos _)
      rw [Nat.add_zero, Nat.add_zero, Array.getElem?_eq_getElem (show i < data.size by omega)] at hfirst
      rw [Array.getElem?_extract, if_pos (by omega), Nat.zero_add, hfirst]
    have hpush : (data.extract 0 i).push data[i] = data.extract 0 (i + 1) := by
      rw [Array.extract_succ_right (by omega) (by omega)]
    rw [Inflate.copyBack, hsize, if_pos hLe, hbyte]
    dsimp only
    rw [hpush, ih (by omega) (by omega) fun k hk => ?_, Nat.add_right_comm, Nat.add_assoc]
    have hnext := hSame (k + 1) (by omega)
    rw [show i + 1 - distance + k = i - distance + (k + 1) by omega, hnext,
      Nat.add_right_comm, Nat.add_assoc]

/-! ## Searching -/

theorem agreeing_spec (data : Array UInt8) (i j limit : Nat) :
    agreeing data i j limit ≤ limit ∧
      ∀ k < agreeing data i j limit, data[i + k]? = data[j + k]? := by
  induction limit generalizing i j with
  | zero => exact ⟨Nat.le_refl 0, fun k hk => absurd hk (Nat.not_lt_zero k)⟩
  | succ limit ih =>
    obtain ⟨hle, hsame⟩ := ih (i + 1) (j + 1)
    rw [agreeing]
    split
    · next hfirst =>
      refine ⟨by omega, fun k hk => ?_⟩
      -- the first bytes agree, and the others by induction
      cases k with
      | zero => exact eq_of_beq hfirst
      | succ k =>
        have hnext := hsame k (by omega)
        rwa [Nat.add_right_comm, Nat.add_right_comm j] at hnext
    · exact ⟨Nat.zero_le _, fun k hk => absurd hk (Nat.not_lt_zero k)⟩

theorem repeats_agreeing {candidate : Nat} (hLt : candidate < i)
    (hNear : i - candidate ≤ maxDistance) (hSize : i ≤ data.size) :
    Repeats data i (agreeing data candidate i (min maxLength (data.size - i))) candidate := by
  obtain ⟨hle, hsame⟩ := agreeing_spec data candidate i (min maxLength (data.size - i))
  exact ⟨hLt, hNear, by omega, by omega, hsame⟩

/-- **What the search finds** is what it had, or a longer repetition. -/
theorem longestFrom_spec {before : Array Nat} (hBack : ∀ j : Nat, before[j]?.getD 0 ≤ j - 1)
    (hSize : i ≤ data.size) (nice tries : Nat) {candidate : Nat} (hLt : candidate < i)
    (hNear : i - candidate ≤ maxDistance) (best start : Nat) :
    longestFrom data before i nice tries candidate best start = (best, start) ∨
      best < (longestFrom data before i nice tries candidate best start).1 ∧
      Repeats data i (longestFrom data before i nice tries candidate best start).1
        (longestFrom data before i nice tries candidate best start).2 := by
  induction tries generalizing candidate best start with
  | zero => exact Or.inl rfl
  | succ tries ih =>
    have hrepeats := repeats_agreeing hLt hNear hSize
    rw [longestFrom]
    dsimp only
    generalize agreeing data candidate i (min maxLength (data.size - i)) = length at hrepeats
    by_cases hnice : best < length ∧ nice ≤ length
    · rw [if_pos hnice]
      exact Or.inr ⟨hnice.1, hrepeats⟩
    · rw [if_neg hnice]
      -- the match in hand from here on
      generalize hbest : (if best < length then (length, candidate) else (best, start)) = found
      have hfound : found = (best, start) ∨ best < found.1 ∧ Repeats data i found.1 found.2 := by
        rw [← hbest]
        split
        · next hlonger => exact Or.inr ⟨hlonger, hrepeats⟩
        · exact Or.inl rfl
      have hnext := hBack candidate
      generalize before[candidate]?.getD 0 = next at hnext
      by_cases hend : next ≤ i - maxDistance
      · rw [if_pos hend]
        exact hfound
      · rw [if_neg hend]
        have hrest := @ih next (by omega) (by omega) found.1 found.2
        rcases hrest with hsame | ⟨hlonger, hrest⟩
        · rw [hsame]
          exact hfound
        · refine Or.inr ⟨?_, hrest⟩
          rcases hfound with rfl | hfound <;> omega

/-! ## Chains -/

/-- Chains lead back: heads are earlier positions, and so is what comes before a position. -/
structure Chains.Back (c : Chains) (i : Nat) : Prop where
  head : ∀ h : Nat, c.head[h]?.getD 0 ≤ i - 1
  before : ∀ j : Nat, c.before[j]?.getD 0 ≤ j - 1

theorem getD_setIfInBounds_le {a : Array Nat} {k value bound : Nat} (j : Nat)
    (ha : a[j]?.getD 0 ≤ bound) (hValue : j = k → value ≤ bound) :
    (a.setIfInBounds k value)[j]?.getD 0 ≤ bound := by
  rw [Array.getElem?_setIfInBounds]
  split
  · next hk =>
    split
    · exact hValue hk.symm
    · exact Nat.zero_le _
  · exact ha

/-- Entering a position keeps chains leading back; its former head is earlier. -/
theorem Chains.Back.insert {c : Chains} (h : c.Back i) (data : Array UInt8) :
    (c.insert data i).1.Back (i + 1) ∧ (c.insert data i).2 ≤ i - 1 := by
  rw [Chains.insert]
  split
  · have hformer := h.head (hash data i)
    refine ⟨⟨fun j => ?_, fun j => ?_⟩, hformer⟩
    · exact getD_setIfInBounds_le j ((h.head j).trans (by omega)) fun _ => by omega
    · refine getD_setIfInBounds_le j (h.before j) fun hj => ?_
      rw [hj]
      exact hformer
  · exact ⟨⟨fun j => (h.head j).trans (by omega), h.before⟩, Nat.zero_le _⟩

theorem Chains.Back.insertMany {c : Chains} (h : c.Back i) (data : Array UInt8) (count : Nat) :
    (Match.insertMany data count i c).Back (i + count) := by
  induction count generalizing i c with
  | zero => exact h
  | succ count ih =>
    rw [Match.insertMany, Nat.add_comm count, ← Nat.add_assoc]
    exact ih (h.insert data).1

/-! ## Matches -/

/-- The best match is a repetition, if it is longer than what there was. -/
theorem longest_spec {before : Array Nat} (hBack : ∀ j : Nat, before[j]?.getD 0 ≤ j - 1)
    (hSize : i ≤ data.size) {candidate : Nat} (hLt : candidate < i)
    (hNear : i - candidate ≤ maxDistance) (previous start : Nat)
    (hLonger : previous < (longest data before i candidate previous start).1) :
    Repeats data i (longest data before i candidate previous start).1
      (longest data before i candidate previous start).2 := by
  rw [longest] at hLonger ⊢
  dsimp only at hLonger ⊢
  rcases longestFrom_spec hBack hSize (min niceLength (data.size - i))
    (if goodLength ≤ previous then chainLength / 4 else chainLength) hLt hNear previous start
    with hsame | ⟨-, hrepeats⟩
  · rw [hsame] at hLonger
    exact absurd hLonger (by omega)
  · -- the end of the data already bounds what was found
    have hinside := hrepeats.inside
    rwa [Nat.min_eq_left (by omega)]

/-- A match that is longer than the one before is a repetition. -/
theorem found_spec {s : State} {before : Array Nat} {candidate : Nat}
    (hBack : ∀ j : Nat, before[j]?.getD 0 ≤ j - 1) (hSize : s.position ≤ data.size)
    (hCandidate : candidate ≤ s.position - 1)
    (hLonger : s.length < (found data before s candidate).1)
    (hLength : minLength ≤ (found data before s candidate).1) :
    Repeats data s.position (found data before s candidate).1 (found data before s candidate).2 := by
  have hnone : ¬ minLength ≤ minLength - 1 := by decide
  rw [found] at hLonger hLength ⊢
  by_cases htry : candidate ≠ 0 ∧ s.length < lazyLength ∧ s.position - candidate ≤ maxDistance
  · simp only [if_pos htry] at hLonger hLength ⊢
    have hspec := longest_spec hBack hSize (show candidate < s.position by omega) htry.2.2 s.length
      s.start
    generalize longest data before s.position candidate s.length s.start = best at *
    by_cases hfar : best.1 = minLength ∧ tooFar < s.position - best.2
    · simp only [if_pos hfar] at hLength
      -- a short match that is too far away counts as none
      exact absurd hLength hnone
    · simp only [if_neg hfar] at hLonger ⊢
      exact hspec hLonger
  · simp only [if_neg htry] at hLength
    exact absurd hLength hnone

/-! ## Steps -/

/-- What is true whenever a position is read. -/
structure Holds (data : Array UInt8) (s : State) : Prop where
  chains : s.chains.Back s.position
  held : minLength ≤ s.length →
    s.pending = true ∧ Repeats data (s.position - 1) s.length s.start
  pos : s.pending = true → 1 ≤ s.position
  le : s.position ≤ data.size
  output : Item.expand? #[] s.items.toList =
    some (data.extract 0 (s.position - if s.pending then 1 else 0))
  writable : ∀ item ∈ s.items.toList, item.Writable

/-- One more item is written. -/
theorem expand?_push {items : Array Item} {out out' : Array UInt8} {item : Item}
    (h : Item.expand? #[] items.toList = some out) (hItem : item.append? out = some out') :
    Item.expand? #[] (items.push item).toList = some out' := by
  rw [Item.expand?] at h ⊢
  rw [Array.toList_push, List.foldlM_append, h]
  simp only [List.foldlM_cons, List.foldlM_nil, Option.bind_eq_bind, Option.bind_some, hItem]
  rfl

theorem writable_push {items : Array Item} {item : Item}
    (h : ∀ x ∈ items.toList, x.Writable) (hItem : item.Writable) :
    ∀ x ∈ (items.push item).toList, x.Writable := by
  rw [Array.toList_push]
  exact List.forall_mem_append.mpr ⟨h, List.forall_mem_singleton.mpr hItem⟩

/-- The literal that is pending. -/
theorem append?_literal (hPos : 1 ≤ i) (hLe : i ≤ data.size) :
    (Item.literal (data[i - 1]?.getD 0)).append? (data.extract 0 (i - 1)) =
      some (data.extract 0 i) := by
  obtain ⟨i, rfl⟩ := Nat.exists_eq_add_of_le' hPos
  rw [Nat.add_sub_cancel, Item.append?, Array.getElem?_eq_getElem (by omega), Option.getD_some,
    Array.extract_succ_right (by omega) (by omega)]

/-- Copying the held match continues the bytes before it. -/
theorem Repeats.append?_copy {i length start : Nat} (h : Repeats data i length start) :
    (Item.copy length (i - start)).append? (data.extract 0 i) =
      some (data.extract 0 (i + length)) := by
  have hlt := h.lt
  refine copyBack_of_repeats (Nat.sub_le _ _) (by omega) h.inside fun k hk => ?_
  rw [show i - (i - start) + k = start + k by omega]
  exact h.same k hk

/-- Writing the held match keeps this. -/
theorem Holds.write {s : State} {chains : Chains} (h : Holds data s)
    (hChains : chains.Back (s.position + 1)) (hHeld : minLength ≤ s.length) (start : Nat) :
    Holds data
      { position := s.position + s.length - 1
        chains := insertMany data (s.length - 2) (s.position + 1) chains
        length := minLength - 1
        start := start
        pending := false
        items := s.items.push (.copy s.length (s.position - 1 - s.start)) } := by
  obtain ⟨hpending, hrepeats⟩ := h.held hHeld
  have hposition := h.pos hpending
  have hlength : 3 ≤ s.length := hHeld
  have hlt := hrepeats.lt
  have hinside := hrepeats.inside
  -- the match starts at the byte that is pending, one before the position
  have hend : s.position - 1 + s.length = s.position + s.length - 1 := by omega
  refine ⟨?chains, ?held, ?pos, ?le, ?output, ?writable⟩
  case chains =>
    have hmany := hChains.insertMany data (s.length - 2)
    rwa [show s.position + 1 + (s.length - 2) = s.position + s.length - 1 by omega] at hmany
  case held => exact fun hlong => absurd (show minLength ≤ minLength - 1 from hlong) (by decide)
  case pos => exact fun hfalse => absurd hfalse Bool.false_ne_true
  case le => exact hend ▸ hinside
  case output =>
    have houtput := h.output
    have hcopy := hrepeats.append?_copy
    rw [hpending, if_pos rfl] at houtput
    rw [hend] at hcopy
    exact expand?_push houtput hcopy
  case writable =>
    exact writable_push h.writable ⟨⟨hHeld, hrepeats.short⟩, by omega, hrepeats.near⟩

/-- Holding what was found, with the byte before it written as a literal, keeps this. -/
theorem Holds.hold {s : State} {chains : Chains} {length start : Nat} (h : Holds data s)
    (hChains : chains.Back (s.position + 1)) (hLt : s.position < data.size)
    (hFound : minLength ≤ length → Repeats data s.position length start) :
    Holds data
      { position := s.position + 1
        chains := chains
        length := length
        start := start
        pending := true
        items := if s.pending then s.items.push (.literal (data[s.position - 1]?.getD 0))
          else s.items } := by
  refine ⟨hChains, fun hlong => ⟨rfl, hFound hlong⟩, fun _ => Nat.le_add_left 1 _, hLt,
    ?output, ?writable⟩
  case output =>
    have houtput := h.output
    -- the byte before the position is pending from the step before, or there is none
    rw [if_pos rfl, Nat.add_sub_cancel]
    split
    · next hpending =>
      rw [hpending, if_pos rfl] at houtput
      exact expand?_push houtput (append?_literal (h.pos hpending) h.le)
    · next hpending => rwa [if_neg hpending] at houtput
  case writable =>
    split
    · exact writable_push h.writable trivial
    · exact h.writable

/-- **Every step keeps this**, and advances. -/
theorem Holds.step {s : State} (h : Holds data s) (hLt : s.position < data.size) :
    Holds data (Match.step data s) ∧ s.position < (Match.step data s).position := by
  obtain ⟨hchains, hcandidate⟩ := h.chains.insert data
  have hfound := found_spec (s := s) hchains.before h.le hcandidate
  rw [Match.step]
  dsimp only
  generalize s.chains.insert data s.position = entered at *
  generalize found data entered.1.before s entered.2 = best at *
  by_cases hwrite : minLength ≤ s.length ∧ best.1 ≤ s.length
  · have hlength : 3 ≤ s.length := hwrite.1
    simp only [if_pos hwrite]
    exact ⟨h.write hchains hwrite.1 best.2, by omega⟩
  · simp only [if_neg hwrite]
    -- what is not written is longer than the match that was held, if it is a match
    have hlonger (hlong : minLength ≤ best.1) : s.length < best.1 :=
      Nat.lt_of_not_le fun hle => hwrite ⟨Nat.le_trans hlong hle, hle⟩
    exact ⟨h.hold hchains hLt fun hlong => hfound (hlonger hlong) hlong, Nat.lt_succ_self _⟩

/-- **Reading to the end.** Every step advances, so that there are enough of them. -/
theorem Holds.run {s : State} (h : Holds data s) {fuel : Nat}
    (hFuel : data.size < s.position + fuel) :
    Holds data (Match.run data fuel s) ∧ (Match.run data fuel s).position = data.size := by
  induction fuel generalizing s with
  | zero => exact absurd h.le (by omega)
  | succ fuel ih =>
    have hle := h.le
    rw [Match.run]
    split
    · exact ⟨h, by omega⟩
    · obtain ⟨hstep, hadvance⟩ := h.step (by omega)
      exact ih hstep (by omega)

/-- Where reading starts. -/
def initial (data : Array UInt8) : State where
  position := 0
  chains := ⟨Array.replicate 32768 0, Array.replicate data.size 0⟩
  length := minLength - 1
  start := 0
  pending := false
  items := #[]

theorem holds_initial (data : Array UInt8) : Holds data (initial data) where
  chains := by
    have hzero (size j : Nat) : (Array.replicate size 0)[j]?.getD 0 = 0 := by
      rw [Array.getElem?_replicate]
      split <;> rfl
    exact ⟨fun j => (hzero _ j).le, fun j => (hzero _ j).trans_le (Nat.zero_le _)⟩
  held hlong := absurd (show minLength ≤ minLength - 1 from hlong) (by decide)
  pos hfalse := absurd hfalse Bool.false_ne_true
  le := Nat.zero_le _
  output := congrArg some Array.extract_zero.symm
  writable x hx := absurd hx (by simp [initial])

/-- **The items of a byte sequence** expand to it, with the literal that is pending at its end. -/
theorem items_spec (data : Array UInt8) :
    Item.expand? #[] ((items data).1.toList ++ (items data).2.toList) = some data ∧
      ∀ x ∈ (items data).1.toList ++ (items data).2.toList, x.Writable := by
  have hitems : items data = ((run data (data.size + 1) (initial data)).items,
      if (run data (data.size + 1) (initial data)).pending then
        some (.literal (data[(run data (data.size + 1) (initial data)).position - 1]?.getD 0))
      else none) := rfl
  have hfuel : data.size < (initial data).position + (data.size + 1) := by
    rw [initial]
    omega
  obtain ⟨h, hend⟩ := (holds_initial data).run hfuel
  rw [hitems]
  generalize run data (data.size + 1) (initial data) = s at h hend
  have houtput := h.output
  rw [hend] at houtput
  dsimp only
  by_cases hpending : s.pending = true
  · -- the last byte is still pending, and is the literal at the end
    have hpos := h.pos hpending
    have hlast := append?_literal (hend ▸ hpos) (Nat.le_refl data.size)
    rw [hpending, if_pos rfl] at houtput
    rw [if_pos hpending, hend, Option.toList_some, ← Array.toList_push]
    refine ⟨?_, writable_push h.writable trivial⟩
    rw [expand?_push houtput hlast, Array.extract_size]
  · rw [if_neg hpending, Nat.sub_zero, Array.extract_size] at houtput
    rw [if_neg hpending, Option.toList_none, List.append_nil]
    exact ⟨houtput, h.writable⟩

end Match

end Keyset
