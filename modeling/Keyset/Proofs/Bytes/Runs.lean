import Keyset.Proofs.Bytes.Symbols

/-!
# Keyset — runs of word lengths are read back

Word lengths are written as symbols that each stand for some equal lengths: one length, the last
one again, or zeros. Writing starts a new run where the length changes or the run is full, so
that a symbol that repeats the last length always follows it.

* `Spells` — what a symbol stands for after earlier lengths; `Spelled` for symbols in a row.
* `spelled_lengthSymbols` — the symbols for word lengths stand for them.
* `Spelled.reads` — word lengths are read back.
-/

namespace Keyset.Deflate

/-! ## Spelling -/

/-- After lengths, the last one first, a symbol stands for a number of equal ones. -/
inductive Spells (lengths : List Nat) : Symbol → Nat → Nat → Prop
  | one {n : Nat} (hn : n < 16) : Spells lengths ⟨n, 0, 0⟩ n 1
  | again {last n : Nat} (hLast : lengths.head? = some last) (hn : n < 4) :
      Spells lengths ⟨16, n, 2⟩ last (3 + n)
  | zeros {n : Nat} (hn : n < 8) : Spells lengths ⟨17, n, 3⟩ 0 (3 + n)
  | manyZeros {n : Nat} (hn : n < 128) : Spells lengths ⟨18, n, 7⟩ 0 (11 + n)

/-- Symbols in a row lead from lengths to more lengths, the last one first. -/
inductive Spelled : List Nat → List Symbol → List Nat → Prop
  | nil {lengths : List Nat} : Spelled lengths [] lengths
  | cons {lengths lengths' : List Nat} {s : Symbol} {symbols : List Symbol} {value count : Nat}
      (hSymbol : Spells lengths s value count)
      (hRest : Spelled (List.replicate count value ++ lengths) symbols lengths') :
      Spelled lengths (s :: symbols) lengths'

section Spelled

variable {lengths lengths' lengths'' : List Nat} {symbols symbols' : List Symbol} {s : Symbol}
  {value count : Nat}

theorem Spelled.append (h : Spelled lengths symbols lengths')
    (h' : Spelled lengths' symbols' lengths'') : Spelled lengths (symbols ++ symbols') lengths'' := by
  induction h with
  | nil => exact h'
  | cons hSymbol _ ih => exact .cons hSymbol (ih h')

theorem Spells.spelled (h : Spells lengths s value count) :
    Spelled lengths [s] (List.replicate count value ++ lengths) :=
  .cons h .nil

theorem Spells.pos (h : Spells lengths s value count) : 0 < count := by
  cases h <;> omega

theorem Spells.code_lt (h : Spells lengths s value count) : s.code < 19 := by
  cases h with
  | one hn => exact Nat.lt_trans hn (by decide)
  | again => exact show 16 < 19 by decide
  | zeros => exact show 17 < 19 by decide
  | manyZeros => exact show 18 < 19 by decide

theorem Spelled.code_lt (h : Spelled lengths symbols lengths') : ∀ s ∈ symbols, s.code < 19 := by
  induction h with
  | nil => exact fun _ hs => nomatch hs
  | cons hSymbol _ ih => exact List.forall_mem_cons.mpr ⟨hSymbol.code_lt, ih⟩

/-- Every symbol adds a length. -/
theorem Spelled.length_le (h : Spelled lengths symbols lengths') :
    lengths.length + symbols.length ≤ lengths'.length := by
  induction h with
  | nil => exact Nat.le_refl _
  | cons hSymbol _ ih =>
    have := hSymbol.pos
    rw [List.length_append, List.length_replicate] at ih
    rw [List.length_cons]
    omega

/-! ## Runs -/

/-- A length may be written by itself, any number of times. -/
theorem spelled_replicate (hValue : value < 16) (count : Nat) (lengths : List Nat) :
    Spelled lengths (List.replicate count ⟨value, 0, 0⟩) (List.replicate count value ++ lengths) := by
  induction count generalizing lengths with
  | zero => exact .nil
  | succ count ih =>
    have hrest := ih (value :: lengths)
    rw [List.replicate_succ, List.replicate_succ', List.append_assoc]
    exact .cons (.one hValue) hrest

/-- A run of zeros is one symbol, or single lengths where it is short. -/
theorem spelled_zeros (previous : Option Nat) (hCount : count ≤ 138) :
    Spelled lengths (runSymbols (some 0) previous count) (List.replicate count 0 ++ lengths) := by
  rw [runSymbols, if_pos rfl]
  by_cases hfew : count < 3
  · rw [if_pos hfew]
    exact spelled_replicate (by decide) count lengths
  rw [if_neg hfew]
  by_cases hmany : count ≤ 10
  · have hspells : Spells lengths ⟨17, count - 3, 3⟩ 0 (3 + (count - 3)) := .zeros (by omega)
    rw [Nat.add_sub_cancel' (by omega)] at hspells
    rw [if_pos hmany]
    exact hspells.spelled
  · have hspells : Spells lengths ⟨18, count - 11, 7⟩ 0 (11 + (count - 11)) :=
      .manyZeros (by omega)
    rw [Nat.add_sub_cancel' (by omega)] at hspells
    rw [if_neg hmany]
    exact hspells.spelled

/-- A run of the last length is one symbol, or single lengths where it is short. -/
theorem spelled_again (hValue : value < 16) (hZero : value ≠ 0)
    (hLast : lengths.head? = some value) (hCount : count ≤ 6) :
    Spelled lengths (runSymbols (some value) (some value) count)
      (List.replicate count value ++ lengths) := by
  rw [runSymbols, if_neg hZero, if_pos rfl]
  by_cases hfew : count < 3
  · rw [if_pos hfew]
    exact spelled_replicate hValue count lengths
  · have hspells := Spells.again hLast (show count - 3 < 4 by omega)
    rw [Nat.add_sub_cancel' (by omega)] at hspells
    rw [if_neg hfew]
    exact hspells.spelled

/-- A run of another length is that length itself, and then it again. -/
theorem spelled_changed {previous : Option Nat} (hValue : value < 16) (hZero : value ≠ 0)
    (hChanged : previous ≠ some value) (hCount : count ≤ 7) :
    Spelled lengths (runSymbols (some value) previous count)
      (List.replicate count value ++ lengths) := by
  rw [runSymbols, if_neg hZero, if_neg hChanged]
  by_cases hfew : count < 4
  · rw [if_pos hfew]
    exact spelled_replicate hValue count lengths
  · obtain ⟨n, rfl⟩ := Nat.exists_eq_add_of_le' (Nat.le_of_not_lt hfew)
    have hspells : Spells (value :: lengths) ⟨16, n, 2⟩ value (3 + n) := .again rfl (by omega)
    have hall : List.replicate (n + 4) value ++ lengths =
        List.replicate (3 + n) value ++ value :: lengths := by
      rw [show n + 4 = 3 + n + 1 by omega, List.replicate_succ', List.append_assoc,
        List.singleton_append]
    rw [if_neg hfew, hall, Nat.add_sub_cancel]
    exact .cons (.one hValue) hspells.spelled

/-- **The symbols of a run** stand for it. -/
theorem spelled_runSymbols {previous : Option Nat} (hValue : value < 16)
    (hPrevious : ∀ last ∈ previous, lengths.head? = some last)
    (hCount : count ≤ longestRun value previous) :
    Spelled lengths (runSymbols (some value) previous count)
      (List.replicate count value ++ lengths) := by
  rw [longestRun] at hCount
  by_cases hzero : value = 0
  · subst hzero
    rw [if_pos rfl] at hCount
    exact spelled_zeros previous hCount
  rw [if_neg hzero] at hCount
  by_cases hsame : previous = some value
  · rw [if_pos hsame] at hCount
    subst hsame
    exact spelled_again hValue hzero (hPrevious value rfl) hCount
  · rw [if_neg hsame] at hCount
    exact spelled_changed hValue hzero hsame hCount

/-- Writing goes on with an open run. -/
theorem spelled_lengthSymbols_some {previous : Option Nat} {rest : List Nat}
    (hValue : value < 16) (hRest : ∀ n ∈ rest, n < 16)
    (hPrevious : ∀ last ∈ previous, lengths.head? = some last) (hPos : 0 < count)
    (hCount : count ≤ longestRun value previous) :
    Spelled lengths (lengthSymbols (some value) previous count rest)
      (rest.reverse ++ (List.replicate count value ++ lengths)) := by
  induction rest generalizing lengths value previous count with
  | nil => exact spelled_runSymbols hValue hPrevious hCount
  | cons n rest ih =>
    rw [List.forall_mem_cons] at hRest
    rw [lengthSymbols, List.reverse_cons, List.append_assoc]
    by_cases hsame : n = value ∧ count < longestRun value previous
    · -- the run grows by one more length
      obtain ⟨rfl, hlt⟩ := hsame
      rw [if_pos ⟨rfl, hlt⟩]
      exact ih hValue hRest.2 hPrevious (Nat.succ_pos _) hlt
    · -- the run ends here, and its length is the last one
      rw [if_neg hsame]
      have hlast : ∀ last ∈ some value, (List.replicate count value ++ lengths).head? = some last := by
        intro last hlast
        obtain rfl := Option.some.inj hlast
        obtain ⟨count, rfl⟩ := Nat.exists_eq_succ_of_ne_zero hPos.ne'
        rfl
      have hone : 1 ≤ longestRun n (some value) := by
        rw [longestRun]
        split
        · decide
        · split <;> decide
      exact (spelled_runSymbols hValue hPrevious hCount).append
        (ih hRest.1 hRest.2 hlast Nat.one_pos hone)

/-- **The symbols for word lengths** stand for them. -/
theorem spelled_lengthSymbols {given : List Nat} (hGiven : ∀ n ∈ given, n < 16)
    (lengths : List Nat) :
    Spelled lengths (lengthSymbols none none 0 given) (given.reverse ++ lengths) := by
  cases given with
  | nil => exact .nil
  | cons n rest =>
    rw [List.forall_mem_cons] at hGiven
    rw [lengthSymbols, List.reverse_cons, List.append_assoc]
    have hone : 1 ≤ longestRun n none := by
      rw [longestRun, if_neg (show ¬ none = some n from nofun)]
      split <;> decide
    exact spelled_lengthSymbols_some hGiven.1 hGiven.2 (fun _ h => nomatch h) Nat.one_pos hone

/-! ## Reading -/

/-- Read what a symbol stands for. -/
def readRun (lengths : List Nat) (s : Nat) : BitReader (Nat × Nat) := do
  if s < 16 then pure (s, 1)
  else if s = 16 then do
    let n ← BitReader.number 2
    match lengths with
    | last :: _ => pure (last, 3 + n)
    | [] => failure
  else if s = 17 then do pure (0, 3 + (← BitReader.number 3))
  else do pure (0, 11 + (← BitReader.number 7))

theorem wordLengths_succ (code : Code) (total fuel : Nat) (lengths : List Nat)
    (h : ¬ total ≤ lengths.length) : Inflate.wordLengths code total (fuel + 1) lengths =
      (code.read >>= fun s => readRun lengths s >>= fun run =>
        Inflate.wordLengths code total fuel (List.replicate run.2 run.1 ++ lengths)) := by
  rw [Inflate.wordLengths, if_neg h]
  refine congrArg (code.read >>= ·) (funext fun s => ?_)
  rw [readRun]
  split
  · rw [pure_bind]
  · split
    · rw [bind_assoc]
      cases lengths with
      | nil => rfl
      | cons last rest => simp only [pure_bind]
    · split <;> simp only [bind_assoc, pure_bind]

theorem wordLengths_of_length {code : Code} {total fuel : Nat} {lengths : List Nat}
    (h : lengths.length = total) : Inflate.wordLengths code total fuel lengths = pure lengths.reverse := by
  cases fuel with
  | zero => rw [Inflate.wordLengths, if_pos h]
  | succ fuel => rw [Inflate.wordLengths, if_pos h.ge, if_pos h]

/-- What a symbol stands for is read back. -/
theorem Spells.reads (h : Spells lengths s value count) :
    (readRun lengths s.code).Reads (numberBits s.width s.extra) (value, count) := by
  cases h with
  | one hn =>
    rw [readRun, if_pos hn]
    exact BitReader.reads_pure _
  | @again _ n hLast hn =>
    obtain ⟨rest, rfl⟩ := List.head?_eq_some_iff.mp hLast
    exact (BitReader.reads_number (show n < 2 ^ 2 from hn)).map fun n => (value, 3 + n)
  | @zeros n hn => exact (BitReader.reads_number (show n < 2 ^ 3 from hn)).map fun n => (0, 3 + n)
  | @manyZeros n hn =>
    exact (BitReader.reads_number (show n < 2 ^ 7 from hn)).map fun n => (0, 11 + n)

/-- **Word lengths are read back.** -/
theorem Spelled.reads {code : Code} {words : Array (List Bool)} {fuel : Nat}
    (h : Spelled lengths symbols lengths') (hCode : ∀ s ∈ symbols, Speaks code words s.code)
    (hFuel : symbols.length ≤ fuel) :
    (Inflate.wordLengths code lengths'.length fuel lengths).Reads
      (symbols.flatMap (symbolBits words)) lengths'.reverse := by
  induction h generalizing fuel with
  | nil =>
    rw [wordLengths_of_length rfl]
    exact BitReader.reads_pure _
  | cons hSymbol hRest ih =>
    obtain ⟨fuel, rfl⟩ := Nat.exists_eq_add_of_le' (Nat.lt_of_lt_of_le (Nat.succ_pos _) hFuel)
    have hlength := (Spelled.cons hSymbol hRest).length_le
    rw [List.length_cons] at hlength hFuel
    rw [List.forall_mem_cons] at hCode
    rw [wordLengths_succ _ _ _ _ (by omega), List.flatMap_cons, symbolBits, List.append_assoc]
    exact hCode.1.bind (hSymbol.reads.bind (ih hCode.2 (by omega)))

end Spelled

end Keyset.Deflate
