import Keyset.Proofs.Bytes.Huffman
import Keyset.Proofs.Bytes.Match

/-!
# Keyset — the items of a block are read back

Lengths and distances are written as symbols of two tables, whose entries follow each other
without a gap. Reading the symbols of a block gives what its items stand for, with any codes
that read back the words that are written.

* `entry_spec` — the entry of a number, and what is left of it.
* `Code.Speaks` — a code reads the words of symbols.
* `reads_symbols` — the items of a block are read back.
-/

namespace Keyset.Deflate

/-! ## Tables -/

/-- Every entry of a table goes up to the next one, and the last one to a bound. -/
def Covers (table : List (Nat × Nat)) (bound : Nat) : Prop :=
  List.IsChain (fun e next : Nat × Nat => next.1 ≤ e.1 + 2 ^ e.2) (table ++ [(bound, 0)])

/-- The last entry that starts at or below a number has the number. -/
theorem getElem?_takeWhile {e : Nat × Nat} {rest : List (Nat × Nat)} {bound n : Nat}
    (hCovers : Covers (e :: rest) bound) (hFirst : e.1 ≤ n) (hBound : n < bound) :
    ∃ base width, (e :: rest)[((e :: rest).takeWhile fun e => e.1 ≤ n).length - 1]? =
      some (base, width) ∧ base ≤ n ∧ n < base + 2 ^ width := by
  induction rest generalizing e with
  | nil =>
    have hend : bound ≤ e.1 + 2 ^ e.2 := (List.isChain_cons_cons.mp hCovers).1
    -- the last entry of all reaches up to the bound
    refine ⟨e.1, e.2, ?_, hFirst, by omega⟩
    rw [List.takeWhile_cons_of_pos (by simpa using hFirst)]
    rfl
  | cons next rest ih =>
    obtain ⟨hend, hrest⟩ := List.isChain_cons_cons.mp hCovers
    rw [List.takeWhile_cons_of_pos (by simpa using hFirst)]
    by_cases hnext : next.1 ≤ n
    · -- the next entry starts no later, so that this one is passed over
      obtain ⟨base, width, hentry, hspec⟩ := ih hrest hnext
      refine ⟨base, width, ?_, hspec⟩
      rw [List.takeWhile_cons_of_pos (by simpa using hnext), List.length_cons,
        Nat.add_sub_cancel] at hentry ⊢
      rwa [List.length_cons, List.getElem?_cons_succ]
    · -- the next entry starts too late, and this one reaches up to it
      refine ⟨e.1, e.2, ?_, hFirst, by omega⟩
      rw [List.takeWhile_cons_of_neg (by simpa using hnext)]
      rfl

/-- **The entry of a number**, and what is left of the number. -/
theorem entry_spec {table : Array (Nat × Nat)} {low bound n : Nat}
    (hCovers : Covers table.toList bound) (hLow : table.toList.head?.map (·.1) = some low)
    (hFirst : low ≤ n) (hBound : n < bound) :
    ∃ base, table[(entry table n).code]? = some (base, (entry table n).width) ∧
      base + (entry table n).extra = n ∧ (entry table n).extra < 2 ^ (entry table n).width := by
  rw [entry]
  dsimp only
  rw [← Array.getElem?_toList]
  match htable : table.toList, hLow with
  | e :: rest, hLow =>
    obtain rfl := Option.some.inj hLow
    rw [htable] at hCovers
    obtain ⟨base, width, hentry, hle, hlt⟩ := getElem?_takeWhile hCovers hFirst hBound
    refine ⟨base, ?_, ?_, ?_⟩
    · rw [hentry, Option.getD_some]
    · rw [hentry, Option.getD_some]
      exact Nat.add_sub_cancel' hle
    · rw [hentry, Option.getD_some]
      dsimp only
      omega

theorem covers_lengthTable : Covers Inflate.lengthTable.toList 259 := by
  unfold Covers
  decide

theorem covers_distanceTable : Covers Inflate.distanceTable.toList 32769 := by
  unfold Covers
  decide

/-- No entry of a table has more extra bits than the widest one. -/
theorem width_entry_le {table : Array (Nat × Nat)} {width : Nat}
    (h : ∀ e ∈ table.toList, e.2 ≤ width) (n : Nat) : (entry table n).width ≤ width := by
  rw [entry]
  dsimp only
  rw [← Array.getElem?_toList]
  cases hentry : table.toList[(table.toList.takeWhile fun e => e.1 ≤ n).length - 1]? with
  | none => exact Nat.zero_le _
  | some e => exact h e (List.mem_of_getElem? hentry)

/-! ## Items -/

/-- A code reads the word of a symbol. -/
def Speaks (code : Code) (words : Array (List Bool)) (s : Nat) : Prop :=
  code.read.Reads (words[s]?.getD []) s

/-- Two codes read the words of an item. -/
structure SpeaksItem (literals distances : Code) (literalWords distanceWords : Array (List Bool))
    (item : Item) : Prop where
  literal : Speaks literals literalWords (symbolsOf item).1.code
  distance : ∀ d ∈ (symbolsOf item).2, Speaks distances distanceWords d.code

/-- The bits of the symbols of an item. -/
def itemBits (literals distances : Array (List Bool)) (p : Symbol × Option Symbol) : List Bool :=
  symbolBits literals p.1 ++ (match p.2 with
    | some d => symbolBits distances d
    | none => [])

theorem bodyBits_eq (literalLengths distanceLengths : List Nat)
    (items : List (Symbol × Option Symbol)) : bodyBits literalLengths distanceLengths items =
      items.flatMap (itemBits (Code.words literalLengths) (Code.words distanceLengths)) ++
        (Code.words literalLengths)[256]?.getD [] := rfl

section Symbols

variable {literals distances : Code} {literalWords distanceWords : Array (List Bool)} {fuel : Nat}
  {out out' : Array UInt8} {bits : List Bool}

/-- Reading a literal, and then the rest. -/
theorem reads_literal {b : UInt8}
    (hItem : SpeaksItem literals distances literalWords distanceWords (.literal b))
    (hRest : (Inflate.symbols literals distances fuel (out.push b)).Reads bits out') :
    (Inflate.symbols literals distances (fuel + 1) out).Reads
      (itemBits literalWords distanceWords (symbolsOf (.literal b)) ++ bits) out' := by
  have hbyte : b.toNat < 256 := b.toNat_lt
  have hbits : itemBits literalWords distanceWords (symbolsOf (.literal b)) =
      literalWords[b.toNat]?.getD [] := by
    rw [itemBits, symbolsOf, symbolBits]
    simp [numberBits]
  rw [Inflate.symbols, hbits]
  refine BitReader.Reads.bind hItem.literal ?_
  have hsame : b.toNat.toUInt8 = b := UInt8.ofNat_toNat
  change BitReader.Reads (if b.toNat < 256 then
    Inflate.symbols literals distances fuel (out.push b.toNat.toUInt8) else _) bits out'
  rw [if_pos hbyte, hsame]
  exact hRest

/-- Reading a copy, and then the rest. -/
theorem reads_copy {length distance : Nat} {next : Array UInt8}
    (hItem : SpeaksItem literals distances literalWords distanceWords (.copy length distance))
    (hWritable : Item.Writable (.copy length distance))
    (hCopy : Inflate.copyBack distance length out = some next)
    (hRest : (Inflate.symbols literals distances fuel next).Reads bits out') :
    (Inflate.symbols literals distances (fuel + 1) out).Reads
      (itemBits literalWords distanceWords (symbolsOf (.copy length distance)) ++ bits) out' := by
  obtain ⟨⟨hShort, hLong⟩, hNear, hFar⟩ := hWritable
  obtain ⟨lengthBase, hlengthEntry, hlength, hlengthExtra⟩ := entry_spec covers_lengthTable
    (by rfl) hShort (show length < 259 from Nat.lt_succ_of_le hLong)
  obtain ⟨distanceBase, hdistanceEntry, hdistance, hdistanceExtra⟩ := entry_spec covers_distanceTable
    (by rfl) hNear (show distance < 32769 from Nat.lt_of_le_of_lt hFar (by decide))
  have hword := hItem.literal
  have hdistanceWord := hItem.distance _ rfl
  rw [symbolsOf] at hword ⊢
  dsimp only at hword
  rw [Inflate.symbols, itemBits]
  dsimp only
  rw [symbolBits, symbolBits]
  generalize entry Inflate.lengthTable length = l at *
  generalize entry Inflate.distanceTable distance = d at *
  simp only [List.append_assoc]
  -- the length with its extra bits, and then the distance with its own
  refine BitReader.Reads.bind hword ?_
  rw [if_neg (by omega), if_neg (by omega), Nat.add_sub_cancel]
  refine BitReader.reads_lift_bind hlengthEntry ?_
  dsimp only
  refine BitReader.Reads.bind (BitReader.reads_number hlengthExtra) ?_
  refine BitReader.Reads.bind hdistanceWord ?_
  refine BitReader.reads_lift_bind hdistanceEntry ?_
  dsimp only
  refine BitReader.Reads.bind (BitReader.reads_number hdistanceExtra) ?_
  rw [hlength, hdistance]
  exact BitReader.reads_lift_bind hCopy hRest

/-- **The items of a block are read back**, up to its end mark. -/
theorem reads_symbols {items : List Item} (hEnd : Speaks literals literalWords 256)
    (hItems : ∀ x ∈ items, SpeaksItem literals distances literalWords distanceWords x)
    (hWritable : ∀ x ∈ items, x.Writable) (hExpand : Item.expand? out items = some out')
    (hFuel : items.length < fuel) :
    (Inflate.symbols literals distances fuel out).Reads
      ((items.map symbolsOf).flatMap (itemBits literalWords distanceWords) ++
        literalWords[256]?.getD []) out' := by
  induction items generalizing out fuel with
  | nil =>
    obtain ⟨fuel, rfl⟩ := Nat.exists_eq_succ_of_ne_zero (Nat.ne_zero_of_lt hFuel)
    obtain rfl := Option.some.inj hExpand
    rw [Inflate.symbols, List.map_nil, List.flatMap_nil, List.nil_append,
      ← List.append_nil (literalWords[256]?.getD [])]
    -- the end of the block is the only symbol that is left
    refine BitReader.Reads.bind hEnd ?_
    rw [if_neg (by omega), if_pos rfl]
    exact BitReader.reads_pure out
  | cons item items ih =>
    obtain ⟨fuel, rfl⟩ := Nat.exists_eq_succ_of_ne_zero (Nat.ne_zero_of_lt hFuel)
    rw [List.forall_mem_cons] at hItems hWritable
    rw [List.length_cons] at hFuel
    rw [Item.expand?, List.foldlM_cons] at hExpand
    obtain ⟨next, hnext, hrest⟩ := Option.bind_eq_some_iff.mp hExpand
    have hreads := ih hItems.2 hWritable.2 hrest (show items.length < fuel by omega)
    rw [List.map_cons, List.flatMap_cons, List.append_assoc]
    cases item with
    | literal b =>
      obtain rfl := Option.some.inj hnext
      exact reads_literal hItems.1 hreads
    | copy length distance => exact reads_copy hItems.1 hWritable.1 hnext hreads

end Symbols

end Keyset.Deflate
