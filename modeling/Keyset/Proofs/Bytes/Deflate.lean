import Keyset.Proofs.Bytes.BlockCodes

/-!
# Keyset — compressed streams are read back

A block is written in one of three forms, and each of them is read back: plain bytes start at
a byte boundary, which depends on the bits before them; codes have words for all symbols of the
block. A stream of blocks ends with a checksum of what the blocks give.

* `BitReader.ReadsAt` — what is read at an offset into a byte.
* `Content` — the items of a block stand for its bytes; `readsAt_block`.
* `readsAt_blocks` — all blocks are read back.
* `decompress?_compress` — compressing loses nothing.
-/

namespace Keyset

/-! ## Offsets -/

namespace BitReader

variable {α β : Type} {r : BitReader α} {bits : List Bool} {offset : Nat}

/-- A reader takes bits, and gives a value, where these come after some bits of a byte. The
input ends with a byte. -/
def ReadsAt (offset : Nat) (r : BitReader α) (bits : List Bool) (a : α) : Prop :=
  ∀ rest, (offset + (bits ++ rest).length) % 8 = 0 → r.run (bits ++ rest) = some (a, rest)

theorem Reads.readsAt {a : α} (h : r.Reads bits a) (offset : Nat) : r.ReadsAt offset bits a :=
  fun rest _ => h rest

theorem ReadsAt.bind {f : α → BitReader β} {front back : List Bool} {a : α} {b : β}
    (h : r.ReadsAt offset front a) (h' : (f a).ReadsAt (offset + front.length) back b) :
    (r >>= f).ReadsAt offset (front ++ back) b := by
  intro rest hEnd
  rw [List.append_assoc] at hEnd
  rw [StateT.run_bind, List.append_assoc, h (back ++ rest) hEnd, Option.bind_eq_bind,
    Option.bind_some]
  refine h' rest ?_
  rwa [List.length_append, ← Nat.add_assoc] at hEnd

/-- Only the place in the byte matters. -/
theorem ReadsAt.congr {a : α} {offset' : Nat} (h : r.ReadsAt offset bits a)
    (hOffset : offset % 8 = offset' % 8) : r.ReadsAt offset' bits a :=
  fun rest hEnd => h rest (by omega)

/-- The rest of a byte is skipped. -/
theorem readsAt_align (offset : Nat) :
    align.ReadsAt offset (List.replicate ((8 - offset % 8) % 8) false) () := by
  intro rest hEnd
  have hskip : (List.replicate ((8 - offset % 8) % 8) false ++ rest).length % 8 =
      (List.replicate ((8 - offset % 8) % 8) false).length := by
    rw [List.length_append, List.length_replicate] at hEnd ⊢
    omega
  change some ((), List.drop _ _) = some ((), rest)
  rw [hskip, List.drop_left]

/-- Bytes are read back. -/
theorem reads_bytes {bytes : List UInt8} {places : List Nat} (h : places.length = bytes.length) :
    (places.mapM fun _ => number 8).Reads (bitsOfBytes bytes) (bytes.map UInt8.toNat) :=
  Reads.mapM (fun b _ => reads_number b.toNat_lt) h

end BitReader

namespace Deflate

/-! ## Plain bytes -/

/-- **Plain bytes are read back**, from the next byte boundary. -/
theorem readsAt_storedBlock {bytes : List UInt8} (hShort : bytes.length ≤ 65535)
    (out : Array UInt8) (offset : Nat) :
    (Inflate.storedBlock out).ReadsAt offset
      (List.replicate ((8 - offset % 8) % 8) false ++ (numberBits 16 bytes.length ++
        (numberBits 16 (65535 - bytes.length) ++ bitsOfBytes bytes))) (out ++ bytes.toArray) := by
  have hlength : (List.range bytes.length).length = bytes.length := List.length_range
  have hbytes := (BitReader.reads_bytes hlength).map fun bytes => out ++ (bytes.map Nat.toUInt8).toArray
  -- reading back a byte as a number loses nothing
  have hsame : (bytes.map UInt8.toNat).map Nat.toUInt8 = bytes := by
    rw [List.map_map]
    exact List.map_id'' (fun b => UInt8.ofNat_toNat) bytes
  rw [hsame] at hbytes
  rw [Inflate.storedBlock]
  refine (BitReader.readsAt_align offset).bind (BitReader.Reads.readsAt ?_ _)
  refine BitReader.Reads.bind (BitReader.reads_number (by omega)) ?_
  refine BitReader.Reads.bind (BitReader.reads_number (by omega)) ?_
  dsimp only
  rw [if_neg (by omega)]
  exact hbytes

/-! ## Symbols of a block -/

theorem Speaks.word_ne_nil {code : Code} {words : Array (List Bool)} {s : Nat}
    (h : Speaks code words s) : words[s]?.getD [] ≠ [] := by
  intro hnil
  have hread := h []
  rw [hnil, Code.read] at hread
  cases hcounts : code.counts with
  | nil => rw [hcounts] at hread; cases hread
  | cons n rest => rw [hcounts] at hread; cases hread

/-- Symbols of an item have the codes that there are. -/
theorem symbolsOf_lt {item : Item} (h : item.Writable) :
    (symbolsOf item).1.code < 286 ∧ ∀ d ∈ (symbolsOf item).2, d.code < 30 := by
  cases item with
  | literal b =>
    have := b.toNat_lt
    exact ⟨show b.toNat < 286 by omega, fun _ hd => nomatch hd⟩
  | copy length distance =>
    obtain ⟨⟨hShort, hLong⟩, hNear, hFar⟩ := h
    obtain ⟨_, hlength, -⟩ := entry_spec covers_lengthTable (by rfl) hShort
      (show length < 259 from Nat.lt_succ_of_le hLong)
    obtain ⟨_, hdistance, -⟩ := entry_spec covers_distanceTable (by rfl) hNear
      (show distance < 32769 from Nat.lt_of_le_of_lt hFar (by decide))
    -- the codes are places in the tables, of which the second starts behind the literals
    have hlengthSize : (entry Inflate.lengthTable length).code < 29 :=
      (Array.getElem?_eq_some_iff.mp hlength).1
    have hdistanceSize : (entry Inflate.distanceTable distance).code < 30 :=
      (Array.getElem?_eq_some_iff.mp hdistance).1
    refine ⟨show (entry Inflate.lengthTable length).code + 257 < 286 by omega, fun d hd => ?_⟩
    obtain rfl := Option.some.inj hd
    exact hdistanceSize

/-- The literal and length symbols of items, and the end mark. -/
def literalSymbols (content : List Item) : List Symbol :=
  (content.map symbolsOf).map (·.1) ++ [⟨256, 0, 0⟩]

/-- The distance symbols of items. -/
def distanceSymbols (content : List Item) : List Symbol := (content.map symbolsOf).filterMap (·.2)

theorem mem_literalSymbols {content : List Item} {x : Item} (h : x ∈ content) :
    (symbolsOf x).1 ∈ literalSymbols content := by
  rw [literalSymbols, List.map_map]
  exact List.mem_append_left _ (List.mem_map_of_mem (f := fun x => (symbolsOf x).1) h)

theorem mem_distanceSymbols {content : List Item} {x : Item} (h : x ∈ content) {d : Symbol}
    (hd : d ∈ (symbolsOf x).2) : d ∈ distanceSymbols content :=
  List.mem_filterMap.mpr ⟨symbolsOf x, List.mem_map_of_mem h, hd⟩

theorem end_mem_literalSymbols (content : List Item) :
    256 ∈ (literalSymbols content).map (·.code) :=
  List.mem_map.mpr ⟨⟨256, 0, 0⟩, by simp [literalSymbols], rfl⟩

/-- Two sets of word lengths that serve the symbols of items. -/
structure ServesItems (content : List Item) (literalLengths distanceLengths : List Nat) : Prop where
  literals : ∃ limit ≤ Code.maxLength, ∃ size ≥ 286,
    Serves limit size ((literalSymbols content).map (·.code)) literalLengths
  distances : ∃ limit ≤ Code.maxLength, ∃ size ≥ 30,
    Serves limit size ((distanceSymbols content).map (·.code)) distanceLengths

/-- **The body of a block is read back** with codes that serve its symbols. -/
theorem ServesItems.reads {content : List Item} {literalLengths distanceLengths : List Nat}
    (h : ServesItems content literalLengths distanceLengths) (hWritable : ∀ x ∈ content, x.Writable)
    {out out' : Array UInt8} (hExpand : Item.expand? out content = some out') {fuel : Nat}
    (hFuel : (bodyBits literalLengths distanceLengths (content.map symbolsOf)).length ≤ fuel) :
    ∃ literals distances, Code.ofLengths? true literalLengths = some literals ∧
      Code.ofLengths? true distanceLengths = some distances ∧
      (Inflate.symbols literals distances fuel out).Reads
        (bodyBits literalLengths distanceLengths (content.map symbolsOf)) out' := by
  obtain ⟨_, hlimit, size, hsize, hliterals⟩ := h.literals
  obtain ⟨literals, hliteralCode, hliteralSpeaks⟩ := hliterals.exists_code hlimit true
  obtain ⟨_, hlimit', size', hsize', hdistances⟩ := h.distances
  obtain ⟨distances, hdistanceCode, hdistanceSpeaks⟩ := hdistances.exists_code hlimit' true
  have hend : Speaks literals (Code.words literalLengths) 256 :=
    hliteralSpeaks 256 (end_mem_literalSymbols content) (by omega)
  have hitems : ∀ x ∈ content, SpeaksItem literals distances (Code.words literalLengths)
      (Code.words distanceLengths) x := by
    intro x hx
    obtain ⟨hliteral, hdistance⟩ := symbolsOf_lt (hWritable x hx)
    exact ⟨hliteralSpeaks _ (List.mem_map_of_mem (mem_literalSymbols hx)) (by omega), fun d hd =>
      hdistanceSpeaks _ (List.mem_map_of_mem (mem_distanceSymbols hx hd))
        ((hdistance d hd).trans_le hsize')⟩
  refine ⟨literals, distances, hliteralCode, hdistanceCode, ?_⟩
  rw [bodyBits_eq] at hFuel ⊢
  refine reads_symbols hend hitems hWritable hExpand (Nat.lt_of_lt_of_le ?_ hFuel)
  -- every word has a bit at least
  have hendPos := List.length_pos_iff.mpr hend.word_ne_nil
  have hitemsPos : content.length ≤ ((content.map symbolsOf).flatMap
      (itemBits (Code.words literalLengths) (Code.words distanceLengths))).length := by
    clear hExpand hFuel hWritable hliterals hdistances h hliteralSpeaks hdistanceSpeaks
    induction content with
    | nil => exact Nat.le_refl _
    | cons x content ih =>
      rw [List.forall_mem_cons] at hitems
      have hpos := List.length_pos_iff.mpr hitems.1.literal.word_ne_nil
      have hrest := ih hitems.2
      rw [List.map_cons, List.flatMap_cons, List.length_append, itemBits, List.length_append,
        symbolBits, List.length_append, List.length_cons]
      omega
  rw [List.length_append]
  omega

/-! ## Fixed codes -/

/-- Codes that have a word for every symbol serve any of them. -/
theorem serves_of_forall {limit : Nat} {lengths : List Nat} (hComplete : Code.Complete limit lengths)
    (hPos : ∀ n ∈ lengths, n ≠ 0) (codes : List Nat) :
    Serves limit lengths.length codes lengths where
  length := rfl
  complete := hComplete
  pos s _ hs := by
    rw [List.getElem?_eq_getElem hs, Option.getD_some]
    exact hPos _ (List.getElem_mem hs)

theorem mem_fixedLiteralLengths {n : Nat} (h : n ∈ Inflate.fixedLiteralLengths) :
    7 ≤ n ∧ n ≤ 9 := by
  simp only [Inflate.fixedLiteralLengths, List.mem_append, List.mem_replicate] at h
  omega

theorem mem_fixedDistanceLengths {n : Nat} (h : n ∈ Inflate.fixedDistanceLengths) : n = 5 :=
  List.eq_of_mem_replicate h

theorem complete_fixedLiteralLengths : Code.Complete 9 Inflate.fixedLiteralLengths where
  le _ h := (mem_fixedLiteralLengths h).2
  full := by
    simp only [Inflate.fixedLiteralLengths, Code.taken, List.map_append, List.map_replicate,
      List.sum_append, List.sum_replicate]
    decide

theorem complete_fixedDistanceLengths : Code.Complete 5 Inflate.fixedDistanceLengths where
  le _ h := (mem_fixedDistanceLengths h).le
  full := by
    simp only [Inflate.fixedDistanceLengths, Code.taken, List.map_replicate, List.sum_replicate]
    decide

theorem servesItems_fixed (content : List Item) :
    ServesItems content Inflate.fixedLiteralLengths Inflate.fixedDistanceLengths where
  literals := by
    refine ⟨9, by decide, _, ?_, serves_of_forall complete_fixedLiteralLengths (fun n hn => ?_) _⟩
    · simp only [Inflate.fixedLiteralLengths, List.length_append, List.length_replicate]
      decide
    · have := mem_fixedLiteralLengths hn
      omega
  distances := by
    refine ⟨5, by decide, _, ?_, serves_of_forall complete_fixedDistanceLengths (fun n hn => ?_) _⟩
    · simp only [Inflate.fixedDistanceLengths, List.length_replicate]
      decide
    · have := mem_fixedDistanceLengths hn
      omega

/-! ## Cost -/

/-- The cost of symbols, by a bound for one of them. -/
theorem cost_le {lengths : Array Nat} {symbols : List Symbol} {bound : Nat}
    (h : ∀ s ∈ symbols, lengths[s.code]?.getD 0 + s.width ≤ bound) :
    cost lengths symbols ≤ bound * symbols.length := by
  -- the fold starts anywhere, so that the induction goes through
  have hfold (symbols : List Symbol) (n : Nat)
      (h : ∀ s ∈ symbols, lengths[s.code]?.getD 0 + s.width ≤ bound) :
      symbols.foldl (fun n s => n + lengths[s.code]?.getD 0 + s.width) n ≤
        n + bound * symbols.length := by
    induction symbols generalizing n with
    | nil => exact Nat.le_add_right _ _
    | cons s symbols ih =>
      rw [List.forall_mem_cons] at h
      have hrest := ih (n + lengths[s.code]?.getD 0 + s.width) h.2
      rw [List.foldl_cons, List.length_cons, Nat.mul_add, Nat.mul_one]
      omega
  have hall := hfold symbols 0 h
  rwa [Nat.zero_add] at hall

/-- What the fixed codes take. -/
def fixedCost (content : List Item) : Nat :=
  cost Inflate.fixedLiteralLengths.toArray (literalSymbols content) +
    cost Inflate.fixedDistanceLengths.toArray (distanceSymbols content)

theorem fixedCost_le (content : List Item) : fixedCost content ≤ 32 * content.length + 14 := by
  -- a fixed word has nine bits at most, and five more follow it at most; for distances there are
  -- thirteen, and words of five
  have hliterals : cost Inflate.fixedLiteralLengths.toArray (literalSymbols content) ≤
      14 * (literalSymbols content).length := by
    refine cost_le fun s hs => ?_
    have hlength := complete_fixedLiteralLengths.getD_le s.code
    have hwidth : s.width ≤ 5 := by
      rw [literalSymbols, List.map_map, List.mem_append, List.mem_map, List.mem_singleton] at hs
      rcases hs with ⟨x, -, rfl⟩ | rfl
      · cases x with
        | literal => exact Nat.zero_le _
        | copy length distance => exact width_entry_le (by decide) length
      · exact Nat.zero_le _
    rw [List.getElem?_toArray]
    omega
  have hdistances : cost Inflate.fixedDistanceLengths.toArray (distanceSymbols content) ≤
      18 * (distanceSymbols content).length := by
    refine cost_le fun s hs => ?_
    have hlength := complete_fixedDistanceLengths.getD_le s.code
    have hwidth : s.width ≤ 13 := by
      obtain ⟨p, hp, hs⟩ := List.mem_filterMap.mp hs
      obtain ⟨x, -, rfl⟩ := List.mem_map.mp hp
      cases x with
      | literal => cases hs
      | copy length distance =>
        obtain rfl := Option.some.inj hs
        exact width_entry_le (by decide) distance
    rw [List.getElem?_toArray]
    omega
  -- one symbol for each item and one for the end, and a distance for each copy
  have hliteralCount : (literalSymbols content).length = content.length + 1 := by
    simp [literalSymbols]
  have hdistanceCount : (distanceSymbols content).length ≤ content.length := by
    have hle := List.length_filterMap_le (·.2) (content.map symbolsOf)
    rwa [List.length_map] at hle
  rw [fixedCost]
  omega

/-! ## Blocks -/

/-- The word lengths of the code that is made for the literals and lengths of a block. -/
def ownLiterals (content : List Item) : List Nat :=
  CodeLengths.ofFrequencies 15 (frequencies 286 ((literalSymbols content).map (·.code)))

/-- The word lengths of the code that is made for the distances of a block. -/
def ownDistances (content : List Item) : List Nat :=
  CodeLengths.ofFrequencies 15 (frequencies 30 ((distanceSymbols content).map (·.code)))

/-- The word lengths of the code that both are written with. -/
def ownRuns (content : List Item) : List Nat :=
  CodeLengths.ofFrequencies 7
    (frequencies 19 ((codeRuns (ownLiterals content) (ownDistances content)).map (·.code)))

/-- **The three forms of a block.** -/
theorem block_forms (offset : Nat) (final : Bool) (bytes : List UInt8) (content : List Item) :
    (block offset final bytes content = storedBits offset final bytes ∧
      bytes.length + 4 ≤ (fixedCost content + 10) / 8) ∨
    block offset final bytes content = final :: numberBits 2 1 ++
      bodyBits Inflate.fixedLiteralLengths Inflate.fixedDistanceLengths (content.map symbolsOf) ∨
    block offset final bytes content = final :: numberBits 2 2 ++
      (codeBits (ownLiterals content) (ownDistances content) (ownRuns content) ++
        bodyBits (ownLiterals content) (ownDistances content) (content.map symbolsOf)) := by
  rw [block]
  dsimp only
  -- stored, with the fixed codes, or with codes of its own, whichever is shortest
  split
  · next h => exact Or.inl ⟨rfl, h.trans (Nat.min_le_right _ _)⟩
  · split
    · exact Or.inr (Or.inl rfl)
    · refine Or.inr (Or.inr ?_)
      rw [codeBits]
      simp only [List.append_assoc, List.cons_append]
      rfl

theorem serves_ownLiterals (content : List Item) :
    Serves 15 286 ((literalSymbols content).map (·.code)) (ownLiterals content) :=
  serves_ofFrequencies (by decide) (by decide) (by decide) _

theorem serves_ownDistances (content : List Item) :
    Serves 15 30 ((distanceSymbols content).map (·.code)) (ownDistances content) :=
  serves_ofFrequencies (by decide) (by decide) (by decide) _

theorem serves_ownRuns (content : List Item) :
    Serves 7 19 ((codeRuns (ownLiterals content) (ownDistances content)).map (·.code))
      (ownRuns content) :=
  serves_ofFrequencies (by decide) (by decide) (by decide) _

theorem servesItems_own (content : List Item) :
    ServesItems content (ownLiterals content) (ownDistances content) :=
  ⟨⟨15, by decide, 286, by decide, serves_ownLiterals content⟩,
    ⟨15, by decide, 30, by decide, serves_ownDistances content⟩⟩

/-- Read the content of a block of a type. -/
def readContent (fuel type : Nat) (out : Array UInt8) : BitReader (Array UInt8) := do
  if type = 0 then Inflate.storedBlock out
  else if type = 1 then do
    let literals ← (Code.ofLengths? true Inflate.fixedLiteralLengths : Option Code)
    let distances ← (Code.ofLengths? true Inflate.fixedDistanceLengths : Option Code)
    Inflate.symbols literals distances fuel out
  else if type = 2 then do
    let (literals, distances) ← Inflate.blockCodes
    Inflate.symbols literals distances fuel out
  else failure

theorem blocks_succ (fuel count : Nat) (out : Array UInt8) : Inflate.blocks fuel (count + 1) out =
    (BitReader.bit >>= fun final => BitReader.number 2 >>= fun type =>
      readContent fuel type out >>= fun out =>
        if final then pure out else Inflate.blocks fuel count out) := by
  rw [Inflate.blocks]
  refine congrArg (BitReader.bit >>= ·) (funext fun final => ?_)
  refine congrArg (BitReader.number 2 >>= ·) (funext fun type => ?_)
  rw [readContent]
  by_cases hstored : type = 0
  · simp only [if_pos hstored]
  · by_cases hfixed : type = 1
    · simp only [if_neg hstored, if_pos hfixed, bind_assoc]
    · by_cases hown : type = 2
      · simp only [if_neg hstored, if_neg hfixed, if_pos hown, bind_assoc]
      · simp only [if_neg hstored, if_neg hfixed, if_neg hown]

/-- Items stand for bytes, can be written, and are not more than a block has. -/
structure Content (out : Array UInt8) (bytes : List UInt8) (content : List Item) : Prop where
  expand : Item.expand? out content = some (out ++ bytes.toArray)
  writable : ∀ x ∈ content, x.Writable
  few : content.length ≤ blockItems

/-- **A block is read back** in each of its forms. -/
theorem exists_readsAt_block {out : Array UInt8} {bytes : List UInt8} {content : List Item}
    (h : Content out bytes content) (offset : Nat) (final : Bool) {fuel : Nat}
    (hFuel : (block offset final bytes content).length ≤ fuel) :
    ∃ type body, block offset final bytes content = final :: numberBits 2 type ++ body ∧
      type < 2 ^ 2 ∧ (readContent fuel type out).ReadsAt (offset + 3) body (out ++ bytes.toArray) := by
  have hlength {type : Nat} (front : List Bool) {body : List Bool}
      (hblock : block offset final bytes content = final :: numberBits 2 type ++ (front ++ body)) :
      body.length ≤ fuel := by
    rw [hblock, List.length_append, List.length_append] at hFuel
    omega
  -- each of the three forms is read by its type
  rcases block_forms offset final bytes content with ⟨hblock, hshort⟩ | hblock | hblock
  · refine ⟨0, _, hblock.trans ?_, by decide, readsAt_storedBlock ?_ out (offset + 3)⟩
    · simp only [storedBits, List.append_assoc, List.cons_append]
    · -- a block is stored only where that is shorter, so that its length fits the field
      have hcost := fixedCost_le content
      have hfew : content.length ≤ 16383 := h.few
      omega
  · obtain ⟨literals, distances, hliterals, hdistances, hreads⟩ := (servesItems_fixed content).reads
      h.writable h.expand (hlength [] hblock)
    refine ⟨1, _, hblock, by decide, BitReader.Reads.readsAt ?_ _⟩
    exact BitReader.reads_lift_bind hliterals (BitReader.reads_lift_bind hdistances hreads)
  · obtain ⟨literals, distances, hliterals, hdistances, hreads⟩ := (servesItems_own content).reads
      h.writable h.expand (hlength _ hblock)
    refine ⟨2, _, hblock, by decide, BitReader.Reads.readsAt ?_ _⟩
    -- this block writes its codes first, and they are read back before the symbols
    have hcodes := reads_blockCodes
      (serves_ownLiterals content) (end_mem_literalSymbols content)
      (serves_ownDistances content) (serves_ownRuns content) hliterals hdistances
    exact BitReader.Reads.bind hcodes hreads

/-- Reading a block, and then what follows it. -/
theorem readsAt_block {out result : Array UInt8} {bytes : List UInt8} {content : List Item}
    (h : Content out bytes content) {offset : Nat} {final : Bool} {fuel count : Nat}
    (hFuel : (block offset final bytes content).length ≤ fuel) {more : List Bool}
    (hRest : BitReader.ReadsAt (offset + (block offset final bytes content).length)
      (if final then pure (out ++ bytes.toArray)
        else Inflate.blocks fuel count (out ++ bytes.toArray)) more result) :
    (Inflate.blocks fuel (count + 1) out).ReadsAt offset
      (block offset final bytes content ++ more) result := by
  obtain ⟨type, body, hblock, htype, hbody⟩ := exists_readsAt_block h offset final hFuel
  rw [hblock, List.length_append, List.length_cons, length_numberBits] at hRest
  have hbit : BitReader.bit.Reads [final] final := fun _ => rfl
  rw [blocks_succ, hblock, List.append_assoc, ← List.singleton_append, List.append_assoc]
  refine (hbit.readsAt _).bind (((BitReader.reads_number htype).readsAt _).bind ?_)
  rw [length_numberBits]
  refine BitReader.ReadsAt.bind hbody ?_
  -- one bit and two are read before the content, which matters to the alignment
  rwa [List.length_singleton,
    show offset + 1 + 2 + body.length = offset + (2 + 1 + body.length) by omega]

/-! ## Expansion -/

/-- A copy appends as many bytes as it is long. -/
theorem exists_copyBack {distance count : Nat} {out out' : Array UInt8}
    (h : Inflate.copyBack distance count out = some out') :
    ∃ more : Array UInt8, out' = out ++ more ∧ more.size = count := by
  induction count generalizing out with
  | zero =>
    obtain rfl := Option.some.inj h
    exact ⟨#[], by simp, rfl⟩
  | succ count ih =>
    rw [Inflate.copyBack] at h
    split at h
    · split at h
      · next b _ =>
        obtain ⟨more, rfl, hsize⟩ := ih h
        refine ⟨#[b] ++ more, ?_, ?_⟩
        · rw [← Array.append_assoc, Array.push_eq_append]
        · rw [Array.size_append, hsize, Nat.add_comm]
          rfl
      · cases h
    · cases h

/-- Items append as many bytes as they stand for. -/
theorem exists_expand {items : List Item} {out out' : Array UInt8}
    (h : Item.expand? out items = some out') :
    ∃ more : Array UInt8, out' = out ++ more ∧ more.size = (items.map itemSize).sum := by
  induction items generalizing out with
  | nil =>
    obtain rfl := Option.some.inj h
    exact ⟨#[], by simp, rfl⟩
  | cons item items ih =>
    rw [Item.expand?, List.foldlM_cons] at h
    obtain ⟨next, hnext, hrest⟩ := Option.bind_eq_some_iff.mp h
    -- what one item adds
    have hone : ∃ more : Array UInt8, next = out ++ more ∧ more.size = itemSize item := by
      cases item with
      | literal b =>
        obtain rfl := Option.some.inj hnext
        exact ⟨#[b], Array.push_eq_append, rfl⟩
      | copy length distance => exact exists_copyBack hnext
    obtain ⟨front, rfl, hfront⟩ := hone
    obtain ⟨back, rfl, hback⟩ := ih hrest
    refine ⟨front ++ back, Array.append_assoc, ?_⟩
    rw [Array.size_append, hfront, hback, List.map_cons, List.sum_cons]

theorem append_take_drop (out : Array UInt8) (bytes : List UInt8) (size : Nat) :
    out ++ (bytes.take size).toArray ++ (bytes.drop size).toArray = out ++ bytes.toArray := by
  rw [Array.append_assoc, List.append_toArray (bytes.take size) (bytes.drop size),
    List.take_append_drop]

/-- The bytes of the first items, and those of the others. -/
theorem expand?_split {front back : List Item} {out : Array UInt8} {bytes : List UInt8}
    (h : Item.expand? out (front ++ back) = some (out ++ bytes.toArray)) :
    Item.expand? out front = some (out ++ (bytes.take (front.map itemSize).sum).toArray) ∧
      Item.expand? (out ++ (bytes.take (front.map itemSize).sum).toArray) back =
        some (out ++ bytes.toArray) := by
  rw [Item.expand?, List.foldlM_append] at h
  obtain ⟨next, hnext, hrest⟩ := Option.bind_eq_some_iff.mp h
  obtain ⟨more, rfl, hsize⟩ := exists_expand hnext
  obtain ⟨others, hothers, -⟩ := exists_expand hrest
  -- what the front adds and what the back adds are the bytes between them
  have hbytes : bytes = more.toList ++ others.toList := by
    rw [Array.append_assoc] at hothers
    have hlists := congrArg Array.toList hothers
    rw [Array.toList_append, Array.toList_append, Array.toList_append] at hlists
    exact List.append_cancel_left hlists
  have htake : (bytes.take (front.map itemSize).sum).toArray = more := by
    rw [hbytes, ← hsize, ← Array.length_toList, List.take_left, Array.toArray_toList]
  rw [htake]
  exact ⟨hnext, hrest⟩

/-! ## Streams -/

theorem length_block_pos (offset : Nat) (final : Bool) (bytes : List UInt8) (content : List Item) :
    0 < (block offset final bytes content).length := by
  rcases block_forms offset final bytes content with ⟨hblock, -⟩ | hblock | hblock
  · rw [hblock]
    exact Nat.succ_pos _
  · rw [hblock]
    exact Nat.succ_pos _
  · rw [hblock]
    exact Nat.succ_pos _

section Blocks

variable {pending : Option Item} {offset fuel : Nat} {bytes : List UInt8} {items : List Item}
  {out : Array UInt8}

/-- The items that are left stand for the bytes that are left, and can be written. -/
structure Remaining (pending : Option Item) (out : Array UInt8) (bytes : List UInt8)
    (items : List Item) : Prop where
  expand : Item.expand? out (items ++ pending.toList) = some (out ++ bytes.toArray)
  writable : ∀ x ∈ items ++ pending.toList, x.Writable

/-- The last block is read back. -/
theorem Remaining.readsAt_last (h : Remaining pending out bytes items)
    (hFew : items.length < blockItems) {count : Nat}
    (hFuel : (block offset true bytes (items ++ pending.toList)).length ≤ fuel)
    (hCount : (block offset true bytes (items ++ pending.toList)).length ≤ count) :
    (Inflate.blocks fuel count out).ReadsAt offset
      (block offset true bytes (items ++ pending.toList)) (out ++ bytes.toArray) := by
  have hpos := length_block_pos offset true bytes (items ++ pending.toList)
  obtain ⟨count, rfl⟩ := Nat.exists_eq_succ_of_ne_zero (show count ≠ 0 by omega)
  -- the literal that is pending still fits the block
  have hfew : (items ++ pending.toList).length ≤ blockItems := by
    have hone : pending.toList.length ≤ 1 := by cases pending <;> simp
    rw [List.length_append]
    omega
  have hend := (BitReader.reads_pure (out ++ bytes.toArray)).readsAt
    (offset + (block offset true bytes (items ++ pending.toList)).length)
  rw [← List.append_nil (block offset true bytes (items ++ pending.toList))]
  exact readsAt_block ⟨h.expand, h.writable, hfew⟩ hFuel hend

/-- The items of the first block, and what is left after it. -/
theorem Remaining.split (h : Remaining pending out bytes items) (k : Nat) {size : Nat}
    (hSize : size = (items.take k).foldl (fun n item => n + itemSize item) 0) :
    Remaining none out (bytes.take size) (items.take k) ∧
      Remaining pending (out ++ (bytes.take size).toArray) (bytes.drop size) (items.drop k) := by
  have hsum : size = ((items.take k).map itemSize).sum := by
    rw [hSize, List.sum_eq_foldl, List.foldl_map]
  have hexpand := h.expand
  have hwritable := h.writable
  rw [← List.take_append_drop k items, List.append_assoc] at hexpand hwritable
  rw [List.forall_mem_append] at hwritable
  obtain ⟨hfront, hback⟩ := expand?_split hexpand
  rw [← hsum] at hfront hback
  refine ⟨⟨?_, ?_⟩, ⟨?_, hwritable.2⟩⟩
  · rwa [Option.toList_none, List.append_nil]
  · rw [Option.toList_none, List.append_nil]
    exact hwritable.1
  · rwa [append_take_drop]

/-- **All blocks are read back.** -/
theorem Remaining.readsAt_blocks {n count : Nat} (h : Remaining pending out bytes items)
    (hItems : items.length ≤ n) (hFuel : (blocks pending n offset bytes items).length ≤ fuel)
    (hCount : (blocks pending n offset bytes items).length ≤ count) :
    (Inflate.blocks fuel count out).ReadsAt offset (blocks pending n offset bytes items)
      (out ++ bytes.toArray) := by
  induction n generalizing offset bytes items out count with
  | zero =>
    -- too few items are left for a full block, whatever the fuel
    have hfew : items.length < blockItems := Nat.lt_of_le_of_lt hItems (by decide)
    rw [blocks] at hFuel hCount ⊢
    exact h.readsAt_last hfew hFuel hCount
  | succ n ih =>
    rw [blocks] at hFuel hCount ⊢
    by_cases hfew : items.length < blockItems
    · rw [if_pos hfew] at hFuel hCount ⊢
      exact h.readsAt_last hfew hFuel hCount
    · rw [if_neg hfew] at hFuel hCount ⊢
      dsimp only at hFuel hCount ⊢
      obtain ⟨hfirst, hrest⟩ := h.split blockItems rfl
      generalize (items.take blockItems).foldl (fun n item => n + itemSize item) 0 = size at *
      -- a full block, and then the others: a block has bits, so that the fuel lasts
      have hpos := length_block_pos offset false (bytes.take size) (items.take blockItems)
      rw [List.length_append] at hFuel hCount
      obtain ⟨count, rfl⟩ := Nat.exists_eq_succ_of_ne_zero (show count ≠ 0 by omega)
      have hcontent : Content out (bytes.take size) (items.take blockItems) := by
        have hexpand := hfirst.expand
        have hwritable := hfirst.writable
        rw [Option.toList_none, List.append_nil] at hexpand hwritable
        exact ⟨hexpand, hwritable, List.length_take_le _ _⟩
      have hleft : (items.drop blockItems).length ≤ n := by
        have : 0 < blockItems := by decide
        rw [List.length_drop]
        omega
      refine readsAt_block hcontent (by omega) ?_
      rw [if_neg Bool.false_ne_true, ← append_take_drop out bytes size]
      -- only the offset within a byte matters to the blocks after it
      refine BitReader.ReadsAt.congr ?_ (Nat.mod_mod _ _)
      exact ih hrest hleft (by omega) (by omega)

end Blocks

/-- The checksum at the end of a stream is read back. -/
theorem reads_checksum (n : Nat) : ((List.range 4).mapM fun _ => BitReader.number 8).Reads
    (bitsOfBytes (Adler32.bytes n)) ((Adler32.bytes n).map UInt8.toNat) :=
  BitReader.reads_bytes rfl

/-- A stream of blocks, the rest of their last byte, and a checksum are read one after the other. -/
theorem decompress?_of_blocks {bytes : List UInt8} {bits : List Bool}
    (h : ∀ fuel, bits.length ≤ fuel →
      (Inflate.blocks fuel fuel #[]).ReadsAt 0 bits bytes.toArray) :
    Inflate.decompress? (0x78 :: 0x9c :: (bytesOfBits bits ++
      Adler32.bytes (Adler32.checksum bytes))) = some bytes := by
  have hheader : Inflate.isHeader 0x78 0x9c = true := by decide
  have hend := length_bitsOfBytes (bytesOfBits bits ++ Adler32.bytes (Adler32.checksum bytes))
  have hsum := reads_checksum (Adler32.checksum bytes) []
  rw [List.append_nil] at hsum
  rw [Inflate.decompress?, hheader]
  simp only [Bool.not_true, Bool.false_eq_true, if_false]
  rw [bitsOfBytes_append, bitsOfBytes_bytesOfBits, List.append_assoc] at hend ⊢
  -- the blocks are followed by the bits that fill the last byte, and then by the checksum
  have halign := BitReader.readsAt_align bits.length
    (bitsOfBytes (Adler32.bytes (Adler32.checksum bytes)))
    (by rw [← List.length_append, hend]; omega)
  generalize List.replicate ((8 - bits.length % 8) % 8) false ++
    bitsOfBytes (Adler32.bytes (Adler32.checksum bytes)) = tail at hend halign ⊢
  -- the reader has as much fuel as there are bits in all
  have hfuel : bits.length ≤ (bits ++ tail).length := by
    rw [List.length_append]
    exact Nat.le_add_right _ _
  have hblocks := h _ hfuel tail (by rw [hend]; omega)
  rw [hblocks, Option.bind_eq_bind, Option.bind_some, halign, Option.bind_eq_bind,
    Option.bind_some, hsum, Option.bind_eq_bind, Option.bind_some, if_pos rfl]

/-- **Compressing loses nothing.** -/
theorem decompress?_compress (bytes : List UInt8) :
    Inflate.decompress? (compress bytes) = some bytes := by
  obtain ⟨hexpand, hwritable⟩ := Match.items_spec bytes.toArray
  rw [compress]
  generalize Match.items bytes.toArray = matched at hexpand hwritable ⊢
  obtain ⟨items, pending⟩ := matched
  have hremaining : Remaining pending #[] bytes items.toList :=
    ⟨by rwa [Array.empty_append], hwritable⟩
  dsimp only
  rw [List.cons_append, List.cons_append]
  refine decompress?_of_blocks fun fuel hFuel => ?_
  have hread := hremaining.readsAt_blocks (Nat.le_of_eq rfl) hFuel hFuel
  rwa [Array.empty_append] at hread

end Deflate

end Keyset
