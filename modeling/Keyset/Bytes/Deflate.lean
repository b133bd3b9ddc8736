import Keyset.Bytes.CodeLengths
import Keyset.Bytes.Inflate
import Keyset.Bytes.Match

/-!
# Keyset — writing compressed streams

A byte sequence is turned into literals and copies, which are written in blocks.
Each block takes the shortest of three forms: plain bytes, the fixed codes, or
codes made for the block.

* `Deflate.compress` — the compressed stream of a byte sequence.
-/

namespace Keyset.Deflate

/-! ## Symbols -/

/-- A symbol with the value and the number of its extra bits. -/
structure Symbol where
  code : Nat
  extra : Nat
  width : Nat

/-- The last entry of a table that starts at or below a number. -/
def entry (table : Array (Nat × Nat)) (n : Nat) : Symbol :=
  let i := (table.toList.takeWhile fun e => e.1 ≤ n).length - 1
  let e := table[i]?.getD (0, 0)
  ⟨i, n - e.1, e.2⟩

/-- The literal or length symbol of an item, and the distance symbol of a copy. -/
def symbolsOf : Item → Symbol × Option Symbol
  | .literal b => (⟨b.toNat, 0, 0⟩, none)
  | .copy length distance =>
      let l := entry Inflate.lengthTable length
      ({ l with code := l.code + 257 }, some (entry Inflate.distanceTable distance))

/-- How often each of the first `size` codes occurs. -/
def frequencies (size : Nat) (codes : List Nat) : List Nat :=
  (codes.foldl (fun (a : Array Nat) c => a.modify c (· + 1)) (Array.replicate size 0)).toList

/-! ## Runs of word lengths -/

/-- The symbols for `count` equal word lengths: repetitions of the last length
take 3 to 6 of them, zeros 3 to 10 or 11 to 138. -/
def runSymbols (length previous : Option Nat) (count : Nat) : List Symbol :=
  match length with
  | none => []
  | some value =>
      if value = 0 then
        if count < 3 then List.replicate count ⟨0, 0, 0⟩
        else if count ≤ 10 then [⟨17, count - 3, 3⟩]
        else [⟨18, count - 11, 7⟩]
      else if previous = some value then
        if count < 3 then List.replicate count ⟨value, 0, 0⟩ else [⟨16, count - 3, 2⟩]
      else
        if count < 4 then List.replicate count ⟨value, 0, 0⟩
        else [⟨value, 0, 0⟩, ⟨16, count - 4, 2⟩]

/-- The greatest number of equal word lengths that are written together. -/
def longestRun (length : Nat) (previous : Option Nat) : Nat :=
  if length = 0 then 138 else if previous = some length then 6 else 7

/-- Write word lengths as symbols of the length code. `current` is the length of
the open run, `count` its size so far, and `previous` the length before it. -/
def lengthSymbols (current previous : Option Nat) (count : Nat) : List Nat → List Symbol
  | [] => runSymbols current previous count
  | length :: rest =>
      match current with
      | none => lengthSymbols (some length) none 1 rest
      | some value =>
          if length = value ∧ count < longestRun value previous then
            lengthSymbols current previous (count + 1) rest
          else
            runSymbols current previous count ++ lengthSymbols (some length) (some value) 1 rest

/-- Word lengths up to the last one that is not zero. -/
def usedLengths (lengths : List Nat) : List Nat :=
  (lengths.reverse.dropWhile (· = 0)).reverse

/-! ## Blocks -/

/-- The `width` bits of a number, the lowest first. -/
def numberBits (width n : Nat) : List Bool :=
  (List.range width).map fun i => n / Nat.pow 2 i % 2 == 1

/-- Bits of a symbol: its word and its extra bits. -/
def symbolBits (words : Array (List Bool)) (s : Symbol) : List Bool :=
  words[s.code]?.getD [] ++ numberBits s.width s.extra

/-- Bits that symbols take with words of the given lengths. -/
def cost (lengths : Array Nat) (symbols : List Symbol) : Nat :=
  symbols.foldl (fun n s => n + lengths[s.code]?.getD 0 + s.width) 0

/-- The bits of a block's items and its end mark. -/
def bodyBits (literalLengths distanceLengths : List Nat) (items : List (Symbol × Option Symbol)) :
    List Bool :=
  let literals := Code.words literalLengths
  let distances := Code.words distanceLengths
  items.flatMap (fun p =>
    symbolBits literals p.1 ++ (match p.2 with
      | some d => symbolBits distances d
      | none => []))
    ++ literals[256]?.getD []

/-- The bits of a block of plain bytes, at an offset into a byte. -/
def storedBits (offset : Nat) (final : Bool) (bytes : List UInt8) : List Bool :=
  let head := final :: numberBits 2 0
  let fill := List.replicate ((8 - (offset + 3) % 8) % 8) false
  head ++ fill ++ numberBits 16 bytes.length ++ numberBits 16 (65535 - bytes.length)
    ++ bitsOfBytes bytes

/-- The bits of one block; `offset` counts the bits already in the last byte. -/
def block (offset : Nat) (final : Bool) (bytes : List UInt8) (content : List Item) : List Bool :=
  let items := content.map symbolsOf
  let literalSymbols := items.map (·.1) ++ [⟨256, 0, 0⟩]
  let distanceSymbols := items.filterMap (·.2)
  let literalLengths :=
    CodeLengths.ofFrequencies 15 (frequencies 286 (literalSymbols.map (·.code)))
  let distanceLengths :=
    CodeLengths.ofFrequencies 15 (frequencies 30 (distanceSymbols.map (·.code)))
  let literalUsed := usedLengths literalLengths
  let distanceUsed := usedLengths distanceLengths
  let runs := lengthSymbols none none 0 literalUsed ++ lengthSymbols none none 0 distanceUsed
  let runLengths := CodeLengths.ofFrequencies 7 (frequencies 19 (runs.map (·.code)))
  let ordered := Inflate.lengthCodeOrder.map fun s => runLengths[s]?.getD 0
  let orderedUsed := max 4 (usedLengths ordered).length
  let ownCost := cost literalLengths.toArray literalSymbols
    + cost distanceLengths.toArray distanceSymbols + cost runLengths.toArray runs
    + 3 * orderedUsed + 14
  let fixedCost := cost Inflate.fixedLiteralLengths.toArray literalSymbols
    + cost Inflate.fixedDistanceLengths.toArray distanceSymbols
  -- three bits more for the form of the block, and up to a whole byte
  let ownBytes := (ownCost + 10) / 8
  let fixedBytes := (fixedCost + 10) / 8
  if bytes.length + 4 ≤ min ownBytes fixedBytes then storedBits offset final bytes
  else if fixedBytes ≤ ownBytes then
    final :: numberBits 2 1
      ++ bodyBits Inflate.fixedLiteralLengths Inflate.fixedDistanceLengths items
  else
    let runWords := Code.words runLengths
    final :: numberBits 2 2 ++ numberBits 5 (literalUsed.length - 257)
      ++ numberBits 5 (distanceUsed.length - 1) ++ numberBits 4 (orderedUsed - 4)
      ++ (ordered.take orderedUsed).flatMap (numberBits 3)
      ++ runs.flatMap (symbolBits runWords)
      ++ bodyBits literalLengths distanceLengths items

/-- The number of bytes that an item stands for. -/
def itemSize : Item → Nat
  | .literal _ => 1
  | .copy length _ => length

/-- The number of items after which a block is written. -/
def blockItems : Nat := 16383

/-- Write all items. A block is written as soon as it has `blockItems` of them; the
last block is written when the input ends, with the literal pending there, and may
have no items at all. -/
def blocks (pending : Option Item) : Nat → Nat → List UInt8 → List Item → List Bool
  | 0, offset, bytes, items => block offset true bytes (items ++ pending.toList)
  | fuel + 1, offset, bytes, items =>
      if items.length < blockItems then block offset true bytes (items ++ pending.toList)
      else
        let now := items.take blockItems
        let size := now.foldl (fun n i => n + itemSize i) 0
        let bits := block offset false (bytes.take size) now
        bits ++ blocks pending fuel ((offset + bits.length) % 8) (bytes.drop size)
          (items.drop blockItems)

/-! ## Streams -/

/-- The compressed stream of a byte sequence. -/
def compress (bytes : List UInt8) : List UInt8 :=
  let (items, pending) := Match.items bytes.toArray
  0x78 :: 0x9c :: bytesOfBits (blocks pending items.size 0 bytes items.toList)
    ++ Adler32.bytes (Adler32.checksum bytes)

end Keyset.Deflate
