import Keyset.Bytes.Adler32
import Keyset.Bytes.Huffman

/-!
# Keyset — reading compressed streams

A compressed stream is a header, blocks of literal bytes and of copies of earlier
output, and a checksum of the output. What follows the checksum is ignored.

* `Inflate.tables` — the lengths and distances that copies are written with.
* `Inflate.decompress?` — the output of a stream, if it is well formed.
-/

namespace Keyset.Inflate

/-! ## Tables -/

/-- The least length and the number of extra bits of each length symbol. -/
def lengthTable : Array (Nat × Nat) :=
  #[(3, 0), (4, 0), (5, 0), (6, 0), (7, 0), (8, 0), (9, 0), (10, 0), (11, 1), (13, 1),
    (15, 1), (17, 1), (19, 2), (23, 2), (27, 2), (31, 2), (35, 3), (43, 3), (51, 3), (59, 3),
    (67, 4), (83, 4), (99, 4), (115, 4), (131, 5), (163, 5), (195, 5), (227, 5), (258, 0)]

/-- The least distance and the number of extra bits of each distance symbol. -/
def distanceTable : Array (Nat × Nat) :=
  #[(1, 0), (2, 0), (3, 0), (4, 0), (5, 1), (7, 1), (9, 2), (13, 2), (17, 3), (25, 3),
    (33, 4), (49, 4), (65, 5), (97, 5), (129, 6), (193, 6), (257, 7), (385, 7), (513, 8),
    (769, 8), (1025, 9), (1537, 9), (2049, 10), (3073, 10), (4097, 11), (6145, 11),
    (8193, 12), (12289, 12), (16385, 13), (24577, 13)]

/-- The order in which the lengths of the length code are written. -/
def lengthCodeOrder : List Nat :=
  [16, 17, 18, 0, 8, 7, 9, 6, 10, 5, 11, 4, 12, 3, 13, 2, 14, 1, 15]

/-- Word lengths of the fixed code for literals and lengths. -/
def fixedLiteralLengths : List Nat :=
  List.replicate 144 8 ++ List.replicate 112 9 ++ List.replicate 24 7 ++ List.replicate 8 8

/-- Word lengths of the fixed code for distances. -/
def fixedDistanceLengths : List Nat := List.replicate 32 5

/-! ## Blocks -/

/-- Append a copy of `count` bytes from `distance` bytes back. -/
def copyBack (distance : Nat) : Nat → Array UInt8 → Option (Array UInt8)
  | 0, out => some out
  | count + 1, out =>
      if distance ≤ out.size then
        match out[out.size - distance]? with
        | some b => copyBack distance count (out.push b)
        | none => none
      else none

/-- Read symbols until the end of the block, at most `fuel` of them. -/
def symbols (literals distances : Code) : Nat → Array UInt8 → BitReader (Array UInt8)
  | 0, _ => failure
  | fuel + 1, out => do
      let s ← literals.read
      if s < 256 then symbols literals distances fuel (out.push s.toUInt8)
      else if s = 256 then pure out
      else
        let (base, extra) ← (lengthTable[s - 257]? : Option (Nat × Nat))
        let length := base + (← BitReader.number extra)
        let d ← distances.read
        let (base, extra) ← (distanceTable[d]? : Option (Nat × Nat))
        let distance := base + (← BitReader.number extra)
        let out ← (copyBack distance length out : Option (Array UInt8))
        symbols literals distances fuel out

/-- Read `total` word lengths written with the length code. -/
def wordLengths (code : Code) (total : Nat) : Nat → List Nat → BitReader (List Nat)
  | 0, lengths => if lengths.length = total then pure lengths.reverse else failure
  | fuel + 1, lengths => do
      if total ≤ lengths.length then
        if lengths.length = total then pure lengths.reverse else failure
      else
        let s ← code.read
        let (value, count) ←
          if s < 16 then pure (s, 1)
          else if s = 16 then do
            let n ← BitReader.number 2
            match lengths with
            | last :: _ => pure (last, 3 + n)
            | [] => failure
          else if s = 17 then do pure (0, 3 + (← BitReader.number 3))
          else do pure (0, 11 + (← BitReader.number 7))
        wordLengths code total fuel (List.replicate count value ++ lengths)

/-- Read the two codes of a block. -/
def blockCodes : BitReader (Code × Code) := do
  let literalCount := 257 + (← BitReader.number 5)
  let distanceCount := 1 + (← BitReader.number 5)
  let lengthCount := 4 + (← BitReader.number 4)
  if 286 < literalCount ∨ 30 < distanceCount then failure
  let given ← (List.range lengthCount).mapM fun _ => BitReader.number 3
  let ordered := lengthCodeOrder.zip given
  let lengths := (List.range 19).map fun s => ((ordered.find? (·.1 == s)).map (·.2)).getD 0
  let code ← (Code.ofLengths? false lengths : Option Code)
  let total := literalCount + distanceCount
  let all ← wordLengths code total total []
  let literals := all.take literalCount
  -- a block must be able to end
  if literals[256]?.getD 0 = 0 then failure
  let literalCode ← (Code.ofLengths? true literals : Option Code)
  let distanceCode ← (Code.ofLengths? true (all.drop literalCount) : Option Code)
  return (literalCode, distanceCode)

/-- Read a block of plain bytes. -/
def storedBlock (out : Array UInt8) : BitReader (Array UInt8) := do
  BitReader.align
  let length ← BitReader.number 16
  let complement ← BitReader.number 16
  if length + complement ≠ 65535 then failure
  let bytes ← (List.range length).mapM fun _ => BitReader.number 8
  return out ++ (bytes.map Nat.toUInt8).toArray

/-- Read blocks until the last one. -/
def blocks (fuel : Nat) : Nat → Array UInt8 → BitReader (Array UInt8)
  | 0, _ => failure
  | count + 1, out => do
      let final ← BitReader.bit
      let type ← BitReader.number 2
      let out ←
        if type = 0 then storedBlock out
        else if type = 1 then do
          let literals ← (Code.ofLengths? true fixedLiteralLengths : Option Code)
          let distances ← (Code.ofLengths? true fixedDistanceLengths : Option Code)
          symbols literals distances fuel out
        else if type = 2 then do
          let (literals, distances) ← blockCodes
          symbols literals distances fuel out
        else failure
      if final then pure out else blocks fuel count out

/-! ## Streams -/

/-- Whether the first two bytes announce a stream without a preset dictionary. -/
def isHeader (a b : UInt8) : Bool :=
  a.toNat % 16 == 8 && a.toNat / 16 ≤ 7 && (a.toNat * 256 + b.toNat) % 31 == 0
    && b.toNat / 32 % 2 == 0

/-- The output of a stream. Each symbol takes at least one bit, which bounds
their number. -/
def decompress? : List UInt8 → Option (List UInt8)
  | a :: b :: rest => do
      if !isHeader a b then none
      let bits := bitsOfBytes rest
      let (out, rest) ← (blocks bits.length bits.length #[]).run bits
      let ((), rest) ← BitReader.align.run rest
      let (sum, _) ← ((List.range 4).mapM fun _ => BitReader.number 8).run rest
      if sum = (Adler32.bytes (Adler32.checksum out.toList)).map UInt8.toNat then some out.toList
      else none
  | _ => none

end Keyset.Inflate
