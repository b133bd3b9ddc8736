/-!
# Keyset — canonical codes

Compressed streams write symbols with canonical codes, which are given by the
length of every symbol's code word alone: words of one length are consecutive
numbers, in the order of their symbols.

* `Code.ofLengths?` — the code with given word lengths, if there is one.
* `Code.read` — read one symbol.
* `Code.words` — the word of every symbol.
-/

namespace Keyset

/-- Bits that are still to be read, the next one first. -/
abbrev BitReader := StateT (List Bool) Option

namespace BitReader

/-- Read one bit. -/
def bit : BitReader Bool := fun bits =>
  match bits with
  | [] => none
  | b :: rest => some (b, rest)

/-- Read a number of `count` bits, the lowest first. -/
def number : Nat → BitReader Nat
  | 0 => pure 0
  | count + 1 => do
      let b ← bit
      let rest ← number count
      return (if b then 1 else 0) + 2 * rest

/-- Skip to the next byte boundary; the input ends at one. -/
def align : BitReader Unit := fun bits => some ((), bits.drop (bits.length % 8))

end BitReader

/-- The bits of a byte sequence, the lowest of each byte first. -/
def bitsOfBytes (bs : List UInt8) : List Bool :=
  bs.flatMap fun b => (List.range 8).map fun i => b.toNat / Nat.pow 2 i % 2 == 1

/-- The number that bits denote, the lowest first. -/
def numberOfBits : List Bool → Nat
  | [] => 0
  | b :: rest => (if b then 1 else 0) + 2 * numberOfBits rest

/-- The bytes of a bit sequence, the last one filled up with zeros. -/
def bytesOfBits : List Bool → List UInt8
  | [] => []
  | b :: rest =>
      (numberOfBits (b :: rest.take 7)).toUInt8 :: bytesOfBits (rest.drop 7)
termination_by bits => bits.length

/-- A canonical code: how many words there are of each length from 1, and the
symbols in the order of their words. -/
structure Code where
  counts : List Nat
  symbols : Array Nat

namespace Code

/-- The greatest length of a word. -/
def maxLength : Nat := 15

/-- How many words there are of each length from 1. -/
def countsOf (lengths : List Nat) : List Nat :=
  (List.range maxLength).map fun i => lengths.count (i + 1)

/-- The symbols in the order of their words. -/
def symbolsOf (lengths : List Nat) : List Nat :=
  (List.range maxLength).flatMap fun i =>
    (lengths.zipIdx.filter fun p => p.1 == i + 1).map (·.2)

/-- The words that remain unused after the given counts, as a part of all words
of the last length; `none` when more words are asked for than there are. -/
def unused? (counts : List Nat) : Option Nat :=
  counts.foldlM (fun left n => if 2 * left < n then none else some (2 * left - n)) 1

/-- The code with given word lengths; zero means that a symbol has no word. All
words must be used, except that a code may have no words at all or, if `lone`
allows it, a single word of one bit. -/
def ofLengths? (lone : Bool) (lengths : List Nat) : Option Code := do
  let counts := countsOf lengths
  let left ← unused? counts
  let used := lengths.foldl max 0
  if used = 0 ∨ left = 0 ∨ (lone ∧ used = 1) then
    some ⟨counts, (symbolsOf lengths).toArray⟩
  else none

/-- Continue reading a word: `value` are its bits so far, `first` is the first
word of the next length, and `index` the number of all shorter words. -/
def readFrom (symbols : Array Nat) : List Nat → Nat → Nat → Nat → BitReader Nat
  | [], _, _, _ => failure
  | count :: rest, value, first, index => do
      let b ← BitReader.bit
      let value := 2 * value + (if b then 1 else 0)
      let first := 2 * first
      if value < first + count then
        match symbols[index + (value - first)]? with
        | some s => pure s
        | none => failure
      else readFrom symbols rest value (first + count) (index + count)

/-- Read one symbol. -/
def read (code : Code) : BitReader Nat := readFrom code.symbols code.counts 0 0 0

/-- The first word of each length from 1. -/
def firstWords (counts : List Nat) : List Nat :=
  (counts.foldl (fun (words, next) n => (words ++ [2 * next], 2 * next + n)) ([], 0)).1

/-- The bits of a word, the highest first. -/
def wordBits (length word : Nat) : List Bool :=
  (List.range length).map fun i => word / Nat.pow 2 (length - 1 - i) % 2 == 1

/-- The word of every symbol; empty for a symbol without one. -/
def words (lengths : List Nat) : Array (List Bool) :=
  let start := (firstWords (countsOf lengths)).toArray
  (lengths.foldl (fun (out, next) length =>
    if length = 0 then (out.push [], next)
    else
      let word := next[length - 1]?.getD 0
      (out.push (wordBits length word), next.setIfInBounds (length - 1) (word + 1)))
    (#[], start)).1

end Code

end Keyset
