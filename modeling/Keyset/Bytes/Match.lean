/-!
# Keyset — matches in a byte sequence

A compressed stream replaces repetitions by copies of earlier bytes. Candidates
are found through chains of positions whose next three bytes have the same hash,
the latest first. A match is held back for one position, to see whether a longer
one starts there.

* `Item` — a literal byte or a copy.
* `Match.longest` — the best candidate of a chain, within the search limits.
* `Match.items` — the literals and copies of a byte sequence.
-/

namespace Keyset

/-- A literal byte, or a copy of `length` bytes from `distance` bytes back. -/
inductive Item where
  | literal (b : UInt8)
  | copy (length distance : Nat)
  deriving Repr

namespace Match

/-! ## Search limits -/

/-- The least length of a copy. -/
def minLength : Nat := 3

/-- The greatest length of a copy. -/
def maxLength : Nat := 258

/-- The greatest distance of a copy. -/
def maxDistance : Nat := 32506

/-- A copy of the least length is not worth a greater distance. -/
def tooFar : Nat := 4096

/-- With a match of this length in hand, the search follows a quarter of a chain. -/
def goodLength : Nat := 8

/-- With a match of this length in hand, no better one is looked for. -/
def lazyLength : Nat := 16

/-- A match of this length ends the search. -/
def niceLength : Nat := 128

/-- The number of candidates tried. -/
def chainLength : Nat := 128

/-! ## Chains -/

/-- The latest position of every hash, and the position before each one in its
chain. Position 0 ends a chain, so the first byte is never copied from. -/
structure Chains where
  head : Array Nat
  before : Array Nat

/-- The hash of the three bytes at a position. -/
def hash (data : Array UInt8) (i : Nat) : Nat :=
  let byte (k : Nat) : Nat := ((data[i + k]?).getD 0).toNat
  ((byte 0 * 1024) ^^^ (byte 1 * 32) ^^^ byte 2) % 32768

/-- Enter a position, if three bytes are left; also the chain's former head. -/
def Chains.insert (c : Chains) (data : Array UInt8) (i : Nat) : Chains × Nat :=
  if i + minLength ≤ data.size then
    let h := hash data i
    let former := c.head[h]?.getD 0
    (⟨c.head.setIfInBounds h i, c.before.setIfInBounds i former⟩, former)
  else (c, 0)

/-- How many bytes at two positions agree, `limit` of them at most. -/
def agreeing (data : Array UInt8) (i j : Nat) : Nat → Nat
  | 0 => 0
  | limit + 1 =>
      if data[i]? == data[j]? then 1 + agreeing data (i + 1) (j + 1) limit else 0

/-- Follow a chain from `candidate`, keeping the first of the longest matches;
`best` is the length to exceed and `start` the match that has it. -/
def longestFrom (data : Array UInt8) (before : Array Nat) (i : Nat) (nice : Nat) :
    Nat → Nat → Nat → Nat → Nat × Nat
  | 0, _, best, start => (best, start)
  | tries + 1, candidate, best, start =>
      let length := agreeing data candidate i (min maxLength (data.size - i))
      if best < length ∧ nice ≤ length then (length, candidate)
      else
        let (best, start) := if best < length then (length, candidate) else (best, start)
        let next := before[candidate]?.getD 0
        if next ≤ i - maxDistance then (best, start)
        else longestFrom data before i nice tries next best start

/-- The best match at a position that is longer than `previous`, as length and
start; the length is at most the number of bytes left. -/
def longest (data : Array UInt8) (before : Array Nat) (i candidate previous start : Nat) :
    Nat × Nat :=
  let tries := if goodLength ≤ previous then chainLength / 4 else chainLength
  let left := data.size - i
  let (length, start) :=
    longestFrom data before i (min niceLength left) tries candidate previous start
  (min length left, start)

/-! ## Items -/

/-- Where the reading of a sequence stands: the position, the chains, the match
found at the position before (a length below `minLength` means none), and
whether the byte before is still to be written. -/
structure State where
  position : Nat
  chains : Chains
  length : Nat
  start : Nat
  pending : Bool
  items : Array Item

/-- Enter the next `count` positions. -/
def insertMany (data : Array UInt8) : Nat → Nat → Chains → Chains
  | 0, _, c => c
  | count + 1, i, c => insertMany data count (i + 1) (c.insert data i).1

/-- The match at a position, given the one at the position before it. -/
def found (data : Array UInt8) (before : Array Nat) (s : State) (candidate : Nat) : Nat × Nat :=
  let i := s.position
  if candidate ≠ 0 ∧ s.length < lazyLength ∧ i - candidate ≤ maxDistance then
    let (length, start) := longest data before i candidate s.length s.start
    if length = minLength ∧ tooFar < i - start then (minLength - 1, start) else (length, start)
  else (minLength - 1, s.start)

/-- Read one position: write the held match if no longer one starts here, else
hold the match found here. -/
def step (data : Array UInt8) (s : State) : State :=
  let i := s.position
  let (chains, candidate) := s.chains.insert data i
  let (length, start) := found data chains.before s candidate
  if minLength ≤ s.length ∧ length ≤ s.length then
    -- the match starts one position back, and its other bytes are entered but not read
    { position := i + s.length - 1
      chains := insertMany data (s.length - 2) (i + 1) chains
      length := minLength - 1
      start := start
      pending := false
      items := s.items.push (.copy s.length (i - 1 - s.start)) }
  else
    { position := i + 1
      chains := chains
      length := length
      start := start
      pending := true
      items := if s.pending then s.items.push (.literal (data[i - 1]?.getD 0)) else s.items }

/-- Read positions up to the end; every step advances. -/
def run (data : Array UInt8) : Nat → State → State
  | 0, s => s
  | fuel + 1, s => if data.size ≤ s.position then s else run data fuel (step data s)

/-- The literals and copies of a byte sequence, without the literal that is still
pending at its end; and that literal. -/
def items (data : Array UInt8) : Array Item × Option Item :=
  let s := run data (data.size + 1)
    { position := 0
      chains := ⟨Array.replicate 32768 0, Array.replicate data.size 0⟩
      length := minLength - 1
      start := 0
      pending := false
      items := #[] }
  (s.items, if s.pending then some (.literal (data[s.position - 1]?.getD 0)) else none)

end Match

end Keyset
