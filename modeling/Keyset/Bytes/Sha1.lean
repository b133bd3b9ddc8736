/-!
# Keyset — SHA-1

The secure hash with a 160-bit digest, on byte lists.

* `Sha1.digest` — the twenty bytes of a message's digest.
-/

namespace Keyset.Sha1

/-- The chaining state. -/
structure State where
  a : UInt32
  b : UInt32
  c : UInt32
  d : UInt32
  e : UInt32

/-- The state before the first block. -/
def initial : State := ⟨0x67452301, 0xefcdab89, 0x98badcfe, 0x10325476, 0xc3d2e1f0⟩

/-- Rotate a word to the left, by 1 to 31 places. -/
def rotate (x : UInt32) (n : UInt32) : UInt32 := (x <<< n) ||| (x >>> (32 - n))

/-- A word from four bytes, the first one highest. -/
def word (a b c d : UInt8) : UInt32 :=
  (a.toUInt32 <<< 24) ||| (b.toUInt32 <<< 16) ||| (c.toUInt32 <<< 8) ||| d.toUInt32

/-- The four bytes of a word. -/
def wordBytes (w : UInt32) : List UInt8 :=
  [(w >>> 24).toUInt8, (w >>> 16).toUInt8, (w >>> 8).toUInt8, w.toUInt8]

/-- The words of a byte sequence. -/
def words : List UInt8 → List UInt32
  | a :: b :: c :: d :: rest => word a b c d :: words rest
  | _ => []

/-- The number of a message's bits, in eight bytes. -/
def lengthBytes (bytes : Nat) : List UInt8 :=
  (List.range 8).map fun i => (bytes * 8 / Nat.pow 256 (7 - i)).toUInt8

/-- A message filled up to whole blocks of 64 bytes: a set bit, zeros, the length. -/
def pad (message : List UInt8) : List UInt8 :=
  let n := message.length
  message ++ 0x80 :: List.replicate ((119 - n % 64) % 64) 0 ++ lengthBytes n

/-- Extend the sixteen words of a block, `count` words at a time. -/
def schedule : Nat → Array UInt32 → Array UInt32
  | 0, w => w
  | count + 1, w =>
      let n := w.size
      let at' (i : Nat) : UInt32 := w[n - i]?.getD 0
      schedule count (w.push (rotate (at' 3 ^^^ at' 8 ^^^ at' 14 ^^^ at' 16) 1))

/-- The function and the constant of a round. -/
def mix (t : Nat) (b c d : UInt32) : UInt32 × UInt32 :=
  if t < 20 then ((b &&& c) ||| ((~~~b) &&& d), 0x5a827999)
  else if t < 40 then (b ^^^ c ^^^ d, 0x6ed9eba1)
  else if t < 60 then ((b &&& c) ||| (b &&& d) ||| (c &&& d), 0x8f1bbcdc)
  else (b ^^^ c ^^^ d, 0xca62c1d6)

/-- One round. -/
def round (s : State) (tw : UInt32 × Nat) : State :=
  let (f, k) := mix tw.2 s.b s.c s.d
  ⟨rotate s.a 5 + f + s.e + k + tw.1, s.a, rotate s.b 30, s.c, s.d⟩

/-- Take one block into the state. -/
def compress (s : State) (block : List UInt32) : State :=
  let w := schedule 64 block.toArray
  let r := w.toList.zipIdx.foldl round s
  ⟨s.a + r.a, s.b + r.b, s.c + r.c, s.d + r.d, s.e + r.e⟩

/-- Take `count` blocks into the state. -/
def blocks : Nat → State → List UInt32 → State
  | 0, s, _ => s
  | count + 1, s, ws => blocks count (compress s (ws.take 16)) (ws.drop 16)

/-- The digest of a message. -/
def digest (message : List UInt8) : List UInt8 :=
  let ws := words (pad message)
  let s := blocks (ws.length / 16) initial ws
  [s.a, s.b, s.c, s.d, s.e].flatMap wordBytes

end Keyset.Sha1
