/-!
# Keyset — Adler-32

The checksum at the end of a compressed stream: the sum of the bytes and the sum
of the intermediate sums.

* `Adler32.checksum` — the checksum of a byte sequence.
-/

namespace Keyset.Adler32

/-- The modulus of both sums. -/
def modulus : Nat := 65521

/-- The checksum of a byte sequence. -/
def checksum (bs : List UInt8) : Nat :=
  let (a, b) := bs.foldl (fun (a, b) x =>
    let a := (a + x.toNat) % modulus
    (a, (b + a) % modulus)) (1, 0)
  b * 65536 + a

/-- The four bytes of a checksum, the first one highest. -/
def bytes (n : Nat) : List UInt8 :=
  [(n / 16777216).toUInt8, (n / 65536).toUInt8, (n / 256).toUInt8, n.toUInt8]

end Keyset.Adler32
