/-!
# Keyset — Base64

The URL-safe alphabet without padding. Reading is lenient: bytes outside the
alphabet are skipped, both spellings of the last two digits are accepted, and
the text is padded as its length asks for.

* `Base64.encode` — the text of a byte sequence.
* `Base64.decode?` — the bytes of a text.
-/

namespace Keyset.Base64

/-! ## Writing -/

/-- The digit of a value below 64. -/
def digit (n : Nat) : UInt8 :=
  if n < 26 then (65 + n).toUInt8
  else if n < 52 then (71 + n).toUInt8
  else if n < 62 then (n - 4).toUInt8
  else if n = 62 then 45
  else 95

/-- The text of a byte sequence: four digits for three bytes, two or three digits
for the one or two bytes that remain. -/
def encode : List UInt8 → List UInt8
  | a :: b :: c :: rest =>
      let n := (a.toNat * 256 + b.toNat) * 256 + c.toNat
      digit (n / 262144) :: digit (n / 4096 % 64) :: digit (n / 64 % 64) :: digit (n % 64)
        :: encode rest
  | [a, b] =>
      let n := (a.toNat * 256 + b.toNat) * 4
      [digit (n / 4096), digit (n / 64 % 64), digit (n % 64)]
  | [a] =>
      let n := a.toNat * 16
      [digit (n / 64), digit (n % 64)]
  | [] => []

/-! ## Reading -/

/-- The value of a digit, in the URL-safe or the standard alphabet. -/
def value? (b : UInt8) : Option Nat :=
  let n := b.toNat
  if 65 ≤ n ∧ n ≤ 90 then some (n - 65)
  else if 97 ≤ n ∧ n ≤ 122 then some (n - 71)
  else if 48 ≤ n ∧ n ≤ 57 then some (n + 4)
  else if n = 45 ∨ n = 43 then some 62
  else if n = 95 ∨ n = 47 then some 63
  else none

/-- Where a group of four digits stands: the digits read of it, the bits that no
byte has taken yet, and the padding marks since the last digit. -/
structure Group where
  count : Nat
  bits : Nat
  pads : Nat

/-- Read digits. Enough padding for the digits of the open group ends the text;
without it a group must be complete. -/
def decodeFrom (g : Group) (out : List UInt8) : List UInt8 → Option (List UInt8)
  | [] => if g.count = 0 then some out.reverse else none
  | b :: rest =>
      if b = 61 then
        -- padding before the second digit of a group is skipped like a byte that is no digit
        if 2 ≤ g.count then
          if 4 ≤ g.count + g.pads + 1 then some out.reverse
          else decodeFrom { g with pads := g.pads + 1 } out rest
        else decodeFrom g out rest
      else
        match value? b with
        | none => decodeFrom g out rest
        | some v =>
            match g.count with
            | 0 => decodeFrom ⟨1, v, 0⟩ out rest
            | 1 => decodeFrom ⟨2, v % 16, 0⟩ ((g.bits * 4 + v / 16).toUInt8 :: out) rest
            | 2 => decodeFrom ⟨3, v % 4, 0⟩ ((g.bits * 16 + v / 4).toUInt8 :: out) rest
            | _ => decodeFrom ⟨0, 0, 0⟩ ((g.bits * 64 + v).toUInt8 :: out) rest

/-- The padding that a text of so many bytes lacks. -/
def padding (length : Nat) : List UInt8 := List.replicate ((4 - length % 4) % 4) 61

/-- The bytes of a text. -/
def decode? (text : List UInt8) : Option (List UInt8) :=
  decodeFrom ⟨0, 0, 0⟩ [] (text ++ padding text.length)

end Keyset.Base64
