/-!
# Keyset — reading encoded text

What all text encodings have in common: the two ways in which bytes fail to be text,
and the character of a code.

* `Encoding.Fault` — why bytes are no text.
* `Encoding.charOfCode?` — the character of a code.
* `Encoding.hexNumber?` — a number in hexadecimal digits.
-/

namespace Keyset.Encoding

/-- Why bytes are no text in an encoding. -/
inductive Fault where
  /-- The bytes at some place are no character. -/
  | bytes
  /-- The text breaks a rule of the encoding as a whole: the mark of the byte order is
  missing, or a name is not in its one written form. -/
  | form
  deriving DecidableEq, Repr

/-- What stands for half of a pair of codes without its other half. -/
def loneHalf : Char := '\ufffd'

/-- Whether a code is the first half of a pair. -/
def isHighHalf (code : Nat) : Bool := 0xd800 ≤ code && code < 0xdc00

/-- Whether a code is the second half of a pair. -/
def isLowHalf (code : Nat) : Bool := 0xdc00 ≤ code && code < 0xe000

/-- The character that the two halves of a pair make. -/
def joinHalves (high low : Nat) : Char :=
  Char.ofNat (0x10000 + (high - 0xd800) * 0x400 + (low - 0xdc00))

/-- The character of a code, or what stands for half of a pair. -/
def charOfCode? (code : Nat) : Option Char :=
  if 0x110000 ≤ code then none
  else if isHighHalf code || isLowHalf code then some loneHalf
  else some (Char.ofNat code)

/-- The character that a byte is in Latin-1. -/
def latinChar (b : UInt8) : Char := Char.ofNat b.toNat

/-- The value of a hexadecimal digit. -/
def hexValue? (b : UInt8) : Option Nat :=
  let n := b.toNat
  if 48 ≤ n && n < 58 then some (n - 48)
  else if 65 ≤ n && n < 71 then some (n - 55)
  else if 97 ≤ n && n < 103 then some (n - 87)
  else none

/-- The number that so many hexadecimal digits at the start spell. -/
def hexNumber? (count : Nat) (bs : List UInt8) : Option Nat :=
  if bs.length < count then none
  else (bs.take count).foldlM (fun n b => (hexValue? b).map (n * 16 + ·)) 0

end Keyset.Encoding
