import Keyset.Encoding.Grid.Big5
import Keyset.Encoding.Grid.Hkscs
import Keyset.Encoding.Stepwise

/-!
# Keyset — Big5

The traditional Chinese characters in two bytes, and the two extensions of the code: the
code page 950 and the characters of Hong Kong.

* `Big5` — the encodings; `Big5.decode?` — the text of bytes.
-/

namespace Keyset.Encoding

/-- Big5 and its extensions. -/
inductive Big5 where
  | plain
  | cp950
  | hkscs
  deriving DecidableEq, Repr

namespace Big5

open Stepwise

/-- The number of the second byte in a row. -/
def cell? (b : UInt8) : Option Nat := around? 0x40 0x7e 0xa1 0xfe b

/-- The place of two bytes, for rows that begin at a lead byte. -/
def place? (first : Nat) (a b : UInt8) : Option Nat := do
  return (← offset? first 0xfe a) * 157 + (← cell? b)

/-- Whether two bytes are a place at which only the characters of Hong Kong count. -/
def isReplaced (a b : UInt8) : Bool :=
  a = 0xc7 || a = 0xc8 || (a = 0xc6 && 0xa1 ≤ b.toNat)

/-- Read a character of the code with the characters of Hong Kong. -/
def hkscsStep (big5 hkscs : Grid.Index) : Step := fun a rest =>
  match inGrid (place? 0x81) hkscs a rest, rest with
  | some r, _ => some r
  | none, b :: _ => if isReplaced a b then none else inGrid (place? 0xa1) big5 a rest
  | none, [] => none

/-- Read a character. -/
def step : Big5 → Step
  | .plain => inGrid (place? 0xa1) (Grid.index [.big5])
  | .cp950 => inGrid (place? 0xa1) (Grid.index [.big5, .cp950])
  | .hkscs => hkscsStep (Grid.index [.big5]) (Grid.index [.hkscs])

/-- The text of bytes. -/
def decode? (e : Big5) (bs : List UInt8) : Option (List Char) :=
  Stepwise.decode? (asciiOr e.step) bs

end Big5

end Keyset.Encoding
