import Keyset.Encoding.Grid
import Keyset.Encoding.Basic

/-!
# Keyset — encodings of one to several bytes

In many encodings the first byte of a character tells how many follow it, and nothing is
carried from one character to the next. Such an encoding is a function that reads the
first character.

* `Stepwise.decode?` — the text of bytes.
* `Stepwise.offset?`, `Stepwise.around?` — the number of a byte in one range or two.
* `Stepwise.inGrid` — a character given by its place in a grid.
-/

namespace Keyset.Encoding.Stepwise

/-- Reads a character from its first byte and the bytes after it, and tells how many of
those belong to it. -/
abbrev Step := UInt8 → List UInt8 → Option (List Char × Nat)

/-- The text of bytes. -/
def decode? (step : Step) : List UInt8 → Option (List Char)
  | [] => some []
  | b :: rest =>
      match step b rest with
      | none => none
      | some (text, count) =>
          if count ≤ rest.length then (decode? step (rest.drop count)).map (text ++ ·) else none
termination_by bs => bs.length
decreasing_by
  simp only [List.length_drop, List.length_cons]
  omega

/-- The number of a byte in a range. -/
def offset? (low high : Nat) (b : UInt8) : Option Nat :=
  if low ≤ b.toNat && b.toNat ≤ high then some (b.toNat - low) else none

/-- The number of a byte in two ranges, one after the other. -/
def around? (low high low' high' : Nat) (b : UInt8) : Option Nat :=
  match offset? low high b with
  | some n => some n
  | none => (offset? low' high' b).map (high - low + 1 + ·)

/-- The place of two bytes in a grid of 94 rows and cells, both counted from 0xa1. -/
def place94? (a b : UInt8) : Option Nat := do
  return (← offset? 0xa1 0xfe a) * 94 + (← offset? 0xa1 0xfe b)

/-- Read ASCII as it is, and everything else by another step. -/
def asciiOr (step : Step) : Step := fun b rest =>
  if b.toNat < 128 then some ([latinChar b], 0) else step b rest

/-- Read a character of two bytes whose place they give. -/
def inGrid (place? : UInt8 → UInt8 → Option Nat) (index : Grid.Index) : Step := fun a rest =>
  match rest with
  | [] => none
  | b :: _ => (place? a b).bind fun place => (index.at? place).map fun text => (text, 1)

end Keyset.Encoding.Stepwise
