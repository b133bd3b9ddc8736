import Keyset.Encoding.Basic

/-!
# Keyset — UTF-7

Text in ASCII alone. A plus sign shifts into a section of Base64 digits that hold
two-byte units; a minus sign, or any byte that is no digit, ends it.

* `Shifted.decode?` — the text of bytes.
-/

namespace Keyset.Encoding.Shifted

/-- The value of a Base64 digit. -/
def digit? (b : UInt8) : Option Nat :=
  let n := b.toNat
  if 65 ≤ n && n ≤ 90 then some (n - 65)
  else if 97 ≤ n && n ≤ 122 then some (n - 71)
  else if 48 ≤ n && n ≤ 57 then some (n + 4)
  else if n = 43 then some 62
  else if n = 47 then some 63
  else none

/-- What a section has read and not yet written: bits, and the first half of a pair. -/
structure Section where
  bits : Nat := 0
  buffer : Nat := 0
  half : Option Nat := none

namespace Section

/-- Whether a section may end here: less than a digit is left, all of it zero. -/
def settled (s : Section) : Bool := s.bits < 6 && s.buffer = 0

/-- What a unit adds to the text. -/
def write (s : Section) (unit : Nat) : List Char × Option Nat :=
  let alone := if isHighHalf unit then ([], some unit) else ((charOfCode? unit).toList, none)
  match s.half with
  | none => alone
  | some high =>
      if isLowHalf unit then ([joinHalves high unit], none) else (loneHalf :: alone.1, alone.2)

/-- Read a digit. -/
def push (s : Section) (digit : Nat) : List Char × Section :=
  let buffer := s.buffer * 64 + digit
  let bits := s.bits + 6
  if bits < 16 then ([], { s with bits, buffer })
  else
    let rest := Nat.pow 2 (bits - 16)
    let (text, half) := s.write (buffer / rest)
    (text, ⟨bits - 16, buffer % rest, half⟩)

/-- The text that is left when a section ends. -/
def ending (s : Section) : List Char := if s.half.isSome then [loneHalf] else []

end Section

/-- The text of bytes, outside or inside a section. -/
def decodeFrom : Option Section → List UInt8 → Option (List Char)
  | none, [] => some []
  | none, b :: rest =>
      if b = 43 then
        match rest with
        | [] => some []
        | c :: more =>
            -- a section without digits stands for the sign that opens it
            if c = 45 then (decodeFrom none more).map ('+' :: ·)
            else if (digit? c).isSome then decodeFrom (some {}) (c :: more)
            else none
      else if b.toNat < 128 then (decodeFrom none rest).map (latinChar b :: ·)
      else none
  | some s, [] => if s.settled && s.half.isNone then some [] else none
  | some s, b :: rest =>
      match digit? b with
      | some d =>
          let (text, s) := s.push d
          (decodeFrom (some s) rest).map (text ++ ·)
      | none =>
          if !s.settled || 128 ≤ b.toNat then none
          else
            let shown := if b = 45 then [] else [latinChar b]
            (decodeFrom none rest).map (s.ending ++ shown ++ ·)

/-- The text of bytes. -/
def decode? (bs : List UInt8) : Option (List Char) := decodeFrom none bs

end Keyset.Encoding.Shifted
