import Keyset.Encoding.Basic

/-!
# Keyset — encodings with wide units

UTF-16 and UTF-32 write text in units of two and four bytes. The order of the bytes of
a unit is fixed by the encoding, or a mark at the start gives it.

* `Wide.Form` — the width of units; `Wide.Form.read` — the text of bytes up to a unit
  that is not complete.
* `Wide.decode?` — the text of bytes in a given order.
* `Wide.decodeMarked` — the text of bytes whose order a mark gives.
-/

namespace Keyset.Encoding.Wide

/-- The order of the bytes of a unit. -/
inductive ByteOrder where
  | little
  | big
  deriving DecidableEq, Repr

/-- The number that the bytes of a unit are. -/
def ByteOrder.number (o : ByteOrder) (bs : List UInt8) : Nat :=
  let ordered := match o with
    | .big => bs
    | .little => bs.reverse
  ordered.foldl (fun n b => n * 256 + b.toNat) 0

/-- Text up to a unit that is not complete, and whether there is such a unit. -/
structure Reading where
  chars : List Char
  complete : Bool

/-- A character before a reading. -/
def Reading.cons (c : Char) (r : Reading) : Reading := { r with chars := c :: r.chars }

/-- The width of units. -/
inductive Form where
  /-- Units of two bytes; characters beyond them are pairs of halves. -/
  | utf16
  /-- Units of four bytes. -/
  | utf32
  deriving DecidableEq, Repr

/-- The text of two-byte units. -/
def read16 (o : ByteOrder) : List UInt8 → Option Reading
  | a :: b :: rest =>
      let unit := o.number [a, b]
      if isHighHalf unit then
        match rest with
        | c :: d :: more =>
            let next := o.number [c, d]
            if isLowHalf next then (read16 o more).map (.cons (joinHalves unit next)) else none
        | _ => some ⟨[], false⟩
      else if isLowHalf unit then none
      else (read16 o rest).map (.cons (Char.ofNat unit))
  | [_] => some ⟨[], false⟩
  | [] => some ⟨[], true⟩

/-- The text of four-byte units. -/
def read32 (o : ByteOrder) : List UInt8 → Option Reading
  | a :: b :: c :: d :: rest =>
      let code := o.number [a, b, c, d]
      if 0x110000 ≤ code || isHighHalf code || isLowHalf code then none
      else (read32 o rest).map (.cons (Char.ofNat code))
  | [] => some ⟨[], true⟩
  | _ => some ⟨[], false⟩

/-- The text of units. -/
def Form.read : Form → ByteOrder → List UInt8 → Option Reading
  | .utf16 => read16
  | .utf32 => read32

/-- The text of bytes in a given order. -/
def decode? (f : Form) (o : ByteOrder) (bs : List UInt8) : Option (List Char) :=
  match f.read o bs with
  | some ⟨chars, true⟩ => some chars
  | _ => none

/-- The mark at the start of text. -/
def Form.mark : Form → ByteOrder → List UInt8
  | .utf16, .little => [0xff, 0xfe]
  | .utf16, .big => [0xfe, 0xff]
  | .utf32, .little => [0xff, 0xfe, 0, 0]
  | .utf32, .big => [0, 0, 0xfe, 0xff]

/-- The text of bytes that begin with a mark; the mark is no part of the text. Without a
mark only empty text has a reading. -/
def decodeMarked (f : Form) (bs : List UInt8) : Except Fault (List Char) :=
  let after (o : ByteOrder) : Except Fault (List Char) :=
    match decode? f o (bs.drop (f.mark o).length) with
    | some chars => .ok chars
    | none => .error .bytes
  if (f.mark .little).isPrefixOf bs then after .little
  else if (f.mark .big).isPrefixOf bs then after .big
  else match f.read .little bs with
    | some ⟨[], true⟩ => .ok []
    | some ⟨_ :: _, _⟩ => .error .form
    | _ => .error .bytes

end Keyset.Encoding.Wide
