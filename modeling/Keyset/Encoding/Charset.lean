import Keyset.Encoding.Basic

/-!
# Keyset — charsets

A charset gives every byte a character of its own, or none. Most agree with Latin-1 up
to some byte, so a charset lists only the characters of the last bytes.

* `Charset.decode?` — the text of bytes.
* `Charset.ascii`, `Charset.latin1` — the two plainest charsets.
-/

namespace Keyset

/-- A charset: its name, other names for it, and the characters of the last bytes, in
rows. The bytes before those stand for the characters of the same number. -/
structure Charset where
  name : String
  otherNames : List String
  cells : List String

namespace Charset

/-- What a charset lists for a byte that is no character. -/
def vacant : Char := '\ufffe'

/-- The character of a byte, given the listed ones. -/
def charOf? (cells : Array Char) (b : UInt8) : Option Char :=
  let first := 256 - cells.size
  if b.toNat < first then some (Encoding.latinChar b)
  else cells[b.toNat - first]?.filter (· ≠ vacant)

/-- The text of bytes. -/
def decode? (c : Charset) (bs : List UInt8) : Option (List Char) :=
  bs.mapM (charOf? (c.cells.flatMap String.toList).toArray)

/-- The charset whose last 128 bytes are no characters. -/
def ascii : Charset where
  name := "ascii"
  otherNames := ["646", "ansi_x3.4_1968", "ansi_x3.4_1986", "ansi_x3_4_1968", "cp367", "csascii",
    "ibm367", "iso646_us", "iso_646.irv_1991", "iso_ir_6", "us", "us_ascii"]
  cells := [String.ofList (List.replicate 128 vacant)]

/-- The charset whose bytes are the characters of the same number. -/
def latin1 : Charset where
  name := "latin_1"
  otherNames := ["8859", "charmap", "cp819", "csisolatin1", "ibm819", "iso8859", "iso8859_1",
    "iso_8859_1", "iso_8859_1_1987", "iso_ir_100", "l1", "latin", "latin1"]
  cells := []

end Charset

end Keyset
