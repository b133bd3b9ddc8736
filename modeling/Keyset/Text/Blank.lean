/-!
# Keyset — blanks

Numbers in requests are trimmed of Unicode white space. Lines and values of
settings files are trimmed of blanks, which also include the four ASCII separator
controls.

* `isSpace` — Unicode white space; `isBlank` — blanks, which are a few more.
* `trim` — a text without the blanks at its ends.
-/

namespace Keyset.Text

/-- The white-space characters of Unicode. -/
def isSpace (c : Char) : Bool :=
  let n := c.toNat
  (9 ≤ n && n ≤ 13) || n == 32 || n == 0x85 || n == 0xa0 || n == 0x1680 ||
    (0x2000 ≤ n && n ≤ 0x200a) || n == 0x2028 || n == 0x2029 || n == 0x202f ||
    n == 0x205f || n == 0x3000

/-- The blank characters: white space and the four separator controls. -/
def isBlank (c : Char) : Bool := isSpace c || (28 ≤ c.toNat && c.toNat ≤ 31)

/-- Drop the characters of a class from both ends. -/
def stripBoth (p : Char → Bool) (cs : List Char) : List Char :=
  ((cs.dropWhile p).reverse.dropWhile p).reverse

/-- A text without the blanks at its ends. -/
def trim (cs : List Char) : List Char := stripBoth isBlank cs

end Keyset.Text
