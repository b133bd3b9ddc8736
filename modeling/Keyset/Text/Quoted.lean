import Keyset.Text.Printable

/-!
# Keyset — quoted text

Error messages show the offending text in quotes: in single quotes, unless it
holds a single quote and no double quote. A backslash and the enclosing quote
are escaped, and so is every character without a visible form.

* `Text.quote` — the quoted form of a text.
* `Text.quoteBytes` — the quoted form of a byte sequence.
-/

namespace Keyset.Text

/-- A digit below 16 in lower case. -/
def hexDigit (n : Nat) : Char :=
  if n < 10 then Char.ofNat (48 + n) else Char.ofNat (87 + n)

/-- The last `width` hexadecimal digits of a number. -/
def hex (width n : Nat) : List Char :=
  match width with
  | 0 => []
  | w + 1 => hex w (n / 16) ++ [hexDigit (n % 16)]

/-- The enclosing quote: a double quote only for a text with a single quote and
no double quote. -/
def quoteMark (cs : List Char) : Char :=
  if cs.contains '\'' && !cs.contains '"' then '"' else '\''

/-- Write a character inside quotes `mark`. -/
def escapeChar (mark : Char) (c : Char) : List Char :=
  if c = mark ∨ c = '\\' then ['\\', c]
  else if c = '\n' then ['\\', 'n']
  else if c = '\r' then ['\\', 'r']
  else if c = '\t' then ['\\', 't']
  else if isPrintable c then [c]
  else if c.toNat < 0x100 then '\\' :: 'x' :: hex 2 c.toNat
  else if c.toNat < 0x10000 then '\\' :: 'u' :: hex 4 c.toNat
  else '\\' :: 'U' :: hex 8 c.toNat

/-- The quoted form of a text. -/
def quote (s : String) : String :=
  let cs := s.toList
  let mark := quoteMark cs
  String.ofList (mark :: cs.flatMap (escapeChar mark) ++ [mark])

/-- Write a byte inside quotes `mark`: as an ASCII character if that is visible. -/
def escapeByte (mark : Char) (b : UInt8) : List Char :=
  if b.toNat < 127 then escapeChar mark (Char.ofNat b.toNat)
  else '\\' :: 'x' :: hex 2 b.toNat

/-- The quoted form of a byte sequence, after the letter `b`. -/
def quoteBytes (bs : List UInt8) : String :=
  let mark := quoteMark (bs.map fun b => Char.ofNat b.toNat)
  String.ofList ('b' :: mark :: bs.flatMap (escapeByte mark) ++ [mark])

end Keyset.Text
