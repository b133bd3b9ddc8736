import Keyset.Number.Shortest

/-!
# Keyset — doubles with a given number of digits

Log messages write floating-point values with a chosen number of digits. Digits
are those of the exact value, a half going to the even neighbour.

* `Double.fixed` — so many digits after the point.
* `Double.withExponent` — one digit before the point, so many after it, and a power
  of ten.
* `Double.general` — so many significant digits, in the shorter of the two forms.

The functions write the magnitude of a finite double; `marked` asks for a point
even if no digit follows it, and for trailing zeros in the general form.
-/

namespace Keyset.Double

/-- The digits of a number, with zeros in front up to a least length. -/
def digitsOf (least n : Nat) : List Char :=
  let ds := Nat.toDigits 10 n
  List.replicate (least - ds.length) '0' ++ ds

/-- Digits with the point before the last `places` of them. -/
def pointed (marked : Bool) (places : Nat) (ds : List Char) : List Char :=
  let whole := ds.take (ds.length - places)
  if places = 0 then if marked then whole ++ ['.'] else whole
  else whole ++ '.' :: ds.drop (ds.length - places)

/-- The magnitude of a double with `places` digits after the point. -/
def fixed (marked : Bool) (places significand : Nat) (exponent : Int) : List Char :=
  let n := roundHalfEven (scaleNum significand exponent * Nat.pow 10 places) (scaleDen exponent)
  pointed marked places (digitsOf (places + 1) n)

/-- The magnitude of a double as `digits · 10 ^ position` with exactly `count` digits. -/
def significant (count significand : Nat) (exponent : Int) : Nat × Int :=
  if significand = 0 then (0, 1 - count)
  else
    let position := leadingPosition significand exponent + 1 - count
    let n := roundHalfEven (scaleNum significand exponent * Nat.pow 10 (-position).toNat)
      (scaleDen exponent * Nat.pow 10 position.toNat)
    if n = Nat.pow 10 count then (n / 10, position + 1) else (n, position)

/-- The power of ten after a number: its sign and at least two digits. -/
def powerText (power : Int) : List Char :=
  'e' :: (if power < 0 then '-' else '+') :: digitsOf 2 power.natAbs

/-- The magnitude of a double with one digit before the point and `places` after it. -/
def withExponent (marked : Bool) (places significand : Nat) (exponent : Int) : List Char :=
  let (n, position) := significant (places + 1) significand exponent
  pointed marked places (digitsOf (places + 1) n) ++ powerText (position + places)

/-- Drop zeros at the end of a fraction, and a point that nothing follows. -/
def dropFractionZeros (cs : List Char) : List Char :=
  if cs.contains '.' then
    let kept := (cs.reverse.dropWhile (· == '0')).reverse
    if kept.getLast? = some '.' then kept.dropLast else kept
  else cs

/-- The magnitude of a double with `count` significant digits: with an exponent when
the leading digit stands below `10 ^ -4` or at `10 ^ count` and above. -/
def general (marked : Bool) (count significand : Nat) (exponent : Int) : List Char :=
  let count := max count 1
  let (n, position) := significant count significand exponent
  let power := position + count - 1
  let tidy (cs : List Char) : List Char := if marked then cs else dropFractionZeros cs
  if -4 ≤ power ∧ power < count then
    let places := (count - 1 - power).toNat
    tidy (pointed marked places (digitsOf (places + 1) n))
  else tidy (pointed marked (count - 1) (digitsOf count n)) ++ powerText power

end Keyset.Double
