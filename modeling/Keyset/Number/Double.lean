/-!
# Keyset — binary doubles

Page numbers pass through binary floating point, and document values may be
floating-point numbers, so the engine needs their exact arithmetic. A double
here is its mathematical content: not a number, an infinity, or a signed
significand scaled by a power of two. Every operation computes the exact
rational result and rounds it once.

* `Double.ofRatio` — the double nearest to a quotient, ties to the even
  significand; the only place where rounding happens.
* `Double.add`, `sub`, `mul`, `div` — exact operation, then one rounding.
* `Double.floorDiv` — floor division through the exact remainder.
* `Double.floor?` — the greatest integer below, for finite doubles.
-/

namespace Keyset

/-- A binary double. `finite negative significand exponent` denotes
`±significand · 2 ^ exponent`; zero is written with significand and exponent 0. -/
inductive Double where
  | nan
  | infinity (negative : Bool)
  | finite (negative : Bool) (significand : Nat) (exponent : Int)
  deriving DecidableEq, Repr, Inhabited

namespace Double

/-! ## Format -/

/-- Number of significant bits. -/
def precision : Nat := 53

/-- The least exponent of a significand. -/
def minExponent : Int := -1074

/-- The greatest exponent of a full significand. -/
def maxExponent : Int := 971

/-- Zero, with its sign. -/
def zero (negative : Bool) : Double := .finite negative 0 0

/-- The numerator of `significand · 2 ^ exponent` over `scaleDen exponent`. -/
def scaleNum (significand : Nat) (exponent : Int) : Nat :=
  significand * Nat.pow 2 exponent.toNat

/-- The denominator that belongs to `scaleNum`. -/
def scaleDen (exponent : Int) : Nat := Nat.pow 2 (-exponent).toNat

/-! ## Rounding -/

/-- The quotient `num / den` rounded to an integer, a half to the even neighbour. -/
def roundHalfEven (num den : Nat) : Nat :=
  let q := num / den
  let twice := 2 * (num % den)
  if twice < den then q
  else if den < twice then q + 1
  else if q % 2 = 0 then q else q + 1

/-- The exponent at which `num / den` has a full significand, before the lower
limit of the format applies: `num / den` lies strictly between `2 ^ (k - 1)` and
`2 ^ (k + 1)`, where `k` is the difference of the logarithms. -/
def ratioExponent (num den : Nat) : Int :=
  let k : Int := (num.log2 : Int) - den.log2
  if scaleNum den k ≤ num * scaleDen k then k + 1 - precision else k - precision

/-- Write a rounded significand in the canonical form, or as an infinity when
it exceeds the format. -/
def normalize (negative : Bool) (significand : Nat) (exponent : Int) : Double :=
  if significand = 0 then zero negative
  else if significand = Nat.pow 2 precision then
    if maxExponent ≤ exponent then .infinity negative
    else .finite negative (Nat.pow 2 (precision - 1)) (exponent + 1)
  else if maxExponent < exponent then .infinity negative
  else .finite negative significand exponent

/-- The double nearest to `±num / den`, a tie going to the even significand. -/
def ofRatio (negative : Bool) (num den : Nat) : Double :=
  if num = 0 then zero negative
  else
    let e := max minExponent (ratioExponent num den)
    normalize negative (roundHalfEven (num * scaleDen e) (den * scaleNum 1 e)) e

/-- The double nearest to an integer. -/
def ofInt (n : Int) : Double := ofRatio (n < 0) n.natAbs 1

/-- The double nearest to an integer, if that is a finite number. -/
def ofInt? (n : Int) : Option Double :=
  match ofInt n with
  | .finite s m e => some (.finite s m e)
  | _ => none

/-- The double nearest to `±digits · 10 ^ exponent`. Exponents far outside the
format are decided without forming the power. -/
def ofDecimal (negative : Bool) (digits : Nat) (exponent : Int) : Double :=
  if digits = 0 ∨ exponent < -400 - (digits.log2 : Int) then zero negative
  else if 400 < exponent then .infinity negative
  else ofRatio negative (digits * Nat.pow 10 exponent.toNat) (Nat.pow 10 (-exponent).toNat)

/-! ## Exact content -/

/-- The signed significand over the common exponent `e`, for `e ≤ exponent`. -/
def alignedTo (e : Int) (negative : Bool) (significand : Nat) (exponent : Int) : Int :=
  let magnitude : Int := (significand * Nat.pow 2 (exponent - e).toNat : Nat)
  if negative then -magnitude else magnitude

/-- The sign bit. -/
def isNegative : Double → Bool
  | .nan => false
  | .infinity s => s
  | .finite s _ _ => s

/-- Whether the double is one of the two zeros. -/
def isZero : Double → Bool
  | .finite _ 0 _ => true
  | _ => false

/-- The greatest integer that is not above a finite double. -/
def floor? : Double → Option Int
  | .finite s m e =>
      let magnitude : Int := scaleNum m e
      some (Int.fdiv (if s then -magnitude else magnitude) (scaleDen e))
  | _ => none

/-- The integer that a finite double with zero fraction denotes. -/
def toInt? (x : Double) : Option Int :=
  match x with
  | .finite s m e =>
      if scaleNum m e % scaleDen e = 0 then
        let magnitude : Int := scaleNum m e / scaleDen e
        some (if s then -magnitude else magnitude)
      else none
  | _ => none

/-! ## Arithmetic -/

/-- The opposite number. -/
def neg : Double → Double
  | .nan => .nan
  | .infinity s => .infinity !s
  | .finite s m e => .finite (!s) m e

/-- Round `n · 2 ^ e`; `zeroSign` is the sign of an exact zero. -/
def ofScaled (zeroSign : Bool) (n : Int) (e : Int) : Double :=
  if n = 0 then zero zeroSign
  else ofRatio (n < 0) (scaleNum n.natAbs e) (scaleDen e)

/-- Sum, rounded once. An exact zero is negative only if both terms are. -/
def add : Double → Double → Double
  | .nan, _ => .nan
  | _, .nan => .nan
  | .infinity s, .infinity t => if s = t then .infinity s else .nan
  | .infinity s, .finite .. => .infinity s
  | .finite .., .infinity t => .infinity t
  | .finite s m e, .finite t n f =>
      let g := min e f
      ofScaled (s && t) (alignedTo g s m e + alignedTo g t n f) g

/-- Difference, rounded once. -/
def sub (x y : Double) : Double := add x (neg y)

/-- Product, rounded once. -/
def mul : Double → Double → Double
  | .nan, _ => .nan
  | _, .nan => .nan
  | .infinity s, y => if y.isZero then .nan else .infinity (s != y.isNegative)
  | x, .infinity t => if x.isZero then .nan else .infinity (x.isNegative != t)
  | .finite s m e, .finite t n f =>
      ofRatio (s != t) (scaleNum (m * n) (e + f)) (scaleDen (e + f))

/-- Quotient, rounded once. Dividing by zero gives an infinity, `0 / 0` no number. -/
def div : Double → Double → Double
  | .nan, _ => .nan
  | _, .nan => .nan
  | .infinity _, .infinity _ => .nan
  | .infinity s, .finite t _ _ => .infinity (s != t)
  | .finite s _ _, .infinity t => zero (s != t)
  | .finite s m e, .finite t n f =>
      if n = 0 then if m = 0 then .nan else .infinity (s != t)
      else ofRatio (s != t) (scaleNum m e * scaleDen f) (scaleDen e * scaleNum n f)

/-- Remainder of the division that truncates toward zero; it is exact and has
the sign of the dividend. -/
def truncMod : Double → Double → Double
  | .nan, _ => .nan
  | _, .nan => .nan
  | .infinity _, _ => .nan
  | x, .infinity _ => x
  | .finite s m e, .finite _ n f =>
      if n = 0 then .nan
      else
        let g := min e f
        let r := (alignedTo g false m e) % (alignedTo g false n f)
        ofScaled s (if s then -r else r) g

/-- Whether the first number is less than the second. Nothing is less than or
greater than `nan`. -/
def lt : Double → Double → Bool
  | .nan, _ => false
  | _, .nan => false
  | .infinity s, .infinity t => s && !t
  | .infinity s, .finite .. => s
  | .finite .., .infinity t => !t
  | .finite s m e, .finite t n f =>
      let g := min e f
      alignedTo g s m e < alignedTo g t n f

/-- Numeric equality: the two zeros are equal, and `nan` equals nothing. -/
def numEq : Double → Double → Bool
  | .nan, _ => false
  | _, .nan => false
  | .infinity s, .infinity t => s == t
  | .infinity _, .finite .. => false
  | .finite .., .infinity _ => false
  | .finite s m e, .finite t n f =>
      let g := min e f
      alignedTo g s m e == alignedTo g t n f

/-- The greatest integral double not above; infinities and `nan` stay. -/
def floor (x : Double) : Double :=
  match x with
  | .finite s _ _ =>
      match x.floor? with
      | some n => if n = 0 then zero s else ofInt n
      | none => x
  | _ => x

/-- One half. -/
def half : Double := .finite false (Nat.pow 2 52) (-53)

/-- One. -/
def one : Double := .finite false (Nat.pow 2 52) (-52)

/-- Floor division by a nonzero double. The quotient is formed from the exact
remainder, whose sign is first made that of the divisor, and then snapped to
the integer below, so that rounding in the quotient cannot move it by one. -/
def floorDiv (x y : Double) : Double :=
  let r := truncMod x y
  let q := div (sub x r) y
  let flips := !r.isZero && (lt y (zero false) != lt r (zero false))
  let q := if flips then sub q one else q
  if q.isZero then zero (div x y).isNegative
  else
    let down := floor q
    if lt half (sub q down) then add down one else down

/-- Split into the fraction and the integral part toward zero, both with the
sign of the number. -/
def fraction (x : Double) : Double :=
  match x with
  | .finite s m e =>
      let r := scaleNum m e % scaleDen e
      if r = 0 then zero s else ofRatio s r (scaleDen e)
  | _ => zero x.isNegative

/-- The integral part toward zero of a finite double. -/
def truncate? : Double → Option Int
  | .finite s m e =>
      let magnitude : Int := scaleNum m e / scaleDen e
      some (if s then -magnitude else magnitude)
  | _ => none

end Double

end Keyset
