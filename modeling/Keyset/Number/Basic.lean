import Keyset.Error.Basic

/-!
# Keyset — numbers

Counters are integers, but may arrive as doubles. Arithmetic on two integers is
exact; as soon as a double takes part, the integer is converted, which fails if
it is too large.

* `Number` — an integer or a double.
* `Number.add`, `sub`, `floorDiv` — mixed arithmetic.
* `Number.roundHalfUp` — the nearest integer, a half upward.
-/

namespace Keyset

/-- An integer or a double. -/
inductive Number where
  | int (n : Int)
  | float (x : Double)
  deriving DecidableEq, Repr, Inhabited

namespace Number

/-- The number that a value is; truth values count as 0 and 1. -/
def ofValue? : Value → Option Number
  | .bool b => some (.int (if b then 1 else 0))
  | .int n => some (.int n)
  | .float x => some (.float x)
  | _ => none

/-- The value of a number. -/
def toValue : Number → Value
  | .int n => .int n
  | .float x => .float x

/-- The number as a double. -/
def toDouble : Number → Except Failure Double
  | .float x => .ok x
  | .int n =>
      match Double.ofInt? n with
      | some x => .ok x
      | none => .error .overflow

/-- Apply an operation, on integers or on doubles. -/
def lift (onInt : Int → Int → Int) (onDouble : Double → Double → Double) :
    Number → Number → Except Failure Number
  | .int a, .int b => .ok (.int (onInt a b))
  | a, b => do
      let x ← a.toDouble
      let y ← b.toDouble
      return .float (onDouble x y)

/-- Sum. -/
def add : Number → Number → Except Failure Number := lift (· + ·) Double.add

/-- Difference. -/
def sub : Number → Number → Except Failure Number := lift (· - ·) Double.sub

/-- The opposite number. -/
def neg : Number → Number
  | .int n => .int (-n)
  | .float x => .float x.neg

/-- Quotient rounded down. -/
def floorDiv : Number → Number → Except Failure Number
  | .int a, .int b => if b = 0 then .error .divisionByZero else .ok (.int (Int.fdiv a b))
  | a, b => do
      let x ← a.toDouble
      let y ← b.toDouble
      if y.isZero then .error .divisionByZero else .ok (.float (x.floorDiv y))

/-- Quotient rounded up. -/
def ceilDiv (a b : Number) : Except Failure Number := do
  return (← a.neg.floorDiv b).neg

/-- Whether a number is greater than zero. -/
def isPositive : Number → Bool
  | .int n => 0 < n
  | .float x => Double.lt (.zero false) x

/-- The nearest integer, a half upward: half is added to the number as a double,
and the sum is rounded down. -/
def roundHalfUp (n : Number) : Except Failure Int := do
  let x ← n.toDouble
  let sum := x.add Double.half
  match sum.floor? with
  | some r => return r
  | none => .error (if sum = .nan then .value .nanInteger else .overflow)

end Number

end Keyset
