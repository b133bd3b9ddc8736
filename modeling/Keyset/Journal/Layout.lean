import Keyset.Error.Basic
import Keyset.Number.Places

/-!
# Keyset — conversions of template arguments

A directive of a message template turns one argument into text. It names a
conversion and may ask for a least width, a precision and a form of the sign.

* `Layout` — what a directive asks for besides its conversion.
* `Layout.convert` — the text of an argument under a conversion.
-/

namespace Keyset

/-- What a directive asks for besides its conversion. -/
structure Layout where
  /-- Stand at the left of the width. -/
  left : Bool := false
  /-- Write a plus sign before numbers that are not negative. -/
  plus : Bool := false
  /-- Write a blank in the place of that sign. -/
  blank : Bool := false
  /-- Mark the base of an integer, and keep the point of a fraction. -/
  marked : Bool := false
  /-- Fill numbers with zeros up to the width. -/
  zeros : Bool := false
  width : Nat := 0
  precision : Option Nat := none
  deriving Repr

namespace Layout

/-! ## Width -/

/-- A text in its width. -/
def place (l : Layout) (body : List Char) : List Char :=
  let fill := List.replicate (l.width - body.length) ' '
  if l.left then body ++ fill else fill ++ body

/-- A text cut to the precision. -/
def cut (l : Layout) (body : List Char) : List Char :=
  match l.precision with
  | some n => body.take n
  | none => body

/-- The sign of a number. -/
def sign (l : Layout) (negative : Bool) : List Char :=
  if negative then ['-'] else if l.plus then ['+'] else if l.blank then [' '] else []

/-- A number in its width: `front` is its sign and the mark of its base, after which
zeros may be filled in. -/
def placeNumber (l : Layout) (front digits : List Char) : List Char :=
  if l.zeros && !l.left then
    front ++ List.replicate (l.width - front.length - digits.length) '0' ++ digits
  else l.place (front ++ digits)

/-! ## Operands -/

/-- The integer part of a number. -/
def integerPart : Value → Except Failure Int
  | .int n => .ok n
  | .bool b => .ok (if b then 1 else 0)
  | .float .nan => .error (.value .nanInteger)
  | .float x => match x.truncate? with
    | some n => .ok n
    | none => .error .overflow
  | _ => .error .wrongType

/-- A whole number. -/
def wholeNumber : Value → Except Failure Int
  | .int n => .ok n
  | .bool b => .ok (if b then 1 else 0)
  | _ => .error .wrongType

/-- The double nearest to a number. -/
def nearestDouble : Value → Except Failure Double
  | .float x => .ok x
  | v => do
      match Double.ofInt? (← wholeNumber v) with
      | some x => return x
      | none => .error .overflow

/-! ## Conversions -/

/-- An integer with at least as many digits as the precision asks for. -/
def digits (l : Layout) (ds : List Char) : List Char :=
  List.replicate (l.precision.getD 0 - ds.length) '0' ++ ds

/-- An integer in base 8 or 16. -/
def inBase (l : Layout) (base : Nat) (mark : Char) (n : Int) : List Char :=
  let front := l.sign (n < 0) ++ if l.marked then ['0', mark] else []
  l.placeNumber front (l.digits (Nat.toDigits base n.natAbs))

/-- A double: `finite` writes the magnitude of a finite one. -/
def double (l : Layout) (x : Double) (finite : Nat → Int → List Char) : List Char :=
  match x with
  | .nan => l.placeNumber (l.sign false) "nan".toList
  | .infinity s => l.placeNumber (l.sign s) "inf".toList
  | .finite s m e => l.placeNumber (l.sign s) (finite m e)

/-- A quoted text in ASCII. -/
def asciiOnly (cs : List Char) : List Char :=
  cs.flatMap fun c =>
    if c.toNat < 128 then [c]
    else if c.toNat < 0x100 then '\\' :: 'x' :: Text.hex 2 c.toNat
    else if c.toNat < 0x10000 then '\\' :: 'u' :: Text.hex 4 c.toNat
    else '\\' :: 'U' :: Text.hex 8 c.toNat

/-- The single character that an argument is or numbers. -/
def character : Value → Except Failure Char
  | .str s => match s.toList with
    | [c] => .ok c
    | _ => .error .wrongType
  | v => do
      let n ← wholeNumber v
      if 0 ≤ n ∧ n < 0x110000 then return Char.ofNat n.toNat else .error .overflow

/-- Capital ASCII letters. -/
def capitals (cs : List Char) : List Char := cs.map Char.toUpper

/-- The text of an argument under a conversion, if there is such a conversion. -/
def convert (l : Layout) (conversion : Char) (v : Value) : Option (Except Failure (List Char)) :=
  let places := l.precision.getD 6
  let text (shown : Except ValueFault String) : Except Failure (List Char) := do
    return l.place (l.cut (← shown).toList)
  let decimal : Except Failure (List Char) := do
    let n ← integerPart v
    let ds ← Decimal.render n.natAbs
    return l.placeNumber (l.sign (n < 0)) (l.digits ds.toList)
  let real (finite : Nat → Int → List Char) : Except Failure (List Char) := do
    return l.double (← nearestDouble v) finite
  match conversion with
  | 's' => some (text v.display)
  | 'r' => some (text v.quoted)
  | 'a' => some do return l.place (l.cut (asciiOnly (← v.quoted).toList))
  | 'c' => some do return l.place [← character v]
  | 'd' => some decimal
  | 'i' => some decimal
  | 'u' => some decimal
  | 'o' => some do return l.inBase 8 'o' (← wholeNumber v)
  | 'x' => some do return l.inBase 16 'x' (← wholeNumber v)
  | 'X' => some do return capitals (l.inBase 16 'x' (← wholeNumber v))
  | 'f' => some (real (Double.fixed l.marked places))
  | 'F' => some do return capitals (← real (Double.fixed l.marked places))
  | 'e' => some (real (Double.withExponent l.marked places))
  | 'E' => some do return capitals (← real (Double.withExponent l.marked places))
  | 'g' => some (real (Double.general l.marked places))
  | 'G' => some do return capitals (← real (Double.general l.marked places))
  | _ => none

end Layout

end Keyset
