import Keyset.Number.Double

/-!
# Keyset — shortest decimal text of doubles

A floating-point value is written with the fewest significant digits that read
back as the same double; of several such numbers the nearest is taken.

* `Double.shortest` — the digits, found by testing the two neighbours of the
  value on the grids with one, two, … seventeen digits.
* `Double.text` — positional from `0.0001` up to sixteen integer digits, with an
  exponent of at least two digits outside that range.
* `Double.ofText?` — reads such a text back.
-/

namespace Keyset.Double

/-! ## Digits -/

/-- The position of the leading digit: `10 ^ p ≤ significand · 2 ^ exponent < 10 ^ (p + 1)`. -/
def leadingPosition (significand : Nat) (exponent : Int) : Int :=
  let k : Int := (significand.log2 : Int) + exponent
  let start : Int := Int.fdiv ((k - 1) * 30103) 100000 - 1
  let below (p : Int) : Bool :=
    scaleNum significand exponent * Nat.pow 10 (-(p + 1)).toNat
      < scaleDen exponent * Nat.pow 10 (p + 1).toNat
  match (List.range 5).find? fun i : Nat => below (start + i) with
  | some i => start + i
  | none => start + 5

/-- Of the two neighbours of a positive double on the grid `10 ^ position`, the
one that reads back; of two the nearer, and at equal distance the even one. -/
def onGrid? (significand : Nat) (exponent : Int) (position : Int) : Option Nat :=
  let num := scaleNum significand exponent * Nat.pow 10 (-position).toNat
  let den := scaleDen exponent * Nat.pow 10 position.toNat
  let lower := num / den
  let readsBack (n : Nat) : Bool :=
    ofDecimal false n position == .finite false significand exponent
  match readsBack lower, readsBack (lower + 1) with
  | true, true => some (roundHalfEven num den)
  | true, false => some lower
  | false, true => some (lower + 1)
  | false, false => none

/-- The shortest decimal `digits · 10 ^ position` that reads back as the positive
double. Seventeen digits always suffice. -/
def shortest (significand : Nat) (exponent : Int) : Nat × Int :=
  let p := leadingPosition significand exponent
  let grids := (List.range 17).map fun n : Nat => p - n
  match grids.findSome? fun g => (onGrid? significand exponent g).map (·, g) with
  | some found => found
  | none => (0, 0)

/-! ## Text -/

/-- Drop trailing zeros of a digit text. -/
def significantDigits (digits : List Char) : List Char :=
  (digits.reverse.dropWhile (· == '0')).reverse

/-- Write `digits · 10 ^ position`, where `digits` has no trailing zero. `point`
counts the digits before the decimal point. -/
def positional (digits : List Char) (point : Int) : List Char :=
  if point ≤ 0 then '0' :: '.' :: List.replicate (-point).toNat '0' ++ digits
  else if (digits.length : Int) ≤ point then
    digits ++ List.replicate (point - digits.length).toNat '0' ++ ['.', '0']
  else digits.take point.toNat ++ '.' :: digits.drop point.toNat

/-- Write the digits with a power of ten: one digit before the point, the sign of
the exponent, and at least two exponent digits. -/
def scientific (digits : List Char) (point : Int) : List Char :=
  let e := point - 1
  let exponentDigits := Nat.toDigits 10 e.natAbs
  let padded := if exponentDigits.length < 2 then '0' :: exponentDigits else exponentDigits
  let head := match digits with
    | [] => ['0']
    | [d] => [d]
    | d :: rest => d :: '.' :: rest
  head ++ 'e' :: (if e < 0 then '-' else '+') :: padded

/-- The text of a double. -/
def text : Double → String
  | .nan => "nan"
  | .infinity s => if s then "-inf" else "inf"
  | .finite s m e =>
      let sign := if s then ['-'] else []
      if m = 0 then String.ofList (sign ++ ['0', '.', '0'])
      else
        let (d, position) := shortest m e
        let all := Nat.toDigits 10 d
        let point := (all.length : Int) + position
        let digits := significantDigits all
        let body :=
          if -4 < point ∧ point ≤ 16 then positional digits point
          else scientific digits point
        String.ofList (sign ++ body)

/-! ## Reading -/

/-- The number that a run of decimal digits denotes. -/
def natOfDigits (digits : List Char) : Nat :=
  digits.foldl (fun n c => n * 10 + (c.toNat - '0'.toNat)) 0

/-- Read an optional exponent mark, sign and digits up to the end of the text. -/
def exponentOf? : List Char → Option Int
  | [] => some 0
  | mark :: rest =>
      if mark = 'e' || mark = 'E' then
        let (negative, digits) := match rest with
          | '-' :: r => (true, r)
          | '+' :: r => (false, r)
          | r => (false, r)
        if digits.isEmpty || !digits.all Char.isDigit then none
        else
          let n : Int := natOfDigits digits
          some (if negative then -n else n)
      else none

/-- Read digits, an optional fraction and an optional exponent. -/
def ofUnsigned? (negative : Bool) (cs : List Char) : Option Double :=
  let whole := cs.takeWhile Char.isDigit
  let rest := cs.dropWhile Char.isDigit
  let (fraction, rest) := match rest with
    | '.' :: r => (r.takeWhile Char.isDigit, r.dropWhile Char.isDigit)
    | r => ([], r)
  if whole.isEmpty && fraction.isEmpty then none
  else (exponentOf? rest).map fun e =>
    ofDecimal negative (natOfDigits (whole ++ fraction)) (e - fraction.length)

/-- Read the text of a double, as `text` writes it. -/
def ofText? (s : String) : Option Double :=
  let (negative, body) := match s.toList with
    | '-' :: r => (true, r)
    | r => (false, r)
  if body = ['i', 'n', 'f'] then some (.infinity negative)
  else if body = ['n', 'a', 'n'] then some .nan
  else ofUnsigned? negative body

end Keyset.Double
