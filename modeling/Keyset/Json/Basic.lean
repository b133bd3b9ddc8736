import Keyset.Number.Shortest
import Keyset.Text.Quoted
import Keyset.Value.Key

/-!
# Keyset — interchange text

The payload of a signed cursor is a JSON text.

* `Json.quote` — a text as a JSON string.
* `Json.read?` — the value that a JSON text denotes. Besides the standard it
  reads `NaN`, `Infinity` and `-Infinity`; of a repeated key the last value counts.
-/

namespace Keyset.Json

/-! ## Writing -/

/-- A character inside a string: quotes, backslashes and controls are escaped. -/
def escapeChar (c : Char) : List Char :=
  if c = '"' ∨ c = '\\' then ['\\', c]
  else if c = '\n' then ['\\', 'n']
  else if c = '\r' then ['\\', 'r']
  else if c = '\t' then ['\\', 't']
  else if c = '\x08' then ['\\', 'b']
  else if c = '\x0c' then ['\\', 'f']
  else if c.toNat < 0x20 then '\\' :: 'u' :: Text.hex 4 c.toNat
  else [c]

/-- A text as a JSON string. -/
def quote (s : String) : String := String.ofList ('"' :: s.toList.flatMap escapeChar ++ ['"'])

/-! ## Reading strings -/

/-- The value of a hexadecimal digit. -/
def hexValue? (c : Char) : Option Nat :=
  if c.isDigit then some (c.toNat - 48)
  else if 'a' ≤ c ∧ c ≤ 'f' then some (c.toNat - 87)
  else if 'A' ≤ c ∧ c ≤ 'F' then some (c.toNat - 55)
  else none

/-- The unit written with four hexadecimal digits at the front. -/
def unit? : List Char → Option (Nat × List Char)
  | a :: b :: c :: d :: rest => do
      let a ← hexValue? a
      let b ← hexValue? b
      let c ← hexValue? c
      let d ← hexValue? d
      some (((a * 16 + b) * 16 + c) * 16 + d, rest)
  | _ => none

/-- The character of a unit, joined with a following low half if it is a high one.
A half alone has no character and reads as U+FFFD. -/
def joinUnits (unit : Nat) (rest : List Char) : Char × List Char :=
  let alone := if 0xd800 ≤ unit ∧ unit < 0xe000 then '\ufffd' else Char.ofNat unit
  if 0xd800 ≤ unit ∧ unit < 0xdc00 then
    match rest with
    | '\\' :: 'u' :: more =>
        match unit? more with
        | some (low, after) =>
            if 0xdc00 ≤ low ∧ low < 0xe000 then
              (Char.ofNat (0x10000 + (unit - 0xd800) * 0x400 + (low - 0xdc00)), after)
            else (alone, rest)
        | none => (alone, rest)
    | _ => (alone, rest)
  else (alone, rest)

/-- The character that a one-letter escape stands for. -/
def shortEscape? : Char → Option Char
  | '"' => some '"'
  | '\\' => some '\\'
  | '/' => some '/'
  | 'b' => some '\x08'
  | 'f' => some '\x0c'
  | 'n' => some '\n'
  | 'r' => some '\r'
  | 't' => some '\t'
  | _ => none

/-- Read the characters of a string up to its closing quote. -/
def stringFrom : Nat → List Char → List Char → Option (List Char × List Char)
  | 0, _, _ => none
  | fuel + 1, acc, cs =>
      match cs with
      | [] => none
      | '"' :: rest => some (acc.reverse, rest)
      | '\\' :: 'u' :: rest => do
          let (unit, rest) ← unit? rest
          let (c, rest) := joinUnits unit rest
          stringFrom fuel (c :: acc) rest
      | '\\' :: e :: rest => do
          let c ← shortEscape? e
          stringFrom fuel (c :: acc) rest
      | c :: rest => if c.toNat < 32 ∨ c = '\\' then none else stringFrom fuel (c :: acc) rest

/-! ## Reading numbers -/

/-- The fraction at the front: a point and at least one digit. -/
def fractionOf : List Char → List Char × List Char
  | '.' :: rest =>
      let digits := rest.takeWhile Char.isDigit
      if digits.isEmpty then ([], '.' :: rest) else (digits, rest.dropWhile Char.isDigit)
  | rest => ([], rest)

/-- The exponent at the front: a mark, an optional sign and at least one digit. -/
def exponentOf (cs : List Char) : Option Int × List Char :=
  match cs with
  | mark :: rest =>
      if mark = 'e' ∨ mark = 'E' then
        let (negative, body) := match rest with
          | '-' :: r => (true, r)
          | '+' :: r => (false, r)
          | r => (false, r)
        let digits := body.takeWhile Char.isDigit
        if digits.isEmpty then (none, cs)
        else
          let n : Int := Double.natOfDigits digits
          (some (if negative then -n else n), body.dropWhile Char.isDigit)
      else (none, cs)
  | [] => (none, [])

/-- Read an unsigned number: an integer within the digit limit, or a double if it
has a fraction or an exponent. A leading zero stands alone. -/
def unsigned? (negative : Bool) (cs : List Char) : Option (Value × List Char) :=
  let run := cs.takeWhile Char.isDigit
  let whole := if run.head? = some '0' then ['0'] else run
  if whole.isEmpty then none
  else
    let rest := cs.drop whole.length
    let (fraction, rest) := fractionOf rest
    let (exponent, rest) := exponentOf rest
    if fraction.isEmpty && exponent.isNone then
      if 4300 < whole.length then none
      else
        let n : Int := Double.natOfDigits whole
        some (.int (if negative then -n else n), rest)
    else
      some (.float (Double.ofDecimal negative (Double.natOfDigits (whole ++ fraction))
        (exponent.getD 0 - fraction.length)), rest)

/-! ## Reading values -/

/-- Skip blanks between tokens. -/
def skip (cs : List Char) : List Char :=
  cs.dropWhile fun c => c = ' ' || c = '\t' || c = '\n' || c = '\r'

/-- Read a literal word. -/
def word? (word : String) (v : Value) (cs : List Char) : Option (Value × List Char) :=
  if word.toList.isPrefixOf cs then some (v, cs.drop word.length) else none

mutual
/-- Read a value at the front. -/
def value? : Nat → List Char → Option (Value × List Char)
  | 0, _ => none
  | fuel + 1, cs =>
      match cs with
      | '"' :: rest => (stringFrom cs.length [] rest).map fun p => (.str (String.ofList p.1), p.2)
      | '[' :: rest =>
          match skip rest with
          | ']' :: rest => some (.list [], rest)
          | rest => (items? fuel [] rest).map fun p => (.list p.1, p.2)
      | '\x7b' :: rest =>
          match skip rest with
          | '\x7d' :: rest => some (.mapping [], rest)
          | rest => (members? fuel [] rest).map fun p => (.mapping (Entries.build p.1), p.2)
      | 'n' :: _ => word? "null" .null cs
      | 't' :: _ => word? "true" (.bool true) cs
      | 'f' :: _ => word? "false" (.bool false) cs
      | 'N' :: _ => word? "NaN" (.float .nan) cs
      | 'I' :: _ => word? "Infinity" (.float (.infinity false)) cs
      | '-' :: 'I' :: _ => word? "-Infinity" (.float (.infinity true)) cs
      | '-' :: rest => unsigned? true rest
      | _ => unsigned? false cs

/-- Read the items of a list up to its end. -/
def items? : Nat → List Value → List Char → Option (List Value × List Char)
  | 0, _, _ => none
  | fuel + 1, acc, cs => do
      let (v, rest) ← value? fuel cs
      match skip rest with
      | ']' :: rest => some ((v :: acc).reverse, rest)
      | ',' :: rest => items? fuel (v :: acc) (skip rest)
      | _ => none

/-- Read the members of a mapping up to its end. -/
def members? : Nat → List (Value × Value) → List Char → Option (List (Value × Value) × List Char)
  | 0, _, _ => none
  | fuel + 1, acc, cs => do
      match cs with
      | '"' :: rest =>
          let (key, rest) ← stringFrom cs.length [] rest
          match skip rest with
          | ':' :: rest =>
              let (v, rest) ← value? fuel (skip rest)
              let acc := (.str (String.ofList key), v) :: acc
              match skip rest with
              | '\x7d' :: rest => some (acc.reverse, rest)
              | ',' :: rest => members? fuel acc (skip rest)
              | _ => none
          | _ => none
      | _ => none
end

/-- The value that a JSON text denotes. Every value takes at least one character,
which bounds the depth. -/
def read? (s : String) : Option Value := do
  let cs := s.toList
  let (v, rest) ← value? (2 * cs.length + 2) (skip cs)
  if (skip rest).isEmpty then some v else none

end Keyset.Json
