import Keyset.Journal.Layout
import Keyset.Value.Key

/-!
# Keyset — message templates

A log message may be a template into which arguments are written. A directive
begins with a percent sign, may name its argument in parentheses, and ends with
the letter of its conversion; two percent signs are one.

* `Supply` — the arguments that are still to be used.
* `Template.fill` — a template with its arguments written in.
-/

namespace Keyset

/-! ## Arguments -/

/-- The arguments of a template. -/
structure Supply where
  /-- Those to be used next, in order. -/
  waiting : List Value
  /-- The one whose entries directives may name. -/
  named : Option Value := none

namespace Supply

/-- Arguments in order. -/
def inOrder (vs : List Value) : Supply := ⟨vs, none⟩

/-- A single argument. The entries of a mapping may be named, and so, without
success, may those of a list or of bytes. -/
def single (v : Value) : Supply :=
  match v with
  | .mapping _ => ⟨[v], some v⟩
  | .list _ => ⟨[v], some v⟩
  | .bytes _ => ⟨[v], some v⟩
  | .tuple vs => inOrder vs
  | _ => ⟨[v], none⟩

/-- Use the next argument. -/
def next (s : Supply) : Except Failure (Value × Supply) :=
  match s.waiting with
  | [] => .error .wrongType
  | v :: rest => .ok (v, { s with waiting := rest })

/-- Make a named entry the next and only argument. -/
def select (s : Supply) (name : String) : Except Failure Supply :=
  match s.named with
  | some (.mapping es) =>
      match Entries.field? es name with
      | some v => .ok { s with waiting := [v] }
      | none => .error .missingKey
  | _ => .error .wrongType

/-- Use the next argument as a size. -/
def size (s : Supply) : Except Failure (Int × Supply) := do
  let (v, s) ← s.next
  return (← Layout.wholeNumber v, s)

end Supply

namespace Template

/-! ## Directives -/

/-- A name up to its closing parenthesis, where `depth` parentheses are open. -/
def nameOf? (depth : Nat) : List Char → Option (List Char × List Char)
  | [] => none
  | c :: rest =>
      if c = ')' ∧ depth ≤ 1 then some ([], rest)
      else
        let depth := if c = '(' then depth + 1 else if c = ')' then depth - 1 else depth
        (nameOf? depth rest).map fun (name, rest) => (c :: name, rest)

/-- The name of the argument, which becomes the next one. -/
def selection (s : Supply) : List Char → Except Failure (Supply × List Char)
  | '(' :: rest =>
      if s.named.isNone then .error .wrongType
      else match nameOf? 1 rest with
        | none => .error (.value .templateName)
        | some (name, rest) => do return (← s.select (String.ofList name), rest)
  | rest => .ok (s, rest)

/-- The marks before the width. -/
def flags (l : Layout) : List Char → Layout × List Char
  | '-' :: rest => flags { l with left := true } rest
  | '+' :: rest => flags { l with plus := true } rest
  | ' ' :: rest => flags { l with blank := true } rest
  | '#' :: rest => flags { l with marked := true } rest
  | '0' :: rest => flags { l with zeros := true } rest
  | rest => (l, rest)

/-- A size written in digits, zero if there are none. -/
def writtenSize (cs : List Char) : Nat × List Char :=
  (Double.natOfDigits (cs.takeWhile Char.isDigit), cs.dropWhile Char.isDigit)

/-- The greatest width. -/
def widthLimit : Nat := Nat.pow 2 63 - 1

/-- The greatest precision. -/
def precisionLimit : Nat := Nat.pow 2 31 - 1

/-- The width: written, or taken from an argument, of which a negative one means the
left. -/
def width (l : Layout) (s : Supply) :
    List Char → Except Failure (Layout × Supply × List Char)
  | '*' :: rest => do
      let (n, s) ← s.size
      if widthLimit < n.natAbs then .error .overflow
      else return ({ l with left := l.left || n < 0, width := n.natAbs }, s, rest)
  | cs =>
      let (n, rest) := writtenSize cs
      if widthLimit < n then .error (.value .templateWidth)
      else .ok ({ l with width := n }, s, rest)

/-- The precision: after a point, written or taken from an argument. -/
def precision (l : Layout) (s : Supply) :
    List Char → Except Failure (Layout × Supply × List Char)
  | '.' :: '*' :: rest => do
      let (n, s) ← s.size
      if precisionLimit < n.natAbs then .error .overflow
      else return ({ l with precision := some n.toNat }, s, rest)
  | '.' :: cs =>
      let (n, rest) := writtenSize cs
      if precisionLimit < n then .error (.value .templatePrecision)
      else .ok ({ l with precision := some n }, s, rest)
  | cs => .ok (l, s, cs)

/-- Skip one letter that names a size of numbers; all are of one size here. -/
def skipSize : List Char → List Char
  | 'h' :: rest => rest
  | 'l' :: rest => rest
  | 'L' :: rest => rest
  | rest => rest

/-- The text of a directive after its percent sign, in a template of the given length,
with the arguments left and what follows. -/
def directive (length : Nat) (s : Supply) (cs : List Char) :
    Except Failure (List Char × Supply × List Char) := do
  let (s, cs) ← selection s cs
  let (l, cs) := flags {} cs
  let (l, s, cs) ← width l s cs
  let (l, s, cs) ← precision l s cs
  match skipSize cs with
  | [] => .error (.value .templateEnd)
  | c :: rest =>
      let (v, s) ← s.next
      match l.convert c v with
      | some shown => return (← shown, s, rest)
      | none => .error (.value (.templateConversion c (length - rest.length - 1)))

/-! ## Templates -/

/-- Fill a template whose rest has at most `fuel` characters. -/
def fillFrom (length : Nat) : Nat → Supply → List Char → Except Failure (List Char)
  | 0, _, _ => .ok []
  | _ + 1, s, [] =>
      if s.waiting.isEmpty || s.named.isSome then .ok [] else .error .wrongType
  | fuel + 1, s, c :: rest =>
      if c = '%' then do
        let (shown, s, rest) ← match rest with
          | '%' :: rest => Except.ok (['%'], s, rest)
          | _ => directive length s rest
        return shown ++ (← fillFrom length fuel s rest)
      else do return c :: (← fillFrom length fuel s rest)

/-- A template with its arguments written in. All arguments have to be used, unless
they may be named. -/
def fill (template : String) (s : Supply) : Except Failure String := do
  let cs := template.toList
  return String.ofList (← fillFrom cs.length (cs.length + 1) s cs)

end Template

end Keyset
