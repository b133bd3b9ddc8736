import Keyset.Encoding.Punycode
import Keyset.Text.Casing
import Keyset.Text.Printable

/-!
# Keyset — domain names

Text in ASCII whose labels, between dots, may stand for other text: such a label begins
with a mark, and the rest of it is Punycode. It must be in the one form in which the
text is written.

* `Domain.label` — the text of a label.
* `Domain.decode` — the text of bytes.
-/

namespace Keyset.Encoding.Domain

/-- What a label begins with that stands for other text. -/
def mark : List Char := "xn--".toList

/-- The greatest length of such a label. -/
def labelLimit : Nat := 63

/-- Whether a character is the capital of another one. -/
def isCapital (c : Char) : Bool :=
  Text.capitalRuns.any fun r =>
    let small : Int := c.toNat - r.shift
    r.first ≤ small && small ≤ r.last && (small - r.first) % r.step == 0

/-- Whether a character is written as it is: a visible one that is no capital and has no
capital of several letters. -/
def isStable (c : Char) : Bool :=
  Text.isPrintable c && !isCapital c && (Text.upperChar c).length = 1

/-- The label that a text is written as, if all its characters beyond ASCII are stable. -/
def labelOf? (text : List Char) : Option (List Char) :=
  if text.all fun c => c.toNat < 128 then some text
  else if text.all fun c => c.toNat < 128 || isStable c then
    some (mark ++ Punycode.encode (text.map Char.toLower))
  else none

/-- The text of a label. -/
def label (cs : List Char) : Except Fault (List Char) :=
  if mark.isPrefixOf cs then do
    let text ← Punycode.ofAscii (cs.drop mark.length)
    if labelOf? text = some (cs.map Char.toLower) ∧ cs.length ≤ labelLimit then .ok text
    else .error .form
  else .ok cs

/-- The labels between dots. -/
def labels : List Char → List (List Char)
  | [] => [[]]
  | c :: rest =>
      if c = '.' then [] :: labels rest
      else match labels rest with
        | [] => [[c]]
        | l :: ls => (c :: l) :: ls

/-- The length of labels with their dots. Dots after empty labels at the start are not
counted. -/
def extent (ls : List (List Char)) : Nat :=
  ls.foldl (fun n l => if n = 0 then l.length else n + 1 + l.length) 0

/-- The text of what is there so far, and its length. The last label may go on unless
the end was reached. -/
def decodePart (final : Bool) (cs : List Char) : Except Fault (List Char × Nat) := do
  if cs.isEmpty then return ([], 0)
  let ls := labels cs
  let closed := ls.getLast? = some []
  let known := if closed || !final then ls.dropLast else ls
  let dot := if closed || (!final && !known.isEmpty) then ['.'] else []
  let texts ← known.mapM label
  return (List.intercalate ['.'] texts ++ dot, extent known + dot.length)

/-- The text of what is left at the end, read until nothing more comes of it; every part
takes a character at least. -/
def decodeRest : Nat → List Char → Except Fault (List Char)
  | 0, _ => .ok []
  | fuel + 1, cs => do
      let (text, length) ← decodePart true cs
      if text.isEmpty then return []
      return text ++ (← decodeRest fuel (cs.drop length))

/-- The text of bytes: first all labels but the last, then what is left. -/
def decode (bs : List UInt8) : Except Fault (List Char) :=
  if bs.all fun b => b.toNat < 128 then do
    let cs := bs.map latinChar
    let (front, length) ← decodePart false cs
    return front ++ (← decodeRest (cs.length + 1) (cs.drop length))
  else .error .bytes

end Keyset.Encoding.Domain
