import Keyset.Encoding.Charset.Iso
import Keyset.Encoding.Grid.Gb2312
import Keyset.Encoding.Grid.Jisx0208
import Keyset.Encoding.Grid.Jisx0212
import Keyset.Encoding.Grid.Jisx0213
import Keyset.Encoding.Grid.Ksx1001
import Keyset.Encoding.Stepwise

/-!
# Keyset — ISO 2022

Text in bytes of seven bits whose meaning changes. An escape sequence designates a set of
characters to one of three positions. Bytes are read in the first position, between the
shift characters in the second, and one at a time in the third.

* `Designated` — the variants, which differ in the sets that they can designate.
* `Designated.decode` — the text of bytes.
-/

namespace Keyset.Encoding

/-- The variants of ISO 2022. -/
inductive Designated where
  | jp
  | jp1
  | jp2
  | jp3
  | jp2004
  | jpExt
  | kr
  deriving DecidableEq, Repr

namespace Designated

/-! ## Sets -/

/-- A set of characters. -/
inductive CharacterSet where
  | ascii
  /-- ASCII with a yen sign and an overline. -/
  | roman
  | kana
  | latin1
  | greek
  | jisx0208
  | jisx0212
  | jisx0213
  | jisx0213Later
  | jisx0213Second
  | gb2312
  | ksx1001
  deriving DecidableEq, Repr

/-- Sets of one byte by the last byte of the sequence that designates them. -/
def singleSets : List (Char × CharacterSet) :=
  [('B', .ascii), ('J', .roman), ('I', .kana), ('A', .latin1), ('F', .greek)]

/-- Sets of two bytes by the last byte of the sequence that designates them. -/
def doubleSets : List (Char × CharacterSet) :=
  [('@', .jisx0208), ('B', .jisx0208), ('D', .jisx0212), ('A', .gb2312), ('C', .ksx1001),
    ('O', .jisx0213), ('Q', .jisx0213Later), ('P', .jisx0213Second)]

/-- The sets that a variant can designate besides ASCII. -/
def sets : Designated → List CharacterSet
  | .jp => [.jisx0208, .roman]
  | .jp1 => [.jisx0208, .jisx0212, .roman]
  | .jp2 => [.jisx0208, .jisx0212, .ksx1001, .gb2312, .roman, .latin1, .greek]
  | .jp3 => [.jisx0208, .jisx0213, .jisx0213Second]
  | .jp2004 => [.jisx0208, .jisx0213Later, .jisx0213Second]
  | .jpExt => [.jisx0208, .jisx0212, .roman, .kana]
  | .kr => [.ksx1001]

/-- Whether a variant can designate the older edition of JIS X 0208. -/
def hasOldEdition : Designated → Bool
  | .jp | .jp1 | .jp2 | .jpExt => true
  | .jp3 | .jp2004 | .kr => false

/-- Whether a variant reads the third position. -/
def hasThird (v : Designated) : Bool := v == .jp2

/-- Whether a variant has shift characters. -/
def hasShifts (v : Designated) : Bool := v == .kr

/-- The grids of a set of two bytes. -/
def grids (v : Designated) : CharacterSet → List Grid
  | .jisx0208 => [.jisx0208]
  | .jisx0212 => [.jisx0212]
  | .jisx0213 => [.jisx0208, .jisx0213]
  | .jisx0213Later => [.jisx0208, .jisx0213, .jisx0213Later]
  | .jisx0213Second =>
      .jisx0213Second :: if v = .jp3 then [.jisx0213Former] else []
  | .gb2312 => [.gb2312]
  | .ksx1001 => [.ksx1001]
  | _ => []

/-- The prepared grids of a variant. -/
abbrev Tables := List (CharacterSet × Grid.Index)

/-- Prepare the grids of a variant. -/
def tables (v : Designated) : Tables :=
  (v.sets.filter fun s => !(v.grids s).isEmpty).map fun s => (s, Grid.index (v.grids s))

/-! ## Escape sequences -/

/-- The byte that begins an escape sequence. -/
def escape : UInt8 := 27

/-- Whether a byte can end an escape sequence. -/
def isFinal (b : UInt8) : Bool := 64 ≤ b.toNat && b.toNat ≤ 90

/-- The greatest length of an escape sequence. -/
def escapeLimit : Nat := 16

/-- The greatest length of an unfinished escape sequence that is waited for. -/
def pendingLimit : Nat := 8

/-- Where an escape sequence ends. -/
inductive EscapeEnd where
  | after (length : Nat)
  | unfinished
  | never

/-- Find the end of an escape sequence, from a byte at an index on. Variants for Japanese
may announce an edition in front of a sequence. -/
def escapeEnd (announced : Bool) : Nat → List UInt8 → EscapeEnd
  | index, [] => if escapeLimit ≤ index then .never else .unfinished
  | index, b :: rest =>
      if escapeLimit ≤ index then .never
      else if isFinal b then .after (index + 1)
      else if announced && b = 38 && rest.head? = some 64 then
        escapeEnd announced (index + 3) (rest.drop 2)
      else escapeEnd announced (index + 1) rest
termination_by _ bs => bs.length
decreasing_by all_goals (simp only [List.length_drop, List.length_cons]; omega)

/-- The positions to which sets are designated. -/
inductive Position where
  | first
  | second
  | third
  deriving DecidableEq, Repr

/-- The position that a byte of an escape sequence names. -/
def position? (v : Designated) (b : UInt8) : Option Position :=
  if b = 40 then some .first
  else if b = 41 then some .second
  else if b = 46 && v.hasThird then some .third
  else none

/-- A set that a variant can designate. -/
def allowed? (v : Designated) (s : CharacterSet) : Option CharacterSet :=
  if s = .ascii || v.sets.contains s then some s else none

/-- The set of one byte with a last byte. -/
def single? (v : Designated) (last : UInt8) : Option CharacterSet :=
  (singleSets.lookup (latinChar last)).bind v.allowed?

/-- The set of two bytes with a last byte. -/
def double? (v : Designated) (last : UInt8) : Option CharacterSet :=
  if last = 64 && !v.hasOldEdition then none
  else (doubleSets.lookup (latinChar last)).bind v.allowed?

/-- What a sequence designates, given the bytes after the escape. -/
def designation? (v : Designated) (bytes : List UInt8) : Option (Position × CharacterSet) :=
  match bytes with
  | [36, last] => (v.double? last).map fun s => (.first, s)
  | [p, last] => do return (← v.position? p, ← v.single? last)
  | [36, p, last] =>
      if p = 40 || p = 41 then do return (← v.position? p, ← v.double? last) else none
  | [_, _, 27, 36, 66] => if v.hasShifts then none else some (.first, .jisx0208)
  | _ => none

/-! ## Reading -/

/-- The sets at the three positions, and whether bytes are read in the second. -/
structure State where
  first : CharacterSet := .ascii
  second : CharacterSet := .ascii
  third : CharacterSet := .ascii
  shifted : Bool := false

/-- Put a set at a position. -/
def State.designate (s : State) (p : Position) (set : CharacterSet) : State :=
  match p with
  | .first => { s with first := set }
  | .second => { s with second := set }
  | .third => { s with third := set }

/-- The set in which bytes are read. -/
def State.current (s : State) : CharacterSet := if s.shifted then s.second else s.first

/-- Read a character of a set, and tell how many bytes after the first belong to it. -/
def readIn (t : Tables) (set : CharacterSet) (b : UInt8) (rest : List UInt8) :
    Option (List Char × Nat) :=
  match set with
  | .ascii => some ([latinChar b], 0)
  | .roman => some ([if b = 0x5c then '¥' else if b = 0x7e then '\u203e' else latinChar b], 0)
  | .kana => (Stepwise.offset? 0x21 0x5f b).map fun n => ([Char.ofNat (0xff61 + n)], 0)
  | .latin1 | .greek => none
  | _ => do
      let index ← t.lookup set
      let c ← rest.head?
      let row ← Stepwise.offset? 0x21 0x7e b
      let cell ← Stepwise.offset? 0x21 0x7e c
      return (← index.at? (row * 94 + cell), 1)

/-- The Greek characters of the first edition of their set, which lacks three signs. -/
def greek? (b : UInt8) : Option Char :=
  if [0xa4, 0xa5, 0xaa].contains b then none
  else do
    let c ← Charset.iso.find? (·.name == "iso8859_7")
    (c.decode? [b]).bind List.head?

/-- Read a byte in the third position. -/
def readThird (set : CharacterSet) (b : UInt8) : Option Char :=
  if 128 ≤ b.toNat then none
  else match set with
    | .ascii => some (latinChar b)
    | .latin1 => some (latinChar (b ||| 128))
    | .greek => greek? (b ||| 128)
    | _ => none

/-- What a sequence is that designates nothing: itself, up to its last byte. -/
def passThrough : List UInt8 → List UInt8
  | [] => []
  | b :: rest => if isFinal b then [b] else b :: passThrough rest

/-- What an escape at the start does: it changes the state, or gives text; and how many
bytes after it belong to it. -/
def readEscape (v : Designated) (s : State) (rest : List UInt8) :
    Except Fault (List Char × State × Nat) :=
  match rest with
  | [] => .error .bytes
  | b :: more =>
      if [36, 38, 40, 41, 46].contains b then
        match escapeEnd (!v.hasShifts) 1 rest with
        | .after length =>
            match v.designation? (rest.take (length - 1)) with
            | some (p, set) => .ok ([], s.designate p set, length - 1)
            | none => .error .bytes
        | .unfinished => .error (if pendingLimit ≤ rest.length then .form else .bytes)
        | .never => .error .bytes
      else if b = 78 && v.hasThird then
        match more with
        | c :: _ =>
            match readThird s.third c with
            | some char => .ok ([char], s, 2)
            | none => .error .bytes
        | [] => .error .bytes
      else
        -- any other escape is shown as it stands
        let shown := passThrough rest
        .ok ('\x1b' :: shown.map latinChar, s, shown.length)

/-- Read what stands at the start, and tell how many bytes after the first belong to
it. -/
def read (v : Designated) (t : Tables) (s : State) (b : UInt8) (rest : List UInt8) :
    Except Fault (List Char × State × Nat) :=
  if b = escape then v.readEscape s rest
  else if b = 15 && v.hasShifts then .ok ([], { s with shifted := false }, 0)
  else if b = 14 && v.hasShifts then .ok ([], { s with shifted := true }, 0)
  else if b = 10 then .ok (['\n'], { s with shifted := false }, 0)
  else if b.toNat < 32 then .ok ([latinChar b], s, 0)
  else if 128 ≤ b.toNat then .error .bytes
  else match readIn t s.current b rest with
    | some (text, count) => .ok (text, s, count)
    | none => .error .bytes

/-- The text of bytes in a state. -/
def decodeFrom (v : Designated) (t : Tables) (s : State) : List UInt8 → Except Fault (List Char)
  | [] => .ok []
  | b :: rest =>
      match v.read t s b rest with
      | .error f => .error f
      | .ok (text, next, count) =>
          match decodeFrom v t next (rest.drop count) with
          | .error f => .error f
          | .ok others => .ok (text ++ others)
termination_by bs => bs.length
decreasing_by
  simp only [List.length_drop, List.length_cons]
  omega

/-- The text of bytes. -/
def decode (v : Designated) (bs : List UInt8) : Except Fault (List Char) :=
  decodeFrom v v.tables {} bs

end Designated

end Keyset.Encoding
