import Keyset.Encoding.Grid.Ksx1001
import Keyset.Encoding.Stepwise

/-!
# Keyset — Korean encodings

A syllable is a leading letter, a vowel and perhaps a trailing letter, and all of them
follow each other by code. KS X 1001 has the common ones. The extended code spells the
others out, the code page 949 puts them into free places, and the combining code writes
the letters of every syllable in five bits each.

* `Korean` — the encodings; `Korean.decode?` — the text of bytes.
-/

namespace Keyset.Encoding

/-- The Korean encodings. -/
inductive Korean where
  | eucKr
  | cp949
  | johab
  deriving DecidableEq, Repr

namespace Korean

open Stepwise

/-! ## Letters -/

/-- The consonants that can lead a syllable, by their numbers among all consonants. -/
def leading : List Nat := [0, 1, 3, 6, 7, 8, 16, 17, 18] ++ List.range' 20 10

/-- The consonants that can end a syllable. -/
def trailing : List Nat := (List.range 30).filter fun n => !List.contains [7, 18, 24] n

/-- A consonant by itself. -/
def consonant (n : Nat) : Char := Char.ofNat (0x3131 + n)

/-- A vowel by itself. -/
def vowel (n : Nat) : Char := Char.ofNat (0x314f + n)

/-- The syllable of the numbers of its letters; the trailing one counts from one, and
zero is none. -/
def syllable (lead middle tail : Nat) : Char :=
  Char.ofNat (0xac00 + (lead * 21 + middle) * 28 + tail)

/-! ## The extended code -/

/-- The byte before every letter of a syllable that is spelled out. -/
def letterMark : UInt8 := 0xa4

/-- The byte that stands for no letter. -/
def filler : UInt8 := 0xd4

/-- The number of a letter's byte among the letters that can stand at its place. -/
def letterNumber? (letters : List Nat) (b : UInt8) : Option Nat := do
  letters.idxOf? (← offset? 0xa1 0xbe b)

/-- The syllable that is spelled out by its letters. -/
def spelled? (lead middle tail : UInt8) : Option Char := do
  let l ← letterNumber? leading lead
  let m ← offset? 0xbf 0xd3 middle
  let t ← if tail = filler then some 0 else (letterNumber? trailing tail).map (· + 1)
  return syllable l m t

/-- Read a character of the extended code. -/
def extended (index : Grid.Index) : Step := fun a rest =>
  match rest with
  | b :: more =>
      if a = letterMark && b = filler then
        match more with
        | m₁ :: lead :: m₂ :: middle :: m₃ :: tail :: _ =>
            if m₁ = letterMark && m₂ = letterMark && m₃ = letterMark then
              (spelled? lead middle tail).map fun c => ([c], 7)
            else none
        | _ => none
      else inGrid place94? index a rest
  | [] => none

/-! ## The code page -/

/-- The syllables that are not among the given characters. -/
def furtherSyllables (known : List Char) : Array Char :=
  let marked := known.foldl (fun marks c => marks.setIfInBounds c.toNat true)
    (Array.replicate 0xd7a4 false)
  ((List.range' 0xac00 11172).filter fun n => marked[n]? = some false).map Char.ofNat |>.toArray

/-- The cells before those of KS X 1001 in a row: two alphabets, and what lies between
them and the given byte. -/
def letterCell? (last : Nat) (b : UInt8) : Option Nat :=
  match around? 0x41 0x5a 0x61 0x7a b with
  | some n => some n
  | none => (offset? 0x81 last b).map (52 + ·)

/-- The further syllable of two bytes: those of the rows before KS X 1001, and then those
before its cells. -/
def further? (syllables : Array Char) (a b : UInt8) : Option Char :=
  match offset? 0x81 0xa0 a, offset? 0xa1 0xfe a with
  | some row, _ => (letterCell? 0xfe b).bind fun cell => syllables[row * 178 + cell]?
  | none, some row => (letterCell? 0xa0 b).bind fun cell => syllables[32 * 178 + row * 84 + cell]?
  | none, none => none

/-- Read a character of the code page. -/
def page (index : Grid.Index) (syllables : Array Char) : Step := fun a rest =>
  match inGrid place94? index a rest, rest with
  | some r, _ => some r
  | none, b :: _ => (further? syllables a b).map fun c => ([c], 1)
  | none, [] => none

/-! ## The combining code -/

/-- A letter of a syllable in five bits: one of those that can stand at its place, or
none. -/
inductive Letter where
  | absent
  | number (n : Nat)

/-- The letter that five bits are, given the bits for none and those of the letters in
their order. -/
def letter? (absent : Nat) (codes : List Nat) (bits : Nat) : Option Letter :=
  if bits = absent then some .absent else (codes.idxOf? bits).map .number

/-- The five bits of vowels. -/
def vowelCodes : List Nat :=
  List.range' 3 5 ++ List.range' 10 6 ++ List.range' 18 6 ++ List.range' 26 4

/-- The five bits of trailing letters. -/
def trailingCodes : List Nat := List.range' 2 16 ++ List.range' 19 11

/-- The character of letters: a syllable, a letter by itself, or a blank without any. -/
def combine : Letter → Letter → Letter → Option Char
  | .absent, .absent, .absent => some '\u3000'
  | .number l, .absent, .absent => leading[l]?.map consonant
  | .absent, .number m, .absent => some (vowel m)
  | .absent, .absent, .number t => trailing[t]?.map consonant
  | .number l, .number m, .absent => some (syllable l m 0)
  | .number l, .number m, .number t => some (syllable l m (t + 1))
  | _, _, _ => none

/-- The syllable or letter of two bytes. -/
def combined? (a b : UInt8) : Option Char := do
  let bits := a.toNat * 256 + b.toNat
  let lead ← letter? 1 (List.range' 2 19) (bits / 1024 % 32)
  let middle ← letter? 2 vowelCodes (bits / 32 % 32)
  let tail ← letter? 1 trailingCodes (bits % 32)
  combine lead middle tail

/-- The place of two bytes in KS X 1001, where the combining code has its symbols and its
Chinese characters. Its letters are not there. -/
def combinedPlace? (a b : UInt8) : Option Nat := do
  let cell ← around? 0x31 0x7e 0x91 0xfe b
  if a = 0xda && 0xa1 ≤ b.toNat && b.toNat ≤ 0xd3 then none
  else match offset? 0xd9 0xde a, offset? 0xe0 0xf9 a with
    | some row, _ => some (row * 188 + cell)
    | none, some row => some (41 * 94 + row * 188 + cell)
    | none, none => none

/-- Read a character of the combining code. -/
def combining (index : Grid.Index) : Step := fun a rest =>
  match rest with
  | b :: _ =>
      if a.toNat < 0xd8 then (combined? a b).map fun c => ([c], 1)
      else inGrid combinedPlace? index a rest
  | [] => none

/-! ## Reading -/

/-- Read a character. -/
def step (e : Korean) : Step :=
  let index := Grid.index [.ksx1001]
  match e with
  | .eucKr => extended index
  | .cp949 => page index (furtherSyllables index.chars)
  | .johab => combining index

/-- The text of bytes. -/
def decode? (e : Korean) (bs : List UInt8) : Option (List Char) :=
  Stepwise.decode? (asciiOr e.step) bs

end Korean

end Keyset.Encoding
