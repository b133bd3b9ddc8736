import Keyset.Encoding.Grid.Gb18030
import Keyset.Encoding.Grid.Gb2312
import Keyset.Encoding.Stepwise

/-!
# Keyset — Chinese encodings

GB 2312 puts both bytes above 0xa0. GBK fills the free places with the other Chinese
characters in the order of their codes. GB 18030 adds private characters and, in four
bytes, every character that has no place yet, again in the order of codes. HZ writes
GB 2312 in ASCII between tilde escapes.

* `Chinese` — the encodings; `Chinese.decode?` — the text of bytes.
-/

namespace Keyset.Encoding

/-- The Chinese encodings. -/
inductive Chinese where
  | gb2312
  | gbk
  | gb18030
  | hz
  deriving DecidableEq, Repr

namespace Chinese

open Stepwise

/-! ## Characters that follow each other by code -/

/-- Mark the codes of characters below a limit. -/
def marks (limit : Nat) (cs : List Char) : Array Bool :=
  cs.foldl (fun marks c => marks.setIfInBounds c.toNat true) (Array.replicate limit false)

/-- The Chinese characters from U+4E00 to U+9FA5 that are not among the given ones. -/
def furtherChars (known : List Char) : Array Char :=
  let marked := marks 0x9fa6 known
  ((List.range' 0x4e00 0x51a6).filter fun n => marked[n]? = some false).map Char.ofNat |>.toArray

/-! ## GBK -/

/-- The grids of GBK, prepared. -/
structure Tables where
  basic : Grid.Index
  symbols : Grid.Index
  further : Array Char

/-- Prepare the grids of GBK and given further ones. -/
def tables (added : List Grid) : Tables :=
  let basic := Grid.index [.gb2312]
  { basic
    symbols := Grid.index (.gbk :: added)
    further := furtherChars basic.chars ++ Grid.gbkLast.toArray }

/-- The place of two bytes in rows of 190. -/
def place190? (a b : UInt8) : Option Nat := do
  return (← offset? 0x81 0xfe a) * 190 + (← around? 0x40 0x7e 0x80 0xfe b)

/-- The further character of two bytes: those of the rows before GB 2312, and then those
before its cells. -/
def further? (t : Tables) (a b : UInt8) : Option Char :=
  match offset? 0x81 0xa0 a, offset? 0xaa 0xfe a with
  | some row, _ => (around? 0x40 0x7e 0x80 0xfe b).bind fun cell => t.further[row * 190 + cell]?
  | none, some row =>
      (around? 0x40 0x7e 0x80 0xa0 b).bind fun cell => t.further[32 * 190 + row * 96 + cell]?
  | none, none => none

/-- The character of two bytes. -/
def charOf? (t : Tables) (a b : UInt8) : Option Char :=
  let one (text : Option (List Char)) : Option Char := text.bind List.head?
  further? t a b <|> one ((place190? a b).bind t.symbols.at?)
    <|> one ((place94? a b).bind t.basic.at?)

/-- Read a character of two bytes. -/
def twoBytes (char? : UInt8 → UInt8 → Option Char) : Step := fun a rest =>
  match rest with
  | b :: _ => (char? a b).map fun c => ([c], 1)
  | [] => none

/-! ## GB 18030 -/

/-- The private character of two bytes: those of three areas, and then those of single
places. -/
def private? (a b : UInt8) : Option Char :=
  let area (low high first : Nat) (cell : Option Nat) (width : Nat) : Option Nat := do
    return first + (← offset? low high a) * width + (← cell)
  let upper := offset? 0xa1 0xfe b
  let single : Option Nat := do
    let place ← place190? a b
    let span ← Grid.gb18030Private.find? fun s => s.1 ≤ place && place < s.1 + s.2.2
    return span.2.1 + (place - span.1)
  (area 0xaa 0xaf 0xe000 upper 94 <|> area 0xf8 0xfe 0xe234 upper 94
    <|> area 0xa1 0xa7 0xe4c6 (around? 0x40 0x7e 0x80 0xa0 b) 96 <|> single).map Char.ofNat

/-- The character of two bytes in GB 18030. -/
def wideCharOf? (t : Tables) (a b : UInt8) : Option Char := charOf? t a b <|> private? a b

/-- All characters of two bytes in GB 18030. -/
def allWide (t : Tables) : List Char :=
  let bytes (low count : Nat) : List UInt8 := (List.range' low count).map Nat.toUInt8
  (bytes 0x81 126).flatMap fun a => (bytes 0x40 191).filterMap fun b => wideCharOf? t a b

/-- The codes of up to 16 bits that have no place of two bytes, in ascending order. -/
def remaining (t : Tables) : Array Nat :=
  let marked := marks 0x10000 (allWide t)
  ((List.range' 0x80 0xff80).filter fun n =>
    marked[n]? = some false && !isHighHalf n && !isLowHalf n).toArray

/-- The number of four bytes in their order. -/
def fourByteNumber? (a b c d : UInt8) : Option Nat := do
  let high := (← offset? 0x81 0xfe a) * 10 + (← offset? 0x30 0x39 b)
  let low := (← offset? 0x81 0xfe c) * 10 + (← offset? 0x30 0x39 d)
  return high * 1260 + low

/-- The number of the first four bytes that stand for a code of more than 16 bits. -/
def firstLong : Nat := 189000

/-- The character of four bytes. -/
def longCharOf? (remaining : Array Nat) (a b c d : UInt8) : Option Char := do
  let n ← fourByteNumber? a b c d
  let code ← if firstLong ≤ n then some (0x10000 + (n - firstLong)) else remaining[n]?
  charOfCode? code

/-- Read a character of two or four bytes. -/
def gb18030Step (t : Tables) (remaining : Array Nat) : Step := fun a rest =>
  match rest with
  | b :: more =>
      if (offset? 0x30 0x39 b).isSome then
        match more with
        | c :: d :: _ => (longCharOf? remaining a b c d).map fun char => ([char], 3)
        | _ => none
      else (wideCharOf? t a b).map fun char => ([char], 1)
  | [] => none

/-! ## HZ -/

/-- The text of bytes between tilde escapes. A tilde at the end of a line joins it to the
next, but only outside of GB 2312. -/
def decodeHz? (index : Grid.Index) (inside : Bool) : List UInt8 → Option (List Char)
  | [] => some []
  | [b] =>
      if b = 126 || 128 ≤ b.toNat || inside then none else some [latinChar b]
  | a :: b :: rest =>
      if a = 126 then
        if inside then
          if b = 125 then decodeHz? index false rest else none
        else if b = 126 then (decodeHz? index false rest).map ('~' :: ·)
        else if b = 123 then decodeHz? index true rest
        else if b = 10 then decodeHz? index false rest
        else none
      else if 128 ≤ a.toNat then none
      else if inside then do
        let place ← if b.toNat < 128 then place94? (a ||| 128) (b ||| 128) else none
        let text ← index.at? place
        (decodeHz? index true rest).map (text ++ ·)
      else (decodeHz? index false (b :: rest)).map (latinChar a :: ·)

/-! ## Reading -/

/-- The text of bytes. -/
def decode? (e : Chinese) (bs : List UInt8) : Option (List Char) :=
  match e with
  | .gb2312 => Stepwise.decode? (asciiOr (inGrid place94? (Grid.index [.gb2312]))) bs
  | .gbk => Stepwise.decode? (asciiOr (twoBytes (charOf? (tables [])))) bs
  | .gb18030 =>
      let t := tables [.gb18030]
      Stepwise.decode? (asciiOr (gb18030Step t (remaining t))) bs
  | .hz => decodeHz? (Grid.index [.gb2312]) false bs

end Chinese

end Keyset.Encoding
