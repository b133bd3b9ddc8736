import Keyset.Encoding.Grid.Cp932
import Keyset.Encoding.Grid.Jisx0208
import Keyset.Encoding.Grid.Jisx0212
import Keyset.Encoding.Grid.Jisx0213
import Keyset.Encoding.Stepwise

/-!
# Keyset — Japanese encodings

The characters of the Japanese standards in two codes. The extended code puts both bytes
above 0xa0 and marks kana and further characters by a byte in front. The shifted code
folds two rows into one lead byte and leaves room for kana of one byte.

* `Japanese` — the encodings; `Japanese.decode?` — the text of bytes.
-/

namespace Keyset.Encoding

/-- The Japanese encodings. -/
inductive Japanese where
  | eucJp
  | eucJisx0213
  | eucJis2004
  | shiftJis
  | cp932
  | shiftJisx0213
  | shiftJis2004
  deriving DecidableEq, Repr

namespace Japanese

open Stepwise

/-! ## Characters -/

/-- The narrow kana of a byte. -/
def kana? (b : UInt8) : Option Char :=
  (offset? 0xa1 0xdf b).map fun n => Char.ofNat (0xff61 + n)

/-- The characters that the extended standard has in the shifted code in place of the wide
ones, as it lacks them among its single bytes. -/
def shiftedAscii : Grid where
  runs := [(31, ["\\"]), (111, ["~"])]

/-- The grids of the first plane. -/
def firstPlane : Japanese → List Grid
  | .eucJp | .shiftJis => [.jisx0208]
  | .cp932 => [.jisx0208, .cp932]
  | .eucJisx0213 => [.jisx0208, .jisx0213]
  | .eucJis2004 => [.jisx0208, .jisx0213, .jisx0213Later]
  | .shiftJisx0213 => [.jisx0208, .jisx0213, shiftedAscii]
  | .shiftJis2004 => [.jisx0208, .jisx0213, .jisx0213Later, shiftedAscii]

/-- The grids of the second plane. -/
def secondPlane : Japanese → List Grid
  | .eucJp => [.jisx0212]
  | .shiftJis | .cp932 => []
  | .eucJisx0213 => [.jisx0212, .jisx0213Second, .jisx0213Former]
  | .eucJis2004 => [.jisx0212, .jisx0213Second]
  | .shiftJisx0213 => [.jisx0213Second, .jisx0213Former]
  | .shiftJis2004 => [.jisx0213Second]

/-! ## The extended code -/

/-- Read a character of the extended code. -/
def extended (first second : Grid.Index) : Step := fun lead rest =>
  if lead = 0x8e then
    match rest with
    | b :: _ => (kana? b).map fun c => ([c], 1)
    | [] => none
  else if lead = 0x8f then
    match rest with
    | a :: b :: _ =>
        (place94? a b).bind fun place => (second.at? place).map fun text => (text, 2)
    | _ => none
  else inGrid place94? first lead rest

/-! ## The shifted code -/

/-- The place of two bytes of the shifted code; the second plane follows the first. -/
def shiftedPlace? (a b : UInt8) : Option Nat := do
  return (← around? 0x81 0x9f 0xe0 0xfc a) * 188 + (← around? 0x40 0x7e 0x80 0xfc b)

/-- The number of places in a plane. -/
def planeSize : Nat := 94 * 94

/-- The rows of the second plane in the order in which the shifted code has them. -/
def secondRows : List Nat := [0, 7, 2, 3, 4, 11, 12, 13, 14] ++ List.range' 77 17

/-- The text at a place of the shifted code. -/
def shiftedAt? (first second : Grid.Index) (place : Nat) : Option (List Char) :=
  if place < planeSize then first.at? place
  else do
    let row ← secondRows[(place - planeSize) / 94]?
    second.at? (row * 94 + place % 94)

/-- Read a character of the shifted code, given what single bytes are. -/
def shifted (single : UInt8 → Option Char) (at? : Nat → Option (List Char)) : Step :=
  fun lead rest =>
    match single lead, rest with
    | some c, _ => some ([c], 0)
    | none, b :: _ =>
        (shiftedPlace? lead b).bind fun place => (at? place).map fun text => (text, 1)
    | none, [] => none

/-- The single bytes of plain shifted code: ASCII and kana. -/
def plainSingle (b : UInt8) : Option Char :=
  if b.toNat < 128 then some (latinChar b) else kana? b

/-- The single bytes of the code page 932; bytes without a character of their own are
private ones. -/
def pageSingle (b : UInt8) : Option Char :=
  if b = 0x80 then some '\x80'
  else if b = 0xa0 then some '\uf8f0'
  else if 0xfd ≤ b.toNat then some (Char.ofNat (0xf8f1 + (b.toNat - 0xfd)))
  else plainSingle b

/-- The single bytes of the extended standard, which has a yen sign and an overline where
ASCII has a backslash and a tilde. -/
def romanSingle (b : UInt8) : Option Char :=
  if b = 0x5c then some '¥' else if b = 0x7e then some '\u203e' else plainSingle b

/-- The text at a place of the code page 932: lead bytes from 0xf0 to 0xf9 are private. -/
def pageAt? (index : Grid.Index) (place : Nat) : Option (List Char) :=
  if planeSize ≤ place && place < planeSize + 1880 then
    some [Char.ofNat (0xe000 + (place - planeSize))]
  else index.at? place

/-! ## Reading -/

/-- Read a character. -/
def step (e : Japanese) : Step :=
  let first := Grid.index e.firstPlane
  let second := Grid.index e.secondPlane
  match e with
  | .eucJp | .eucJisx0213 | .eucJis2004 => asciiOr (extended first second)
  | .shiftJis => shifted plainSingle first.at?
  | .cp932 => shifted pageSingle (pageAt? first)
  | .shiftJisx0213 | .shiftJis2004 => shifted romanSingle (shiftedAt? first second)

/-- The text of bytes. -/
def decode? (e : Japanese) (bs : List UInt8) : Option (List Char) := Stepwise.decode? e.step bs

end Japanese

end Keyset.Encoding
