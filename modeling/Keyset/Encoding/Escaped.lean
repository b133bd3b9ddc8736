import Keyset.Encoding.Basic

/-!
# Keyset — text with escapes

Latin-1 text in which a backslash may write a character by its code. The full dialect
has all escapes of a quoted text; the bare dialect has only those of wide codes.

* `Escaped.decode?` — the text of bytes in the full dialect.
* `Escaped.decodeBare?` — the text of bytes in the bare dialect.
-/

namespace Keyset.Encoding.Escaped

/-- The escapes of one letter, and the characters that they write. -/
def single : List (Char × List Char) :=
  [('\n', []), ('\\', ['\\']), ('\'', ['\'']), ('"', ['"']), ('b', ['\x08']), ('f', ['\x0c']),
    ('t', ['\t']), ('n', ['\n']), ('r', ['\r']), ('v', ['\x0b']), ('a', ['\x07'])]

/-- The number of hexadecimal digits after a letter. -/
def width? (letter : Char) : Option Nat :=
  match letter with
  | 'x' => some 2
  | 'u' => some 4
  | 'U' => some 8
  | _ => none

/-- The character that hexadecimal digits write. -/
def charOfDigits? (count : Nat) (bs : List UInt8) : Option Char :=
  (hexNumber? count bs).bind charOfCode?

/-- Whether a byte is an octal digit. -/
def isOctal (b : UInt8) : Bool := 48 ≤ b && b < 56

/-- The octal digits at the start, three at most. -/
def octalDigits (bs : List UInt8) : List UInt8 := (bs.take 3).takeWhile isOctal

/-- The number that octal digits spell. -/
def octalNumber (digits : List UInt8) : Nat :=
  digits.foldl (fun n b => n * 8 + (b.toNat - 48)) 0

/-- The text of bytes in the full dialect. An escape that there is not stands for itself. -/
def decode? (bs : List UInt8) : Option (List Char) :=
  match bs with
  | [] => some []
  | b :: rest =>
      if b ≠ 92 then (decode? rest).map (latinChar b :: ·)
      else match rest with
        | [] => none
        | c :: more =>
            let letter := latinChar c
            let octal := octalDigits more
            match single.lookup letter, width? letter with
            | some text, _ => (decode? more).map (text ++ ·)
            | none, some count => do
                let first ← charOfDigits? count more
                (decode? (more.drop count)).map (first :: ·)
            | none, none =>
                if letter = 'N' then none
                else if isOctal c then do
                  let digits := c :: octal.take 2
                  let first ← charOfCode? (octalNumber digits)
                  (decode? (more.drop (octal.take 2).length)).map (first :: ·)
                else (decode? more).map (['\\', letter] ++ ·)
termination_by bs.length
decreasing_by all_goals (simp only [List.length_drop, List.length_cons]; omega)

/-- The text of bytes in the bare dialect. -/
def decodeBare? (bs : List UInt8) : Option (List Char) :=
  match bs with
  | [] => some []
  | b :: rest =>
      if b ≠ 92 then (decodeBare? rest).map (latinChar b :: ·)
      else match rest with
        | [] => some ['\\']
        | c :: more =>
            let letter := latinChar c
            if letter = 'u' ∨ letter = 'U' then do
              let count := if letter = 'u' then 4 else 8
              let first ← charOfDigits? count more
              (decodeBare? (more.drop count)).map (first :: ·)
            else (decodeBare? more).map (['\\', letter] ++ ·)
termination_by bs.length
decreasing_by all_goals (simp only [List.length_drop, List.length_cons]; omega)

end Keyset.Encoding.Escaped
