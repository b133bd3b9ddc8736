/-!
# Keyset — UTF-8

Cursors are signed as bytes, and bytes reach the engine in settings files,
tokens and document values.

* `Utf8.encode` — the bytes of a text.
* `Utf8.decode` — the characters of a byte sequence, with a mark for every
  maximal ill-formed part.
* `Utf8.decode?` — the text, when nothing is ill-formed.
* `Utf8.decodeLossy` — the text with U+FFFD for every ill-formed part.
-/

namespace Keyset.Utf8

/-- The bytes of a text. -/
def encode (s : String) : List UInt8 := s.toList.flatMap String.utf8EncodeChar

/-- The second bytes that may follow a lead byte, and the number of
continuation bytes after the lead; `none` for a byte that leads nothing. -/
def leadRange? (lead : Nat) : Option (Nat × Nat × Nat) :=
  if 0xc2 ≤ lead ∧ lead ≤ 0xdf then some (0x80, 0xbf, 1)
  else if lead = 0xe0 then some (0xa0, 0xbf, 2)
  else if lead = 0xed then some (0x80, 0x9f, 2)
  else if 0xe1 ≤ lead ∧ lead ≤ 0xef then some (0x80, 0xbf, 2)
  else if lead = 0xf0 then some (0x90, 0xbf, 3)
  else if 0xf1 ≤ lead ∧ lead ≤ 0xf3 then some (0x80, 0xbf, 3)
  else if lead = 0xf4 then some (0x80, 0x8f, 3)
  else none

/-- Read up to `count` continuation bytes into the code point `acc`, the first of
them between `low` and `high`. An ill-formed sequence ends before the first byte
that does not fit. -/
def continuation (low high : Nat) : Nat → Nat → List UInt8 → Option Char × List UInt8
  | 0, acc, rest => (some (Char.ofNat acc), rest)
  | _ + 1, _, [] => (none, [])
  | count + 1, acc, b :: rest =>
      if low ≤ b.toNat ∧ b.toNat ≤ high then
        continuation 0x80 0xbf count (acc * 64 + b.toNat % 64) rest
      else (none, b :: rest)

theorem length_continuation_le (low high count acc : Nat) (bs : List UInt8) :
    (continuation low high count acc bs).2.length ≤ bs.length := by
  induction count generalizing low high acc bs with
  | zero => simp [continuation]
  | succ n ih =>
    cases bs with
    | nil => simp [continuation]
    | cons b rest =>
      unfold continuation
      split
      · exact Nat.le_trans (ih ..) (by simp)
      · simp

/-- Read one character after its lead byte. -/
def next (lead : UInt8) (rest : List UInt8) : Option Char × List UInt8 :=
  let n := lead.toNat
  if n < 0x80 then (some (Char.ofNat n), rest)
  else match leadRange? n with
    | none => (none, rest)
    | some (low, high, count) =>
        let leadBits := if count = 1 then 32 else if count = 2 then 16 else 8
        continuation low high count (n % leadBits) rest

theorem length_next_le (lead : UInt8) (rest : List UInt8) :
    (next lead rest).2.length ≤ rest.length := by
  unfold next
  dsimp only
  split
  · simp
  · split
    · simp
    · exact length_continuation_le ..

/-- The characters of a byte sequence; `none` stands for a maximal ill-formed part. -/
def decode : List UInt8 → List (Option Char)
  | [] => []
  | b :: rest => (next b rest).1 :: decode (next b rest).2
termination_by bs => bs.length
decreasing_by
  have := length_next_le b rest
  simp only [List.length_cons]
  omega

/-- The text of a well-formed byte sequence. -/
def decode? (bs : List UInt8) : Option String :=
  ((decode bs).mapM id).map String.ofList

/-- The text of any byte sequence, with U+FFFD for every ill-formed part. -/
def decodeLossy (bs : List UInt8) : String :=
  String.ofList ((decode bs).map (·.getD '\ufffd'))

end Keyset.Utf8
