import Keyset.Encoding.Basic

/-!
# Keyset — Punycode

Text in ASCII alone: the ASCII characters of the text, a hyphen, and then where each of
the others is inserted. An insertion is a number in digits of base 36 that end by
thresholds, the thresholds following a bias that adapts to the numbers read so far.

* `Punycode.decode` — the text of bytes.
* `Punycode.encode` — the Punycode of a text.
-/

namespace Keyset.Encoding.Punycode

/-! ## Digits -/

/-- The value of a digit: letters, in either case, and then figures. -/
def digit? (c : Char) : Option Nat :=
  let n := c.toNat
  if 97 ≤ n && n ≤ 122 then some (n - 97)
  else if 65 ≤ n && n ≤ 90 then some (n - 65)
  else if 48 ≤ n && n ≤ 57 then some (n - 22)
  else none

/-- The digit of a value. -/
def digitChar (value : Nat) : Char := Char.ofNat (if value < 26 then value + 97 else value + 22)

/-- The threshold under which the digit at a place is the last. -/
def threshold (place bias : Nat) : Nat := max 1 (min 26 (36 * (place + 1) - bias))

/-- Scale a number down to the range of the bias; the fuel bounds the divisions. -/
def scale : Nat → Nat → Nat × Nat
  | 0, delta => (0, delta)
  | fuel + 1, delta =>
      if delta ≤ 455 then (0, delta)
      else
        let (steps, least) := scale fuel (delta / 35)
        (steps + 36, least)

/-- The bias after a number was read, for a text that is now so long. -/
def adapt (delta : Nat) (first : Bool) (length : Nat) : Nat :=
  let delta := if first then delta / 700 else delta / 2
  let delta := delta + delta / length
  let (steps, least) := scale delta delta
  steps + 36 * least / (least + 38)

/-! ## Reading -/

/-- Read a number; none if it does not end or has something else than digits. -/
def readNumber (bias : Nat) : Nat → Nat → Nat → List Char → Option (Nat × List Char)
  | _, _, _, [] => none
  | place, weight, sum, c :: rest =>
      match digit? c with
      | none => none
      | some d =>
          let t := threshold place bias
          let sum := sum + d * weight
          if d < t then some (sum, rest)
          else readNumber bias (place + 1) (weight * (36 - t)) sum rest

theorem length_of_readNumber {bias place weight sum : Nat} {cs rest : List Char} {n : Nat}
    (h : readNumber bias place weight sum cs = some (n, rest)) : rest.length < cs.length := by
  induction cs generalizing place weight sum with
  | nil => simp [readNumber] at h
  | cons c cs ih =>
    rw [readNumber] at h
    split at h
    · simp at h
    · simp only at h
      split at h
      · simp only [Option.some.injEq, Prod.mk.injEq] at h
        simp [h.2]
      · have := ih h
        simp only [List.length_cons]
        omega

/-- Insert characters into a text as the numbers say. -/
def insertAll (first : Bool) (bias code place : Nat) (text : List Char) (cs : List Char) :
    Option (List Char) :=
  match cs with
  | [] => some text
  | c :: more =>
      match h : readNumber bias 0 1 0 (c :: more) with
      | none => none
      | some (delta, rest) =>
          have : rest.length < (c :: more).length := length_of_readNumber h
          let length := text.length + 1
          let code := code + (place + delta) / length
          let place := (place + delta) % length
          match charOfCode? code with
          | none => none
          | some inserted =>
              insertAll false (adapt delta first length) code (place + 1)
                (text.take place ++ inserted :: text.drop place) rest
termination_by cs.length
decreasing_by exact this

/-- A text before and after its last hyphen; without one it is all after. -/
def splitLast (cs : List Char) : List Char × List Char :=
  let back := cs.reverse.takeWhile (· ≠ '-')
  ((cs.take (cs.length - back.length)).dropLast, back.reverse)

/-- The text of characters in ASCII. -/
def ofAscii (cs : List Char) : Except Fault (List Char) :=
  let (base, insertions) := splitLast cs
  match insertAll true 72 128 0 base insertions with
  | some text => .ok text
  | none => .error .form

/-- The text of bytes. -/
def decode (bs : List UInt8) : Except Fault (List Char) :=
  if bs.all fun b => b.toNat < 128 then ofAscii (bs.map latinChar) else .error .bytes

/-! ## Writing -/

/-- The digits of a number; the fuel bounds their count. -/
def writeNumber (bias : Nat) : Nat → Nat → Nat → List Char
  | 0, _, _ => []
  | fuel + 1, place, n =>
      let t := threshold place bias
      if n < t then [digitChar n]
      else
        digitChar (t + (n - t) % (36 - t)) ::
          writeNumber bias fuel (place + 1) ((n - t) / (36 - t))

/-- What has been written, and how far the text is covered. -/
structure Progress where
  written : List Char := []
  bias : Nat := 72
  delta : Nat := 0
  covered : Nat

/-- Pass a character of the text while the characters of a code are written. -/
def Progress.pass (basic code : Nat) (p : Progress) (c : Char) : Progress :=
  if c.toNat < code then { p with delta := p.delta + 1 }
  else if c.toNat = code then
    { written := p.written ++ writeNumber p.bias (p.delta + 1) 0 p.delta
      bias := adapt p.delta (p.covered = basic) (p.covered + 1)
      delta := 0
      covered := p.covered + 1 }
  else p

/-- Write the characters of each code, in the order of codes. -/
def writeAll (text : List Char) (basic : Nat) : List Nat → Nat → Progress → Progress
  | [], _, p => p
  | code :: codes, least, p =>
      let p := { p with delta := p.delta + (code - least) * (p.covered + 1) }
      let p := text.foldl (Progress.pass basic code) p
      writeAll text basic codes (code + 1) { p with delta := p.delta + 1 }

/-- Put a number into an ascending list that does not repeat it. -/
def insertCode (n : Nat) : List Nat → List Nat
  | [] => [n]
  | m :: rest =>
      if n < m then n :: m :: rest
      else if n = m then m :: rest
      else m :: insertCode n rest

/-- The Punycode of a text. -/
def encode (text : List Char) : List Char :=
  let basic := text.filter fun c => c.toNat < 128
  let codes := (text.filter fun c => 128 ≤ c.toNat).foldr
    (fun c codes => insertCode c.toNat codes) []
  let p := writeAll text basic.length codes 128 { covered := basic.length }
  basic ++ (if basic.isEmpty then [] else ['-']) ++ p.written

end Keyset.Encoding.Punycode
