import Keyset.Calendar.Text
import Keyset.Fault
import Keyset.Text.Quoted
import Keyset.Text.Utf8

/-!
# Keyset — ISO 8601 text

Reads a date, or a date and a time with an optional offset, in the extended form
(`2024-01-15`, `10:30:00`), the basic form (`20240115`, `103000`) or as an ISO
week (`2024-W03-1`, `2024W031`). Any one character may separate date and time. A
second may have a fraction of any length, of which six digits count.

The text is read as bytes. A byte past the end reads as zero, and so a zero byte
inside the text ends a time as the end of the text does.

* `Iso.separator?` — where the date ends.
* `Iso.readDate`, `Iso.readClock`, `Iso.readTime` — the two halves.
* `Iso.read` — the whole text.
-/

namespace Keyset.Iso

/-! ## Bytes -/

/-- The byte at the front, zero at the end. -/
def peek (bs : List UInt8) : Nat := (bs.head?.getD 0).toNat

/-- The byte at a position, zero past the end. -/
def byteAt (bs : List UInt8) (i : Nat) : Nat := (bs[i]?.getD 0).toNat

/-- Whether a byte is an ASCII digit. -/
def isDigit (b : Nat) : Bool := 48 ≤ b && b ≤ 57

/-- Read exactly `count` digits. -/
def digits : Nat → Nat → List UInt8 → Option (Nat × List UInt8)
  | 0, acc, rest => some (acc, rest)
  | _ + 1, _, [] => none
  | count + 1, acc, b :: rest =>
      if isDigit b.toNat then digits count (acc * 10 + (b.toNat - 48)) rest else none

def hyphen : Nat := 45
def colon : Nat := 58
def plus : Nat := 43
def weekMark : Nat := 87

/-! ## Date -/

/-- The length of the date part. A week with a hyphen after it is ambiguous: a
digit pair after the hyphen is a time, one digit a weekday. -/
def separator? (bs : List UInt8) : Option Nat :=
  let length := bs.length
  if length = 7 then some 7
  else if byteAt bs 4 = hyphen then
    if byteAt bs 5 = weekMark then
      if length < 8 then none
      else if 8 < length ∧ byteAt bs 8 = hyphen then
        if length = 9 then none
        else if 10 < length ∧ isDigit (byteAt bs 10) then some 8
        else some 10
      else some 8
    else some 10
  else if byteAt bs 4 = weekMark then
    -- behind a week, the number of digits tells a weekday from the start of a time
    let run := ((bs.drop 7).takeWhile fun b => isDigit b.toNat).length
    let stop := 7 + run
    if stop < 9 then some stop else if stop % 2 = 0 then some 7 else some 8
  else some 8

/-- Read a separating hyphen where the text uses hyphens. -/
def hyphenIf (used : Bool) (bs : List UInt8) : Option (List UInt8) :=
  if !used then some bs else if peek bs = hyphen then some bs.tail else none

/-- The year, month and day of a week date. A week of the year zero is read, but lies
in no month of the calendar. -/
def weekDate? (year week day : Nat) : Option (Nat × Nat × Nat) :=
  if year = 0 then
    if 1 ≤ week ∧ week ≤ 52 ∧ 1 ≤ day ∧ day ≤ 7 then some (1, 0, 0) else none
  else Date.ofIsoWeek? year week day

/-- Read year, month and day from a date part of the given length. The numbers
need not name an existing day, except in the week form. -/
def readDate (length : Nat) (bs : List UInt8) : Option (Nat × Nat × Nat) := do
  let (year, rest) ← digits 4 0 bs
  let hyphens := peek rest = hyphen
  let rest := if hyphens then rest.tail else rest
  if peek rest = weekMark then
    let (week, rest) ← digits 2 0 rest.tail
    if bs.length - rest.length < length then
      let rest ← hyphenIf hyphens rest
      let (day, _) ← digits 1 0 rest
      weekDate? year week day
    else weekDate? year week 1
  else
    let (month, rest) ← digits 2 0 rest
    let rest ← hyphenIf hyphens rest
    let (day, _) ← digits 2 0 rest
    some (year, month, day)

/-! ## Time -/

/-- A clock reading, and whether unread text follows it. -/
structure Clock where
  hour : Nat
  minute : Nat
  second : Nat
  micro : Nat
  more : Bool

/-- The reading of up to three two-digit fields: the fields, and where the
fraction starts unless the reading ended before it. -/
inductive Fields where
  | complete (fields : List Nat) (more : Bool)
  | fraction (fields : List Nat) (rest : List UInt8)

/-- Read the next of `left` fields before the last `stop` bytes. Fields are
separated by colons throughout or not at all, as the first one shows. -/
def readFields (stop : Nat) : Nat → Option Bool → List Nat → List UInt8 → Option Fields
  | 0, _, fields, rest => some (.fraction fields rest)
  | left + 1, colons, fields, bs => do
      let (value, rest) ← digits 2 0 bs
      let fields := fields ++ [value]
      let c := peek rest
      let colons := colons.getD (c = colon)
      let after := rest.tail
      if after.length ≤ stop then some (.complete fields (c != 0))
      else if colons && c = colon then readFields stop left (some colons) fields after
      else if c = 46 ∨ c = 44 then some (.fraction fields after)
      else if colons then none
      else readFields stop left (some colons) fields rest

/-- Read a clock reading before the last `stop` bytes. -/
def readClock (stop : Nat) (bs : List UInt8) : Option Clock := do
  let clock (fields : List Nat) (micro : Nat) (more : Bool) : Clock :=
    ⟨fields[0]?.getD 0, fields[1]?.getD 0, fields[2]?.getD 0, micro, more⟩
  match ← readFields stop 3 none [] bs with
  | .complete fields more => some (clock fields 0 more)
  | .fraction fields rest =>
      let count := min 6 (rest.length - stop)
      let (value, rest) ← digits count 0 rest
      let rest := rest.dropWhile fun b => isDigit b.toNat
      some (clock fields (value * Nat.pow 10 (6 - count)) (peek rest != 0))

/-- Read a time and the offset after its first sign, in microseconds. An offset
without whole seconds is UTC. -/
def readTime (bs : List UInt8) : Option (Clock × Option Int) :=
  let zone := bs.dropWhile fun b => b.toNat != plus && b.toNat != hyphen
  match zone with
  | [] => do
      let clock ← readClock 0 bs
      if clock.more then none else some (clock, none)
  | sign :: rest => do
      let clock ← readClock zone.length bs
      let offset ← readClock 0 rest
      if offset.more then none
      else
        let seconds := (offset.hour * 60 + offset.minute) * 60 + offset.second
        let micros : Int := if seconds = 0 then 0 else (seconds * 1000000 + offset.micro : Nat)
        some (clock, some (if sign.toNat = hyphen then -micros else micros))

/-! ## Date and time -/

/-- The bytes of the separator, which is one character. -/
def separatorLength (lead : Nat) : Nat :=
  if lead < 0x80 then 1
  else if lead / 16 = 0xe then 3
  else if lead / 16 = 0xf then 4
  else 2

/-- The numbers of a text before they are checked. -/
structure Reading where
  year : Nat
  month : Nat
  day : Nat
  clock : Clock
  offset : Option Int

/-- Read the numbers of a text. -/
def readNumbers (bs : List UInt8) : Option Reading := do
  let length ← separator? bs
  let (year, month, day) ← readDate length bs
  let rest := bs.drop length
  if rest.isEmpty then some ⟨year, month, day, ⟨0, 0, 0, 0, false⟩, none⟩
  else
    let (clock, offset) ← readTime (rest.drop (separatorLength (peek rest)))
    some ⟨year, month, day, clock, offset⟩

/-- Check an offset. -/
def checkOffset : Option Int → Except ValueFault (Option UtcOffset)
  | none => .ok none
  | some micros =>
      match UtcOffset.of? micros with
      | some o => .ok (some o)
      | none => .error (.offsetRange (quotedDuration micros))

/-- Check the numbers of a date. -/
def checkDate (year month day : Nat) : Except ValueFault Date :=
  match Date.of? year month day with
  | some d => .ok d
  | none =>
      .error (if year = 0 ∨ 9999 < year then .yearRange year
        else if month = 0 ∨ 12 < month then .monthRange
        else .dayRange)

/-- Check the numbers of a time. -/
def checkTime (c : Clock) : Except ValueFault TimeOfDay :=
  match TimeOfDay.of? c.hour c.minute c.second c.micro with
  | some t => .ok t
  | none =>
      .error (if 24 ≤ c.hour then .hourRange
        else if 60 ≤ c.minute then .minuteRange
        else .secondRange)

/-- Read a text as a date and time. -/
def read (s : String) : Except ValueFault DateTime :=
  match readNumbers (Utf8.encode s) with
  | none => .error (.notIso (Text.quote s))
  | some r => do
      let offset ← checkOffset r.offset
      let date ← checkDate r.year r.month r.day
      let time ← checkTime r.clock
      return ⟨date, time, offset⟩

end Keyset.Iso
