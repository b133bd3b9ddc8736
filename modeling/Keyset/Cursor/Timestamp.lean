import Keyset.Calendar.Iso
import Keyset.Error.Basic

/-!
# Keyset — timestamps

A position in time is encoded as the whole milliseconds since 1970 began in UTC.

* `Timestamp.ofValue` — the milliseconds of a date, a date with a time, or an
  ISO 8601 text; parts of a millisecond are dropped downward.
* `Timestamp.toDateTime?` — the UTC date and time of so many milliseconds.
* `Timestamp.ofNumber` — the same for any number, parts of a microsecond rounded
  to the even neighbour.
-/

namespace Keyset.Timestamp

/-- Why a value is no position in time. -/
inductive Fault where
  | notTemporal (typeName : String)
  | unreadable (fault : ValueFault)

/-- The message of a fault. -/
def Fault.message : Fault → String
  | .notTemporal name => "not a temporal value: " ++ name
  | .unreadable fault => fault.message

/-- The failure that a fault is by itself. -/
def Fault.failure : Fault → Failure
  | .notTemporal _ => .wrongType
  | .unreadable fault => .value fault

/-- Write the mark of UTC as an offset. -/
def spellZulu (s : String) : String :=
  String.ofList (s.toList.flatMap fun c => if c = 'Z' then "+00:00".toList else [c])

/-- The whole milliseconds of a date and time. -/
def ofDateTime (t : DateTime) : Int := t.epochMicros / 1000

/-- The whole milliseconds of a temporal value. -/
def ofValue : Value → Except Fault Int
  | .str s =>
      match Iso.read (spellZulu s) with
      | .ok t => .ok (ofDateTime t)
      | .error f => .error (.unreadable f)
  | .datetime t => .ok (ofDateTime t)
  | .date d => .ok (ofDateTime (.ofDate d))
  | v => .error (.notTemporal v.typeName)

/-- The UTC date and time of so many milliseconds, in the years 1 to 9999. -/
def toDateTime? (millis : Int) (aware : Bool) : Option DateTime :=
  DateTime.ofEpochMicros? (millis * 1000) aware

/-- Round a finite double to an integer, a half to the neighbour that makes the sum
with `whole` even. -/
def roundOnto (whole : Int) (x : Double) : Int :=
  match x with
  | .finite s m e =>
      let num : Int := Double.scaleNum m e
      let signed := if s then -num else num
      let den : Int := Double.scaleDen e
      let down := signed / den
      let twice := 2 * (signed % den)
      if twice < den ∨ (twice = den ∧ (whole + down) % 2 = 0) then down else down + 1
  | _ => 0

/-- The microseconds in a number of milliseconds. -/
def microsOfNumber : Value → Except Failure Int
  | .bool b => .ok (if b then 1000 else 0)
  | .int n => .ok (n * 1000)
  | .float x =>
      match x.truncate? with
      | none => .error (if x = .nan then .value .nanInteger else .overflow)
      | some whole =>
          let fine := x.fraction.mul (Double.ofInt 1000)
          match fine.truncate? with
          | none => .error .overflow
          | some fineWhole =>
              let sum := whole * 1000 + fineWhole
              .ok (sum + roundOnto sum fine.fraction)
  | _ => .error .wrongType

/-- The UTC date and time of a number of milliseconds. -/
def ofNumber (millis : Value) (aware : Bool) : Except Failure DateTime := do
  let micros ← microsOfNumber millis
  match DateTime.ofEpochMicros? micros aware with
  | some t => .ok t
  | none => .error .overflow

end Keyset.Timestamp
