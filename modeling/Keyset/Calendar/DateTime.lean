import Keyset.Calendar.Date

/-!
# Keyset — dates with a time of day

A date and time is naive, or carries its offset from UTC. The engine reads naive
values as UTC, as document stores hand them back.

* `TimeOfDay` — microseconds since midnight.
* `UtcOffset` — microseconds east of UTC, less than a day in either direction.
* `DateTime.epochMicros` — the instant, in microseconds since 1970.
* `DateTime.ofEpochMicros?` — the UTC date and time of an instant.
-/

namespace Keyset

/-- A time of day. -/
structure TimeOfDay where
  micros : Nat
  micros_lt : micros < 86400000000
  deriving DecidableEq

namespace TimeOfDay

/-- Midnight. -/
def midnight : TimeOfDay := ⟨0, by decide⟩

instance : Inhabited TimeOfDay := ⟨midnight⟩

/-- The time with the given clock reading, if there is one. -/
def of? (hour minute second micro : Nat) : Option TimeOfDay :=
  if h : hour < 24 ∧ minute < 60 ∧ second < 60 ∧ micro < 1000000 then
    some ⟨((hour * 60 + minute) * 60 + second) * 1000000 + micro, by omega⟩
  else none

/-- The hour. -/
def hour (t : TimeOfDay) : Nat := t.micros / 3600000000

/-- The minute of the hour. -/
def minute (t : TimeOfDay) : Nat := t.micros / 60000000 % 60

/-- The second of the minute. -/
def second (t : TimeOfDay) : Nat := t.micros / 1000000 % 60

/-- The microsecond of the second. -/
def micro (t : TimeOfDay) : Nat := t.micros % 1000000

end TimeOfDay

/-- Microseconds in a day. -/
def dayMicros : Int := 86400000000

/-- An offset from UTC, positive to the east. -/
structure UtcOffset where
  micros : Int
  within : -dayMicros < micros ∧ micros < dayMicros
  deriving DecidableEq

namespace UtcOffset

/-- UTC itself. -/
def utc : UtcOffset := ⟨0, by decide⟩

instance : Inhabited UtcOffset := ⟨utc⟩

/-- The offset of so many microseconds, if it is less than a day. -/
def of? (micros : Int) : Option UtcOffset :=
  if h : -dayMicros < micros ∧ micros < dayMicros then some ⟨micros, h⟩ else none

end UtcOffset

/-- A date with a time of day; naive without an offset. -/
structure DateTime where
  date : Date
  time : TimeOfDay
  offset : Option UtcOffset
  deriving DecidableEq, Inhabited

namespace DateTime

/-- Day number of 1970-01-01. -/
def epochDay : Int := 719162

/-- The instant in microseconds since 1970 began in UTC; a naive value is UTC. -/
def epochMicros (t : DateTime) : Int :=
  ((t.date.dayNumber : Int) - epochDay) * dayMicros + t.time.micros
    - (t.offset.map (·.micros)).getD 0

/-- Midnight of a date, naive. -/
def ofDate (d : Date) : DateTime := ⟨d, .midnight, none⟩

/-- The UTC date and time of an instant, in the years 1 to 9999. -/
def ofEpochMicros? (micros : Int) (aware : Bool) : Option DateTime :=
  let day := micros / dayMicros + epochDay
  if day < 0 then none
  else
    (Date.ofDayNumber? day.toNat).map fun date =>
      { date
        time := ⟨(micros % dayMicros).toNat, by unfold dayMicros; omega⟩
        offset := if aware then some .utc else none }

end DateTime

end Keyset
