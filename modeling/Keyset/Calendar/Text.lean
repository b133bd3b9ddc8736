import Keyset.Calendar.DateTime

/-!
# Keyset — text of dates

Dates and times in the plain form, which sorts as text, and in the quoted form,
which names every part.

* `Date.display`, `DateTime.display` — the plain forms.
* `Date.quoted`, `DateTime.quoted`, `quotedDuration` — the quoted forms.
-/

namespace Keyset

/-- A number with at least `width` digits. -/
def padded (width n : Nat) : String :=
  let digits := Nat.toDigits 10 n
  String.ofList (List.replicate (width - digits.length) '0' ++ digits)

/-- A length of time as days, seconds and microseconds, without the parts that
are zero. -/
def quotedDuration (micros : Int) : String :=
  let days := micros / dayMicros
  let rest := micros % dayMicros
  let parts := [("days", days), ("seconds", rest / 1000000), ("microseconds", rest % 1000000)]
  let shown := (parts.filter fun p => p.2 != 0).map fun p => p.1 ++ "=" ++ toString p.2
  "datetime.timedelta(" ++ (if shown.isEmpty then "0" else ", ".intercalate shown) ++ ")"

/-- The quoted form of an offset. -/
def UtcOffset.quoted (o : UtcOffset) : String :=
  if o.micros = 0 then "datetime.timezone.utc"
  else "datetime.timezone(" ++ quotedDuration o.micros ++ ")"

/-- An offset as signed hours and minutes, with seconds only if needed. -/
def UtcOffset.display (o : UtcOffset) : String :=
  let size := o.micros.natAbs
  let seconds := size / 1000000
  let fine :=
    if size % 1000000 ≠ 0 then
      ":" ++ padded 2 (seconds % 60) ++ "." ++ padded 6 (size % 1000000)
    else if seconds % 60 ≠ 0 then ":" ++ padded 2 (seconds % 60) else ""
  (if o.micros < 0 then "-" else "+") ++ padded 2 (seconds / 3600) ++ ":"
    ++ padded 2 (seconds / 60 % 60) ++ fine

/-- The quoted form of a date. -/
def Date.quoted (d : Date) : String :=
  "datetime.date(" ++ ", ".intercalate ([d.year, d.month, d.day].map toString) ++ ")"

/-- The plain form of a date. -/
def Date.display (d : Date) : String :=
  padded 4 d.year ++ "-" ++ padded 2 d.month ++ "-" ++ padded 2 d.day

/-- The quoted form of a date and time: seconds and microseconds only as far as
they are not zero. -/
def DateTime.quoted (t : DateTime) : String :=
  let clock := [t.date.year, t.date.month, t.date.day, t.time.hour, t.time.minute]
  let fine :=
    if t.time.micro ≠ 0 then [t.time.second, t.time.micro]
    else if t.time.second ≠ 0 then [t.time.second] else []
  let zone := match t.offset with
    | none => []
    | some o => ["tzinfo=" ++ o.quoted]
  "datetime.datetime(" ++ ", ".intercalate ((clock ++ fine).map toString ++ zone) ++ ")"

/-- The plain form of a date and time. -/
def DateTime.display (t : DateTime) : String :=
  t.date.display ++ " " ++ padded 2 t.time.hour ++ ":" ++ padded 2 t.time.minute ++ ":"
    ++ padded 2 t.time.second
    ++ (if t.time.micro = 0 then "" else "." ++ padded 6 t.time.micro)
    ++ (match t.offset with
        | none => ""
        | some o => o.display)

end Keyset
