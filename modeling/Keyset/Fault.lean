/-!
# Keyset — faults of single values

A value can be well placed and still have no reading or no text: a number too
long to write, a word that is no sort order, a day that does not exist. These
faults carry a message that reaches the caller, some of them as the reason of a
rejected cursor.
-/

namespace Keyset

/-- Why a single value cannot be read or written. Texts are quoted already. -/
inductive ValueFault where
  /-- An integer has too many digits to be written. -/
  | writeLimit
  /-- A text of so many digits is too long to be read as an integer. -/
  | readLimit (digits : Nat)
  /-- A text is no integer. -/
  | notInteger (quoted : String)
  /-- A value is no sort order. -/
  | notSortOrder (quoted : String)
  /-- A text is no ISO 8601 date or date and time. -/
  | notIso (quoted : String)
  /-- An offset from UTC reaches a whole day. -/
  | offsetRange (duration : String)
  | yearRange (year : Nat)
  | monthRange
  | dayRange
  | hourRange
  | minuteRange
  | secondRange
  /-- A number is no byte. -/
  | byteRange
  /-- A number that is not a number has no integer part. -/
  | nanInteger
  /-- A number has no form in an interchange document. -/
  | notInterchangeable
  /-- A name holds a null character. -/
  | embeddedNull
  /-- A template ends inside a directive. -/
  | templateEnd
  /-- A template ends inside the name of an argument. -/
  | templateName
  | templateWidth
  | templatePrecision
  /-- A template asks at an index for a conversion that there is not. -/
  | templateConversion (letter : Char) (index : Nat)
  /-- A model has no such field to set. -/
  | noSuchField (model field : String)
  deriving DecidableEq, Repr

namespace ValueFault

/-- The greatest number of digits of an integer that is read or written. -/
def digitLimit : Nat := 4300

/-- The message of a fault. -/
def message : ValueFault → String
  | .writeLimit =>
      "Exceeds the limit (4300 digits) for integer string conversion; "
        ++ "use sys.set_int_max_str_digits() to increase the limit"
  | .readLimit n =>
      "Exceeds the limit (4300 digits) for integer string conversion: value has " ++ toString n
        ++ " digits; use sys.set_int_max_str_digits() to increase the limit"
  | .notInteger q => "invalid literal for int() with base 10: " ++ q
  | .notSortOrder q => q ++ " is not a valid SortOrder"
  | .notIso q => "Invalid isoformat string: " ++ q
  | .offsetRange d =>
      "offset must be a timedelta strictly between -timedelta(hours=24) and "
        ++ "timedelta(hours=24), not " ++ d ++ "."
  | .yearRange y => "year " ++ toString y ++ " is out of range"
  | .monthRange => "month must be in 1..12"
  | .dayRange => "day is out of range for month"
  | .hourRange => "hour must be in 0..23"
  | .minuteRange => "minute must be in 0..59"
  | .secondRange => "second must be in 0..59"
  | .byteRange => "byte must be in range(0, 256)"
  | .nanInteger => "cannot convert float NaN to integer"
  | .notInterchangeable => "Out of range float values are not JSON compliant"
  | .embeddedNull => "embedded null character"
  | .templateEnd => "incomplete format"
  | .templateName => "incomplete format key"
  | .templateWidth => "width too big"
  | .templatePrecision => "precision too big"
  | .templateConversion c index =>
      let shown := if 31 ≤ c.toNat && c.toNat < 127 then c else '?'
      "unsupported format character '" ++ shown.toString ++ "' (0x"
        ++ String.ofList (Nat.toDigits 16 c.toNat) ++ ") at index " ++ toString index
  | .noSuchField model field => "\"" ++ model ++ "\" object has no field \"" ++ field ++ "\""

end ValueFault

end Keyset
