import Keyset.Fault
import Keyset.Text.Blank
import Keyset.Text.DecimalDigit
import Keyset.Text.Quoted

/-!
# Keyset — integer literals

Integers in settings: decimal digits of any script, single underscores between
them, an optional sign, and white space around the whole.

* `Literal.integer` — the integer that a text spells.
-/

namespace Keyset.Literal

/-- White space around a literal. -/
def isMargin (c : Char) : Bool := Text.isSpace c

/-- The longest run of digits and underscores at the front, with what follows. -/
def digitRun (cs : List Char) : List Char × List Char :=
  let inRun (c : Char) : Bool := c = '_' || (Text.digitValue? c).isSome
  (cs.takeWhile inRun, cs.dropWhile inRun)

/-- Whether underscores stand only between digits. -/
def wellSeparated : Bool → List Char → Bool
  | afterDigit, [] => afterDigit
  | afterDigit, c :: rest =>
      if c = '_' then afterDigit && wellSeparated false rest else wellSeparated true rest

/-- The sign at the front and what follows it. -/
def signOf : List Char → Bool × List Char
  | '-' :: rest => (true, rest)
  | '+' :: rest => (false, rest)
  | rest => (false, rest)

/-- The message shows two hundred characters of a text that is no integer. -/
def refusal (s : String) : ValueFault :=
  .notInteger (String.ofList ((Text.quote s).toList.take 200))

/-- The integer that a text spells. A text with too many digits is refused for that,
whatever follows them. -/
def integer (s : String) : Except ValueFault Int :=
  let (negative, body) := signOf (s.toList.dropWhile isMargin)
  let (run, rest) := digitRun body
  let digits := run.filterMap Text.digitValue?
  if !wellSeparated false run then .error (refusal s)
  else if ValueFault.digitLimit < digits.length then .error (.readLimit digits.length)
  else if !rest.all isMargin then .error (refusal s)
  else
    let n : Int := (digits.foldl (fun n d => n * 10 + d) 0 : Nat)
    .ok (if negative then -n else n)

end Keyset.Literal
