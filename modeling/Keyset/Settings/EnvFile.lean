import Keyset.Text.Blank

/-!
# Keyset — environment files

A settings file assigns values to names, one to a line. Blank lines, comments and
lines without an equals sign are ignored; blanks around name and value and quotes
around the value are dropped. The last assignment of a name counts.

* `EnvFile.lines` — the lines of a text, under any convention for line ends.
* `EnvFile.assignment?` — what a line assigns.
* `EnvFile.parse` — the assignments of a text, in order.
* `EnvFile.get?` — the value of a name.
-/

namespace Keyset.EnvFile

/-- The lines of a text. A line ends at a newline, a carriage return, or both. -/
def lines : List Char → List (List Char)
  | [] => [[]]
  | '\r' :: '\n' :: rest => [] :: lines rest
  | c :: rest =>
      if c = '\n' ∨ c = '\r' then [] :: lines rest
      else match lines rest with
        | [] => [[c]]
        | line :: others => (c :: line) :: others

/-- Whether a character is a quote. -/
def isQuote (c : Char) : Bool := c = '"' || c = '\''

/-- What a line assigns. -/
def assignment? (line : List Char) : Option (String × String) :=
  let cs := Text.trim line
  if cs.head? = some '#' then none
  else
    let name := cs.takeWhile (· ≠ '=')
    match cs.drop name.length with
    | [] => none
    | _ :: value =>
        some (String.ofList (Text.trim name),
          String.ofList (Text.stripBoth isQuote (Text.trim value)))

/-- The assignments of a text. -/
def parse (text : String) : List (String × String) := (lines text.toList).filterMap assignment?

/-- The value that was assigned to a name last. -/
def get? (assignments : List (String × String)) (name : String) : Option String :=
  (assignments.reverse.find? (·.1 == name)).map (·.2)

end Keyset.EnvFile
