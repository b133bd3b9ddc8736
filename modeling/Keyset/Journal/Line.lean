import Keyset.Journal.Event
import Keyset.Text.Casing

/-!
# Keyset — log lines for people

An event on one line: when, which service, how severe, which logger, what happened,
and after a bar everything else that is known.

* `Event.shown` — a name with its value; values other than scalars are cut short.
* `Event.line` — the line, and what is left of the event besides the bar's left.
-/

namespace Keyset.Event

/-- Whether a value is written in full, however long it is. -/
def isScalar : Value → Bool
  | .null => true
  | .bool _ => true
  | .int _ => true
  | .float _ => true
  | .str _ => true
  | _ => false

/-- The greatest length of the text of a value that is no scalar. -/
def shownLimit : Nat := 150

/-- A name with its value. -/
def shown (entry : Value × Value) : Except ValueFault String := do
  let name ← entry.1.display
  let text ← entry.2.display
  return name ++ "=" ++
    (if isScalar entry.2 then text else String.ofList (text.toList.take shownLimit))

/-- The parts of a line that are present; one that is no text cannot be written. -/
def presentParts (parts : List Value) : Except Failure (List String) :=
  (parts.filter Value.truthy).mapM fun part => match part with
    | .str s => .ok s
    | _ => .error .wrongType

/-- The line of an event, and the rest of the event that stands after the bar. -/
def line (service : Value) (e : Event) : Except Failure (String × Event) := do
  let (timestamp, e) := take e "timestamp" (.str "")
  let (level, e) := take e "level" (.str "info")
  let levelText ← level.display
  let (logger, e) := take e "logger" (.str "")
  let (message, e) := take e "event" (.str "")
  let serviceText ← service.display
  let messageText ← message.display
  let rest ← (e.mapM shown : Except ValueFault (List String))
  let bar := if rest.isEmpty then "" else "| " ++ ", ".intercalate rest
  let parts ← presentParts
    [timestamp, .str ("[" ++ serviceText ++ "]"), .str ("[" ++ Text.upper levelText ++ "]"),
      logger, .str ("- " ++ messageText), .str bar]
  return (" ".intercalate parts, e)

end Keyset.Event
