import Keyset.Log
import Keyset.Value.Key

/-!
# Keyset — log events

Between the call that writes it and the line that shows it, a log entry is an event:
a mapping of what is known about it, in the order in which it became known.

* `Event.ofValue` — the event that a value is.
* `Event.component?` — the part of the engine to which a logger belongs.
* `Event.tagComponent` — an event with that part, unless it names one already.
* `Event.take` — a value that leaves the event.
-/

namespace Keyset

/-- What is known about a log entry. -/
abbrev Event := List (Value × Value)

namespace Event

/-- The event that a value is. A list has elements to take out, but none by name. -/
def ofValue : Value → Except Failure Event
  | .mapping entries => .ok entries
  | .list _ => .error .wrongType
  | _ => .error .noAttribute

/-- What the names of the engine's loggers begin with. -/
def engineNamespace : String := "docpager."

/-- The part of the engine to which a logger belongs: the second part of its dotted
name. -/
def component? (logger : String) : Option String :=
  if engineNamespace.toList.isPrefixOf logger.toList then
    let rest := logger.toList.drop engineNamespace.length
    some (String.ofList (rest.takeWhile (· ≠ '.')))
  else none

/-- An event with the component of its logger. An event without a logger has none, and
a component that is named already is kept. -/
def tagComponent (e : Event) : Except Failure Event :=
  match Entries.field? e "logger" with
  | none => .ok e
  | some (.str logger) =>
      match component? logger with
      | some part =>
          .ok (if Entries.hasField e "component" then e
            else Entries.put e (.str "component") (.str part))
      | none => .ok e
  | some (.bytes _) => .error .wrongType
  | some _ => .error .noAttribute

/-- The value of a name, or a default, and the event without it. -/
def take (e : Event) (name : String) (default : Value) : Value × Event :=
  ((Entries.field? e name).getD default, Entries.erase e name)

end Event

end Keyset
