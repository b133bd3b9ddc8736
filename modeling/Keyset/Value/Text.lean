import Keyset.Calendar.Text
import Keyset.Fault
import Keyset.Number.Shortest
import Keyset.Text.Quoted
import Keyset.Value.Basic

/-!
# Keyset — values as text

Two texts of a value: the plain one, which becomes part of cursors and patterns,
and the quoted one, which appears in messages and inside collections. They differ
for text, which the plain form leaves bare, and for dates and records.

* `Value.quoted` — the quoted text.
* `Value.display` — the plain text.

Both fail for one reason only: an integer with more digits than the limit.
-/

namespace Keyset

namespace Decimal

/-- The decimal text of an integer within the digit limit. -/
def render (n : Int) : Except ValueFault String :=
  let text := toString n.natAbs
  if ValueFault.digitLimit < text.length then .error .writeLimit
  else .ok (if n < 0 then "-" ++ text else text)

end Decimal

namespace Value

/-! ## Values -/

mutual
/-- The quoted text of a value. -/
def quoted : Value → Except ValueFault String
  | .null => .ok "None"
  | .bool b => .ok (if b then "True" else "False")
  | .int n => Decimal.render n
  | .float x => .ok x.text
  | .str s => .ok (Text.quote s)
  | .bytes bs => .ok (Text.quoteBytes bs)
  | .datetime t => .ok t.quoted
  | .date d => .ok d.quoted
  | .list items => do
      let parts ← quotedAll items
      return "[" ++ ", ".intercalate parts ++ "]"
  | .tuple items => do
      let parts ← quotedAll items
      return "(" ++ ", ".intercalate parts ++ (if parts.length = 1 then ",)" else ")")
  | .mapping entries => do
      let parts ← quotedEntries entries
      return "\x7b" ++ ", ".intercalate parts ++ "\x7d"
  | .record kind fields => do
      let parts ← quotedFields fields
      return kind.name ++ "(" ++ ", ".intercalate parts ++ ")"

/-- The quoted texts of a list. -/
def quotedAll : List Value → Except ValueFault (List String)
  | [] => .ok []
  | v :: rest => do
      let first ← quoted v
      let others ← quotedAll rest
      return first :: others

/-- The quoted keys and values of a mapping. -/
def quotedEntries : List (Value × Value) → Except ValueFault (List String)
  | [] => .ok []
  | (k, v) :: rest => do
      let key ← quoted k
      let value ← quoted v
      let others ← quotedEntries rest
      return (key ++ ": " ++ value) :: others

/-- The names and quoted values of a record. -/
def quotedFields : List (String × Value) → Except ValueFault (List String)
  | [] => .ok []
  | (name, v) :: rest => do
      let value ← quoted v
      let others ← quotedFields rest
      return (name ++ "=" ++ value) :: others
end

/-- The plain text of a value. -/
def display : Value → Except ValueFault String
  | .str s => .ok s
  | .datetime t => .ok t.display
  | .date d => .ok d.display
  | .record _ fields => do
      let parts ← quotedFields fields
      return " ".intercalate parts
  | v => quoted v

end Value

end Keyset
