import Keyset.Error.Basic
import Keyset.Schema.Check

/-!
# Keyset — values in interchange documents

Response bodies and log lines are interchange documents, which have fewer kinds of
values than the engine: tuples become lists and keys become texts, but dates and
bytes have no form there. What happens to them, and to numbers that are not finite,
is a decision of the dialect.

* `Json.Dialect` — those decisions; `Json.strict` for bodies, `Json.lenient` for logs.
* `Json.encodable` — the value that a reader of the document sees.
-/

namespace Keyset.Json

/-- How a document treats what interchange has no form for. -/
structure Dialect where
  /-- Whether numbers that are not finite are refused. -/
  finiteOnly : Bool
  /-- The form of a value without one of its own. -/
  substitute : Value → Except Failure Value

/-- Nothing is replaced. -/
def strict : Dialect where
  finiteOnly := true
  substitute _ := .error .wrongType

/-- A value without a form is replaced by its quoted text. -/
def lenient : Dialect where
  finiteOnly := false
  substitute v := do return .str (← v.quoted)

/-- The text of a double, if the dialect admits it. -/
def numberText (d : Dialect) (x : Double) : Except Failure String :=
  match x with
  | .finite .. => .ok x.text
  | .nan => if d.finiteOnly then .error (.value .notInterchangeable) else .ok "NaN"
  | .infinity s =>
      if d.finiteOnly then .error (.value .notInterchangeable)
      else .ok (if s then "-Infinity" else "Infinity")

/-- The text of a key. -/
def keyText (d : Dialect) : Value → Except Failure String
  | .str s => .ok s
  | .null => .ok "null"
  | .bool b => .ok (if b then "true" else "false")
  | .int n => Decimal.render n
  | .float x => numberText d x
  | _ => .error .wrongType

mutual
/-- A value as a reader of the document sees it. -/
def encodable (d : Dialect) : Value → Except Failure Value
  | .null => .ok .null
  | .bool b => .ok (.bool b)
  | .int n => do
      let _ ← (Decimal.render n : Except ValueFault String)
      return .int n
  | .float x => do
      let _ ← numberText d x
      return .float x
  | .str s => .ok (.str s)
  | .list items => do return .list (← encodableAll d items)
  | .tuple items => do return .list (← encodableAll d items)
  | .mapping entries => do return .object (← encodableEntries d [] entries)
  | v => d.substitute v

/-- All values of a list. -/
def encodableAll (d : Dialect) : List Value → Except Failure (List Value)
  | [] => .ok []
  | v :: rest => do
      let first ← encodable d v
      let others ← encodableAll d rest
      return first :: others

/-- The entries of a mapping, after the fields already written. Of two keys with one
text the later counts. -/
def encodableEntries (d : Dialect) (fields : List (String × Value)) :
    List (Value × Value) → Except Failure (List (String × Value))
  | [] => .ok fields
  | (k, v) :: rest => do
      let name ← keyText d k
      let value ← encodable d v
      encodableEntries d (Check.putField fields name value) rest
end

end Keyset.Json
