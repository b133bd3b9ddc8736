import Keyset.Calendar.DateTime
import Keyset.Number.Double

/-!
# Keyset — document values

The values that documents, filters, cursors and results are made of. Mappings
keep the order in which their keys were first written; their keys may be any
hashable value. Texts are strings of Unicode scalar values, without lone surrogates,
and there is no limit on how deeply values nest.

* `Value` — the values.
* `Value.truthy` — the values that count as present: not null, false, zero or empty.
* `Value.typeName` — the name of a value's type in messages.
-/

namespace Keyset

/-- The validated models that can stand among values. -/
inductive RecordKind where
  | matchFilter
  | paginationRequest
  | counts
  deriving DecidableEq, Repr

/-- The name of a model. -/
def RecordKind.name : RecordKind → String
  | .matchFilter => "MatchFilter"
  | .paginationRequest => "PaginationRequest"
  | .counts => "Counts"

/-- A document value. -/
inductive Value where
  | null
  | bool (b : Bool)
  | int (n : Int)
  | float (x : Double)
  | str (s : String)
  | bytes (bs : List UInt8)
  | datetime (t : DateTime)
  | date (d : Date)
  | list (items : List Value)
  | tuple (items : List Value)
  | mapping (entries : List (Value × Value))
  | record (kind : RecordKind) (fields : List (String × Value))
  deriving Inhabited

namespace Value

/-- A mapping with text keys. -/
def object (fields : List (String × Value)) : Value :=
  .mapping (fields.map fun f => (.str f.1, f.2))

/-- The null value for an absent one. -/
def ofOption {α : Type} (f : α → Value) : Option α → Value
  | none => .null
  | some a => f a

/-- Whether a value counts as present. -/
def truthy : Value → Bool
  | .null => false
  | .bool b => b
  | .int n => n != 0
  | .float x => !x.isZero
  | .str s => !s.isEmpty
  | .bytes bs => !bs.isEmpty
  | .datetime _ => true
  | .date _ => true
  | .list items => !items.isEmpty
  | .tuple items => !items.isEmpty
  | .mapping entries => !entries.isEmpty
  | .record .. => true

/-- The name of a value's type. -/
def typeName : Value → String
  | .null => "NoneType"
  | .bool _ => "bool"
  | .int _ => "int"
  | .float _ => "float"
  | .str _ => "str"
  | .bytes _ => "bytes"
  | .datetime _ => "datetime"
  | .date _ => "date"
  | .list _ => "list"
  | .tuple _ => "tuple"
  | .mapping _ => "dict"
  | .record kind _ => kind.name

/-- The value of a record's field. -/
def field? (fields : List (String × Value)) (name : String) : Option Value :=
  (fields.find? (·.1 == name)).map (·.2)

end Value

end Keyset
