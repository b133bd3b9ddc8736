import Keyset.Schema.Check

/-!
# Keyset — requests, counters and match descriptors

The data that a caller hands to the engine: a pagination request, the counters of
an executed query, and structured filter entries. Each can also be given as a
record that was checked before.
-/

namespace Keyset

/-! ## Match descriptors -/

/-- The operand of a match descriptor. -/
inductive Operand where
  | text (s : String)
  | int (n : Int)
  | float (x : Double)
  deriving DecidableEq, Repr

namespace Operand

/-- The value of an operand. -/
def toValue : Operand → Value
  | .text s => .str s
  | .int n => .int n
  | .float x => .float x

/-- Check an operand: a value of one of the three types is taken as it is, bytes
as a text, and a truth value as an integer. Otherwise all three types complain. -/
def check : Value → Check Operand
  | .str s => Check.good (.text s)
  | .int n => Check.good (.int n)
  | .float x => Check.good (.float x)
  | .bool b => Check.good (.int (if b then 1 else 0))
  | .bytes bs =>
      match Utf8.decode? bs with
      | some s => Check.good (.text s)
      | none => ⟨.error [⟨[.name "str"], .stringUnicode⟩, ⟨[.name "int"], .intParsing⟩,
          ⟨[.name "float"], .floatParsing⟩]⟩
  | _ => ⟨.error [⟨[.name "str"], .stringType⟩, ⟨[.name "int"], .intType⟩,
      ⟨[.name "float"], .floatType⟩]⟩

end Operand

/-- A structured filter entry. -/
structure MatchFilter where
  operator : String
  value : Operand
  deriving DecidableEq, Repr

namespace MatchFilter

/-- Check the fields of a match descriptor. -/
def ofEntries (es : List (Value × Value)) : Check MatchFilter :=
  MatchFilter.mk
    <$> Check.required es "operator" Check.text
    <*> Check.required es "value" Operand.check

/-- The fields by name. -/
def fields (m : MatchFilter) : List (String × Value) :=
  [("operator", .str m.operator), ("value", m.value.toValue)]

/-- The record of a match descriptor. -/
def toValue (m : MatchFilter) : Value := .record .matchFilter m.fields

end MatchFilter

/-! ## Records -/

/-- Check a mapping, or take a record of the given kind by its fields, which are
good already. -/
def Check.model {α : Type} (kind : RecordKind) (check : List (Value × Value) → Check α) :
    Value → Check α
  | .mapping es => check es
  | .record k fields =>
      if k = kind then check (fields.map fun f => (.str f.1, f.2)) else Check.bad .modelType
  | _ => Check.bad .modelType

/-! ## Requests -/

/-- A pagination request. -/
structure Request where
  /-- The page size, paginating forward. -/
  first : Option Int := none
  /-- The page size, paginating backward. -/
  last : Option Int := none
  /-- The cursor that bounds a backward page. -/
  before : Option String := none
  /-- The cursor that bounds a forward page. -/
  after : Option String := none
  /-- The match specification of each filtered field. -/
  filters : Option (List (String × Value)) := none
  deriving Inhabited

namespace Request

/-- Check the fields of a request. -/
def ofEntries (es : List (Value × Value)) : Check Request :=
  Request.mk
    <$> Check.field es "first" (Check.nullable Check.integer) none
    <*> Check.field es "last" (Check.nullable Check.integer) none
    <*> Check.field es "before" (Check.nullable Check.text) none
    <*> Check.field es "after" (Check.nullable Check.text) none
    <*> Check.field es "filters" (Check.nullable Check.textMapping) none

/-- Check a request. -/
def check : Value → Check Request := Check.model .paginationRequest ofEntries

/-- The fields by name. -/
def fields (r : Request) : List (String × Value) :=
  [("first", .ofOption .int r.first),
    ("last", .ofOption .int r.last),
    ("before", .ofOption .str r.before),
    ("after", .ofOption .str r.after),
    ("filters", .ofOption .object r.filters)]

/-- The record of a request. -/
def toValue (r : Request) : Value := .record .paginationRequest r.fields

end Request

/-! ## Counters -/

/-- The counters of an executed query. -/
structure Counts where
  /-- Documents that match the filter. -/
  total : Int := 0
  /-- Documents that match the filter, on the unread side of the cursor. -/
  cursored : Int := 0
  /-- Documents on the page. -/
  current : Int := 0
  deriving DecidableEq, Repr, Inhabited

namespace Counts

/-- Check the fields of counters. -/
def ofEntries (es : List (Value × Value)) : Check Counts :=
  Counts.mk
    <$> Check.field es "total" Check.integer 0
    <*> Check.field es "cursored" Check.integer 0
    <*> Check.field es "current" Check.integer 0

/-- Check counters. -/
def check : Value → Check Counts := Check.model .counts ofEntries

/-- The fields by name. -/
def fields (c : Counts) : List (String × Value) :=
  [("total", .int c.total), ("cursored", .int c.cursored), ("current", .int c.current)]

/-- The record of counters. -/
def toValue (c : Counts) : Value := .record .counts c.fields

end Counts

end Keyset
