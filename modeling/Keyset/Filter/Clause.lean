import Keyset.Field
import Keyset.Value.Key

/-!
# Keyset — filter clauses

A raw filter maps field names to match specifications. It is read once into
tagged clauses; a control key in it decides whether deleted documents count.

* `Clause` — equality, membership, or an operator with its operand.
* `Selection.parse` — the clauses of a raw filter, in its order.
-/

namespace Keyset

/-- One clause of a filter. -/
inductive Clause where
  /-- The field equals a value. -/
  | exact (field value : Value)
  /-- The field has one of some values. -/
  | membership (field : Value) (values : List Value)
  /-- The field matches an operand as the operator says. -/
  | pattern (field operator value : Value)
  deriving Inhabited

namespace Clause

/-- The field of a clause. -/
def field : Clause → Value
  | .exact f _ => f
  | .membership f _ => f
  | .pattern f _ _ => f

/-- The clause of a match specification. A descriptor is a record or a mapping with
operator and value; anything that is no specification has no operator. -/
def ofSpecification (field : Value) : Value → Clause
  | .str s => .exact field (.str s)
  | .list (.str s :: rest) => .membership field (.str s :: rest)
  | .tuple (.str s :: rest) => .membership field (.str s :: rest)
  | .record .matchFilter fields =>
      .pattern field ((Value.field? fields "operator").getD .null)
        ((Value.field? fields "value").getD .null)
  | .mapping entries =>
      .pattern field ((Entries.field? entries "operator").getD .null)
        ((Entries.field? entries "value").getD .null)
  | v => .pattern field .null v

end Clause

/-- A filter that has been read. -/
structure Selection where
  clauses : List Clause := []
  /-- Whether deleted documents count. -/
  withDeleted : Bool := false
  deriving Inhabited

namespace Selection

/-- Whether a value is exactly true. -/
def isTrue : Value → Bool
  | .bool b => b
  | _ => false

/-- Read the entries of a raw filter. The control key sets whether deleted documents
count, to true only if its value is exactly true. -/
def ofEntries (controlKey : Value) : List (Value × Value) → Selection → Except Failure Selection
  | [], spec => .ok spec
  | (key, value) :: rest, spec =>
      if key.sameKey controlKey then
        ofEntries controlKey rest { spec with withDeleted := isTrue value }
      else do
        let _ ← Field.validate key
        ofEntries controlKey rest
          { spec with clauses := spec.clauses ++ [Clause.ofSpecification key value] }

/-- Read a raw filter. An absent or empty one has no clauses. -/
def parse (filters controlKey : Value) : Except Failure Selection :=
  if !filters.truthy then .ok {}
  else match filters with
    | .mapping entries => ofEntries controlKey entries {}
    | _ => .error .noAttribute

end Selection

end Keyset
