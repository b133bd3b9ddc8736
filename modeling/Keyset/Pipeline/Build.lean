import Keyset.Cursor.Codec
import Keyset.Pipeline.Stage
import Keyset.Value.Elements

/-!
# Keyset — building pipelines

* `Pipeline.build` — the pipeline of one page.
* `Pipeline.clean` — empty stages are dropped.
-/

namespace Keyset

/-- The position of a page: the cursor field, its kind, and the cursor itself. -/
structure Cursor where
  field : Value := .str "createdAt"
  kind : CursorKind := .date
  value : Value := .null
  deriving Inhabited

namespace Pipeline

/-! ## Supplied stages -/

/-- The stages that are not empty. -/
def clean (stages : List Value) : List Value := stages.filter Value.truthy

/-- The stages that a caller supplies, none if there is nothing. -/
def supplied (stages : Value) : Except Failure (List Stage) := do
  let items ← if stages.truthy then stages.elements else .ok []
  return (clean items).map .custom

/-! ## Stages of a page -/

/-- The name under which pipelines are logged. -/
def logger : String := "docpager.pagination.pipeline"

/-- The range of a cursor; none without a cursor. -/
def cursorRange (codec : Codec) (cursor : Cursor) (order : Value) (reverse : Bool) :
    Outcome (Option Range) :=
  if !cursor.value.truthy then pure none
  else do
    let value ← codec.decode cursor.kind cursor.value
    let order ← SortOrder.ofValue order
    return some (← Range.ofCursor cursor.field value order reverse)

/-- The branches of a page: its documents, the count of all documents, and with a
cursor the count of those on its side. -/
def branches (range : Option Range) (limit : Int) : List (String × List BranchStage) :=
  match range with
  | none => [("current", [.limit limit]), ("total", [.count])]
  | some r =>
      [("current", [.range r, .limit limit]), ("total", [.count]),
        ("cursored", [.range r, .count])]

/-- The stage that sorts by a field, if it can be a key. -/
def sortStage (field : Value) (order : SortOrder) : Except Failure Stage :=
  if field.hashable then .ok (.sort field order) else .error .wrongType

/-- The filter stage; none for an empty expression. -/
def filterStage (expression : Value) : List Stage :=
  if expression.truthy then [.filter expression] else []

/-- The pipeline of a page. -/
def build (codec : Codec) (expression : Value) (cursor : Cursor) (order limit : Value)
    (stages : Value) (reverse : Bool) (sortField : Value) : Outcome Pipeline := do
  let limit ← Limit.validate limit
  let range ← cursorRange codec cursor order reverse
  let custom ← supplied stages
  let direction ← SortOrder.ofValue order
  let sort ← sortStage (if sortField.truthy then sortField else cursor.field) direction
  let pipeline : Pipeline :=
    filterStage expression ++ custom ++ [sort, .facet (branches range limit)]
  Outcome.emit ⟨logger, .debug, "Built pagination pipeline",
    [("stages", .int pipeline.length), ("field", cursor.field), ("order", .str direction.text),
      ("cursored", .bool range.isSome)]⟩
  return pipeline

/-! ## Unchecked cursors -/

/-- The names of the parts of a cursor. -/
def cursorParts : List String := ["field", "type", "value"]

/-- The pipeline of a page whose cursor is given by its parts. The kind is read only
if there is a cursor to decode. -/
def buildFrom (codec : Codec) (expression : Value) (parts : List (String × Value))
    (order limit : Value) (stages : Value) (reverse : Bool) (sortField : Value) :
    Outcome Pipeline := do
  let part (name : String) (default : Value) : Value := (Value.field? parts name).getD default
  if parts.any fun p => !cursorParts.contains p.1 then Outcome.ofExcept (.error .wrongType)
  else
    let _ ← Limit.validate limit
    let value := part "value" .null
    let kind ← if value.truthy then CursorKind.ofValue (part "type" (.str "Date"))
      else pure CursorKind.date
    build codec expression ⟨part "field" (.str "createdAt"), kind, value⟩ order limit stages
      reverse sortField

end Pipeline

end Keyset
