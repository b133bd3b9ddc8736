import Keyset.Field
import Keyset.Page.Order

/-!
# Keyset — pipeline stages

A paginated query is one pipeline: a filter, the caller's own stages, a sort, and
a facet that fans out into branches over the sorted documents. A branch bounds
the documents by the cursor, limits them, or counts them.

* `Bound` — on which side of the cursor documents lie.
* `BranchStage`, `Stage` — the stages; `toValue` is the document of a stage.
-/

namespace Keyset

/-- A comparison with the cursor. -/
inductive Bound where
  | gt
  | gte
  | lt
  | lte
  deriving DecidableEq, Repr, Inhabited

namespace Bound

/-- The written operator. -/
def text : Bound → String
  | .gt => "$gt"
  | .gte => "$gte"
  | .lt => "$lt"
  | .lte => "$lte"

/-- The unread side of the cursor lies after it in the order of the query; the
consumed side is the rest, with the cursor itself. -/
def ofOrder (order : SortOrder) (reverse : Bool) : Bound :=
  match order, reverse with
  | .asc, false => .gt
  | .asc, true => .lte
  | .desc, false => .lt
  | .desc, true => .gte

end Bound

/-- A bound on a field. -/
structure Range where
  field : Value
  bound : Bound
  value : Value
  deriving Inhabited

namespace Range

/-- The range on one side of a cursor, if its field can be a key. -/
def ofCursor (field value : Value) (order : SortOrder) (reverse : Bool) : Except Failure Range :=
  if field.hashable then .ok ⟨field, Bound.ofOrder order reverse, value⟩ else .error .wrongType

/-- The document of a range. -/
def toValue (r : Range) : Value := .mapping [(r.field, .object [(r.bound.text, r.value)])]

end Range

/-- A stage of a facet branch. -/
inductive BranchStage where
  | range (r : Range)
  | limit (n : Int)
  | count
  deriving Inhabited

/-- The document of a branch stage. -/
def BranchStage.toValue : BranchStage → Value
  | .range r => .object [("$match", r.toValue)]
  | .limit n => .object [("$limit", .int n)]
  | .count =>
      .object [("$group", .object [("_id", .int 1), ("counter", .object [("$sum", .int 1)])])]

/-- A stage of a pipeline. -/
inductive Stage where
  | filter (expression : Value)
  | custom (stage : Value)
  | sort (field : Value) (order : SortOrder)
  | facet (branches : List (String × List BranchStage))
  deriving Inhabited

/-- The document of a stage. -/
def Stage.toValue : Stage → Value
  | .filter e => .object [("$match", e)]
  | .custom v => v
  | .sort field order => .object [("$sort", .mapping [(field, .int order.direction)])]
  | .facet branches =>
      .object [("$facet", .object (branches.map fun b =>
        (b.1, .list (b.2.map BranchStage.toValue))))]

/-- A pipeline. -/
abbrev Pipeline := List Stage

/-- The documents of a pipeline. -/
def Pipeline.toValue (p : Pipeline) : Value := .list (p.map Stage.toValue)

end Keyset
