import Keyset.Error.Report

/-!
# Keyset — sort order and page size

* `SortOrder` — ascending or descending.
* `Limit.validate` — a page size is a positive integer.
-/

namespace Keyset

/-- The direction of a query. -/
inductive SortOrder where
  | asc
  | desc
  deriving DecidableEq, Repr, Inhabited

namespace SortOrder

/-- The written order. -/
def text : SortOrder → String
  | .asc => "ASC"
  | .desc => "DESC"

/-- The direction in a sort stage. -/
def direction : SortOrder → Int
  | .asc => 1
  | .desc => -1

/-- The order that a value names. -/
def ofValue (v : Value) : Except Failure SortOrder :=
  match v with
  | .str "ASC" => .ok .asc
  | .str "DESC" => .ok .desc
  | _ => do
      let q ← v.quoted
      .error (.value (.notSortOrder q))

end SortOrder

/-- A page size, if it is a positive integer. A truth value is no integer here. -/
def Limit.validate : Value → Except Failure Int
  | .int n => if 0 < n then .ok n else raise (.invalidLimit (.int n))
  | v => raise (.invalidLimit v)

end Keyset
