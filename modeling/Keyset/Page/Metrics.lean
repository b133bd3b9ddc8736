import Keyset.Number.Basic
import Keyset.Page.Info
import Keyset.Page.Order

/-!
# Keyset — page arithmetic

The metadata of a page follows from three counters: the documents that match the
filter, those of them on the unread side of the cursor, and those on the page.

* `Metrics.compute` — the metadata for given counters.
* `Metrics.ofValues` — the same for unchecked values.
-/

namespace Keyset.Metrics

/-- The integer that a total is; a total that is no integer is reported as one. -/
def totalResults : Number → Except Failure Int
  | .int n => .ok n
  | .float x => ((Check.integerOfDouble x).within [.name "total_results"]).run

/-- The number of the page that holds the first unread document, after `previous`
documents, counted from the start of the query. -/
def pageAfter (previous : Number) (limit : Int) : Except Failure Int :=
  if previous.isPositive then do
    let quotient ← previous.floorDiv (.int limit)
    (← quotient.add (.int 1)).roundHalfUp
  else .ok 1

/-- The number of pages that `total` documents fill. -/
def pageCount (total : Number) (limit : Int) : Except Failure Int :=
  if total.isPositive then do (← total.ceilDiv (.int limit)).roundHalfUp else .ok 0

/-- The metadata of a page. The page size must be positive; a descending query
numbers its pages from the end. -/
def compute (total cursored current : Number) (size : Int) (order : SortOrder) :
    Except Failure PageInfo := do
  let limit ← Limit.validate (.int size)
  let previous ← total.sub cursored
  let unread ← total.sub (← current.add previous)
  let totalPage ← pageCount total limit
  let page ← pageAfter previous limit
  let currentPage ← match order with
    | .asc => Except.ok page
    | .desc => (Number.int (totalPage - page + 1)).roundHalfUp
  let results ← totalResults total
  return ⟨unread.isPositive, previous.isPositive, totalPage, results, currentPage⟩

/-- A number, or the failure of arithmetic on something else. -/
def operand (v : Value) : Except Failure Number :=
  match Number.ofValue? v with
  | some n => .ok n
  | none => .error .wrongType

/-- The metadata of a page for unchecked counters, size and order. -/
def ofValues (total cursored current limit order : Value) : Except Failure PageInfo := do
  let limit ← Limit.validate limit
  let order ← SortOrder.ofValue order
  let total ← operand total
  let cursored ← operand cursored
  let _ ← total.sub cursored
  let current ← operand current
  compute total cursored current limit order

end Keyset.Metrics
