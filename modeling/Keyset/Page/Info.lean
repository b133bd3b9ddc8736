import Keyset.Schema.Check

/-!
# Keyset — page metadata

The metadata of a page, as a connection shows it to its client.
-/

namespace Keyset

/-- The metadata of a page. -/
structure PageInfo where
  hasNextPage : Bool
  hasPreviousPage : Bool
  totalPage : Int
  totalResults : Int
  currentPage : Int
  deriving DecidableEq, Repr, Inhabited

namespace PageInfo

/-- Check the fields of page metadata, by alias or by name. -/
def ofEntries (es : List (Value × Value)) : Check PageInfo :=
  PageInfo.mk
    <$> Check.aliased es "hasNextPage" "has_next_page" Check.boolean none
    <*> Check.aliased es "hasPreviousPage" "has_previous_page" Check.boolean none
    <*> Check.aliased es "totalPage" "total_page" Check.integer none
    <*> Check.aliased es "totalResults" "total_results" Check.integer none
    <*> Check.aliased es "currentPage" "current_page" Check.integer none

/-- The fields under the names that clients see. -/
def toValue (p : PageInfo) : Value :=
  .object [("hasNextPage", .bool p.hasNextPage), ("hasPreviousPage", .bool p.hasPreviousPage),
    ("totalPage", .int p.totalPage), ("totalResults", .int p.totalResults),
    ("currentPage", .int p.currentPage)]

end PageInfo

end Keyset
