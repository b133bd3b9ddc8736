import Keyset.Page.Info

/-!
# Keyset — pages

A page of documents: each document with its cursor, the metadata, and the cursors
of the first and the last document.
-/

namespace Keyset

/-- A document with its cursor. -/
structure Edge where
  cursor : Option String := none
  node : Value := .null
  deriving Inhabited

/-- A page. -/
structure Page where
  edges : List Edge
  pageInfo : PageInfo
  startCursor : Option String
  endCursor : Option String
  deriving Inhabited

mutual
/-- A value with every record as the mapping of its fields. -/
def Value.plain : Value → Value
  | .list items => .list (plainAll items)
  | .tuple items => .tuple (plainAll items)
  | .mapping entries => .mapping (plainEntries entries)
  | .record _ fields => .mapping (plainFields fields)
  | v => v

/-- All values of a list without records. -/
def plainAll : List Value → List Value
  | [] => []
  | v :: rest => v.plain :: plainAll rest

/-- The entries of a mapping without records. -/
def plainEntries : List (Value × Value) → List (Value × Value)
  | [] => []
  | (k, v) :: rest => (k, v.plain) :: plainEntries rest

/-- The fields of a record as entries without records. -/
def plainFields : List (String × Value) → List (Value × Value)
  | [] => []
  | (name, v) :: rest => (.str name, v.plain) :: plainFields rest
end

namespace Edge

/-- Check the fields of an edge. -/
def ofEntries (es : List (Value × Value)) : Check Edge :=
  Edge.mk
    <$> Check.field es "cursor" (Check.nullable Check.text) none
    <*> Check.field es "node" Check.good .null

/-- The value of an edge. -/
def toValue (e : Edge) : Value :=
  .object [("cursor", .ofOption .str e.cursor), ("node", e.node.plain)]

end Edge

namespace Page

/-- Check the fields of a page. -/
def ofEntries (es : List (Value × Value)) : Check Page :=
  Page.mk
    <$> Check.field es "edges" (Check.list (Check.mapping Edge.ofEntries)) []
    <*> Check.aliased es "pageInfo" "page_info" (Check.mapping PageInfo.ofEntries) none
    <*> Check.aliased es "startCursor" "start_cursor" (Check.nullable Check.text) (some none)
    <*> Check.aliased es "endCursor" "end_cursor" (Check.nullable Check.text) (some none)

/-- The value of a page, under the names that clients see. -/
def toValue (p : Page) : Value :=
  .object [("edges", .list (p.edges.map Edge.toValue)), ("pageInfo", p.pageInfo.toValue),
    ("startCursor", .ofOption .str p.startCursor), ("endCursor", .ofOption .str p.endCursor)]

/-- The page of some edges. -/
def ofEdges (edges : List Edge) (info : PageInfo) : Page :=
  { edges
    pageInfo := info
    startCursor := edges.head?.bind (·.cursor)
    endCursor := edges.getLast?.bind (·.cursor) }

end Page

end Keyset
