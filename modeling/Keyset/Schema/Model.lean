import Keyset.Page.Basic
import Keyset.Schema.Config
import Keyset.Schema.Request

/-!
# Keyset — models

All models of the library, by name: what they accept, what becomes of an
assignment to one of their fields, and what they look like to a client.

* `Model.instantiate` — checked data as an instance.
* `Instance.assign` — set a field, without checking the value.
* `Instance.dump` — the fields by name, or by the names that clients see.
-/

namespace Keyset

/-- The models. -/
inductive Model where
  | config
  | matchFilter
  | request
  | counts
  | pageInfo
  | edge
  | pageResult
  deriving DecidableEq, Repr, Inhabited

namespace Model

/-- All models. -/
def all : List Model := [.config, .matchFilter, .request, .counts, .pageInfo, .edge, .pageResult]

/-- The name of a model. -/
def name : Model → String
  | .config => "PaginationConfig"
  | .matchFilter => "MatchFilter"
  | .request => "PaginationRequest"
  | .counts => "Counts"
  | .pageInfo => "PageInfo"
  | .edge => "Edge"
  | .pageResult => "PageResult"

/-- The model with a name. -/
def ofName? (s : String) : Option Model := all.find? (·.name == s)

/-- Whether instances of a model cannot be changed. -/
def frozen (m : Model) : Bool := m == .pageInfo

end Model

/-- A field of an instance: its name, the name that clients see, and its value under
either kind of names. -/
structure Slot where
  name : String
  outer : String
  value : Bool → Value

/-- An instance of a model. -/
structure Instance where
  model : Model
  slots : List Slot

namespace Instance

/-- A field that clients see under its own name. -/
def slot (f : String × Value) : Slot := ⟨f.1, f.1, fun _ => f.2⟩

/-- The fields of page metadata. -/
def infoSlots (p : PageInfo) : List Slot :=
  [⟨"has_next_page", "hasNextPage", fun _ => .bool p.hasNextPage⟩,
    ⟨"has_previous_page", "hasPreviousPage", fun _ => .bool p.hasPreviousPage⟩,
    ⟨"total_page", "totalPage", fun _ => .int p.totalPage⟩,
    ⟨"total_results", "totalResults", fun _ => .int p.totalResults⟩,
    ⟨"current_page", "currentPage", fun _ => .int p.currentPage⟩]

/-- Fields under one kind of names. -/
def dumpSlots (slots : List Slot) (byAlias : Bool) : Value :=
  .object (slots.map fun s => (if byAlias then s.outer else s.name, s.value byAlias))

/-- The fields of an edge. -/
def edgeSlots (e : Edge) : List Slot :=
  [slot ("cursor", .ofOption .str e.cursor), slot ("node", e.node.plain)]

/-- The fields of a page. -/
def pageSlots (p : Page) : List Slot :=
  [slot ("edges", .list (p.edges.map Edge.toValue)),
    ⟨"page_info", "pageInfo", dumpSlots (infoSlots p.pageInfo)⟩,
    ⟨"start_cursor", "startCursor", fun _ => .ofOption .str p.startCursor⟩,
    ⟨"end_cursor", "endCursor", fun _ => .ofOption .str p.endCursor⟩]

/-- The names under which an instance tells about itself. -/
def derivedNames : List String := ["model_extra", "model_fields_set"]

/-- Set a field. Names that start with an underscore are not fields and are not
shown; what an instance tells about itself cannot be set. -/
def assign (i : Instance) (name : String) (value : Value) : Except Failure Instance :=
  if name.toList.head? = some '_' then .ok i
  else if i.model.frozen then .error (.rejected [⟨[.name name], .frozenInstance⟩])
  else if derivedNames.contains name then .error .noAttribute
  else if i.slots.any (·.name == name) then
    .ok { i with slots := i.slots.map fun s =>
      if s.name == name then { s with value := fun _ => value.plain } else s }
  else .error (.value (.noSuchField i.model.name name))

/-- The fields under one kind of names. -/
def dump (i : Instance) (byAlias : Bool) : Value := dumpSlots i.slots byAlias

end Instance

/-- Check data and build the instance of a model. -/
def Model.instantiate (m : Model) (data : Value) : Except Failure Instance :=
  let plainSlots (fields : List (String × Value)) : List Slot :=
    fields.map fun f => Instance.slot (f.1, f.2.plain)
  let build {α : Type} (c : Check α) (slots : α → List Slot) : Except Failure Instance := do
    return ⟨m, slots (← c.run)⟩
  match m with
  | .config => build (Check.mapping Config.ofEntries data) fun c => plainSlots c.fields
  | .matchFilter =>
      build (Check.model .matchFilter MatchFilter.ofEntries data) fun c => plainSlots c.fields
  | .request => build (Request.check data) fun c => plainSlots c.fields
  | .counts => build (Counts.check data) fun c => plainSlots c.fields
  | .pageInfo => build (Check.mapping PageInfo.ofEntries data) Instance.infoSlots
  | .edge => build (Check.mapping Edge.ofEntries data) Instance.edgeSlots
  | .pageResult => build (Check.mapping Page.ofEntries data) Instance.pageSlots

end Keyset
