import Keyset.Proofs.Cursor.RoundTrip
import Keyset.Proofs.Page.Metrics
import Keyset.Proofs.Store

/-!
# Keyset — queries over an ideal store

A query is a repository over an ideal store with a direction, a page size and a
filter; what changes from page to page is the cursor alone. Over documents with dates, a
cursor stands for a bound: the date after which the documents of its page come.

* `Query` — the query; `Query.fetch` — one request, `Query.limit` — its page size.
* `Query.PagesByDate` — what is assumed of configuration, filter and documents.
* `Query.remaining` — the documents after a bound; `Query.nodes` — those on the page.
* `Query.overDates` — queries for which the assumptions hold.
-/

namespace Keyset

/-- A query that is answered page by page. -/
structure Query where
  repository : Repository
  store : Store
  /-- Ascending queries go forward, descending ones backward. -/
  order : SortOrder
  /-- The page size that is asked for. -/
  size : Int
  filters : Option (List (String × Value))
  /-- The field that holds the dates. -/
  field : String
  /-- What the filter compiles to. -/
  expression : Value

namespace Query

variable (q : Query)

/-! ## Requests -/

/-- The request for the page at a cursor: forward from `after`, or backward from
`before`. -/
def request (cursor : Option String) : Request :=
  match q.order with
  | .asc => { first := some q.size, after := cursor, filters := q.filters }
  | .desc => { last := some q.size, before := cursor, filters := q.filters }

/-- The page at a cursor, or the failure. -/
def fetch (cursor : Option String) : Except Failure Page :=
  (q.repository.fetch (q.request cursor).toValue .null q.store.execute).page.result

/-- The page size that is served. -/
def limit : Int :=
  match q.repository.config.maxPageSize with
  | some m => min q.size m
  | none => q.size

/-- The codec of the repository's cursors. -/
def codec : Codec := ⟨q.repository.config.secretKey, q.repository.config.tzAware⟩

/-- The compiler of the repository's filters. -/
def compiler : Compiler := Session.compiler { (default : Session) with config := q.repository.config }

/-- What is assumed of a query: the cursor field is a safe key without dots, its kind is
`Date`, dates are read as naive ones, page sizes are positive, the filter compiles, and
every document that it selects holds a date whose cursor opens. Page numbers pass through
doubles, which end at `2 ^ 1024`; the number of documents stays away from that. -/
structure PagesByDate : Prop where
  configured : Field.nameFault? q.repository.config.cursorField = none
  field_eq : Repository.orConfigured q.repository.cursorField q.repository.config.cursorField =
    .str q.field
  safe : Field.nameFault? q.field = none
  undotted : '.' ∉ q.field.toList
  kind_eq : Repository.orConfigured q.repository.cursorType q.repository.config.cursorType =
    .str "Date"
  naive : q.repository.config.tzAware = false
  positive : 1 ≤ q.size
  maxPageSize : ∀ m, q.repository.config.maxPageSize = some m → 1 ≤ m
  keys : ∀ fs, q.filters = some fs → (fs.map (·.1)).Nodup
  compiled : (q.compiler.compileRaw (.ofOption .object q.filters)).result = .ok q.expression
  dated : ∀ d ∈ q.store.matching q.expression, ∃ t, HoldsDate q.field d t
  opens : ∀ d ∈ q.store.matching q.expression, ∀ t, HoldsDate q.field d t →
    q.codec.Opens (Decimal.text (Timestamp.ofDateTime t))
  length_le : (q.store.matching q.expression).length ≤ 2 ^ 1000

/-! ## Documents -/

/-- The date of a document. -/
def dateOf (document : Value) : Option DateTime :=
  match valueAt (.str q.field) document with
  | .datetime t => some t
  | _ => none

/-- The selected documents in the order of the query. -/
def results : List Value := q.store.sorted q.expression (.str q.field) q.order

/-- Whether a document comes after a bound; all do if there is none. -/
def isAfter (bound : Option DateTime) (document : Value) : Bool :=
  match bound with
  | none => true
  | some t => !q.store.order.notAfter q.order (valueAt (.str q.field) document) (.datetime t)

/-- The documents after a bound. -/
def remaining (bound : Option DateTime) : List Value := q.results.filter (q.isAfter bound)

/-- The documents of the page after a bound. -/
def nodes (bound : Option DateTime) : List Value := (q.remaining bound).take q.limit.toNat

/-- The bound at which the page after a bound ends. -/
def lastDate (bound : Option DateTime) : Option DateTime :=
  (q.nodes bound).getLast?.bind q.dateOf

/-- The edge of a document. -/
def edge (document : Value) : Edge := ⟨(q.dateOf document).map q.codec.cursorOf, document⟩

/-- The page after a bound, with its metadata. -/
def page (bound : Option DateTime) (info : PageInfo) : Page :=
  Page.ofEdges ((q.nodes bound).map q.edge) info

variable {q} {bound : Option DateTime} {info : PageInfo}

theorem nodes_page : (q.page bound info).edges.map (·.node) = q.nodes bound := by
  simp only [page, Page.ofEdges, List.map_map]
  exact List.map_id _

/-- The cursor at the end of a page is that of its last document. -/
theorem endCursor_page :
    (q.page bound info).endCursor = (q.lastDate bound).map q.codec.cursorOf := by
  simp only [page, Page.ofEdges, lastDate, List.getLast?_map]
  cases (q.nodes bound).getLast? <;> rfl

theorem remaining_none : q.remaining none = q.results := List.filter_eq_self.mpr fun _ _ => rfl

/-! ## Bounds -/

/-- The bounds that a walk meets: none, or the date of a result. -/
def IsBound (q : Query) (bound : Option DateTime) : Prop :=
  ∀ t, bound = some t → ∃ d ∈ q.results, HoldsDate q.field d t

theorem isBound_none : q.IsBound none := by
  intro t ht
  cases ht

namespace PagesByDate

variable (h : q.PagesByDate)

include h

/-- Every result holds its date. -/
theorem exists_holdsDate {d : Value} (hd : d ∈ q.results) :
    ∃ t, HoldsDate q.field d t ∧ q.dateOf d = some t := by
  obtain ⟨t, ht⟩ := h.dated d (Store.mem_sorted.mp hd)
  refine ⟨t, ht, ?_⟩
  simp only [dateOf, ht.valueAt_eq h.undotted]

theorem limit_pos : 0 < q.limit := by
  have hpositive := h.positive
  rw [limit]
  split
  next m hm =>
    have := h.maxPageSize m hm
    omega
  next => omega

end PagesByDate

/-! ## Dates in the default configuration -/

/-- A query of a repository with nothing configured, over one document for each date. -/
def overDates (dates : List Date) (order : SortOrder) (size : Int) : Query where
  repository := {}
  store :=
    { documents := dates.map fun d => .object [("createdAt", .datetime (.ofDate d))]
      order := .byInstant
      selects := fun _ _ => true
      custom := fun _ documents => documents }
  order
  size
  filters := none
  field := "createdAt"
  expression := Compiler.conjunction [.equals (.str "deletedAt") .null]

@[simp] theorem field_overDates (dates : List Date) (order : SortOrder) (size : Int) :
    (overDates dates order size).field = "createdAt" := rfl

theorem matching_overDates (dates : List Date) (order : SortOrder) (size : Int) :
    (overDates dates order size).store.matching (overDates dates order size).expression =
      dates.map fun d => .object [("createdAt", .datetime (.ofDate d))] :=
  List.filter_eq_self.mpr fun _ _ => rfl

/-- The document of a date holds midnight of that date. -/
theorem holdsDate_ofDate (d : Date) :
    HoldsDate "createdAt" (.object [("createdAt", .datetime (.ofDate d))]) (.ofDate d) where
  entry := ⟨_, rfl, rfl⟩
  naive := rfl
  whole := by
    simp only [DateTime.epochMicros, DateTime.ofDate, TimeOfDay.midnight, Option.map_none,
      Option.getD_none, DateTime.epochDay, dayMicros]
    omega

theorem undotted_createdAt : '.' ∉ "createdAt".toList := by decide

/-- Different dates are different positions. -/
theorem nodup_overDates {dates : List Date} (h : dates.Nodup) (order : SortOrder) (size : Int) :
    (((overDates dates order size).store.matching (overDates dates order size).expression).map
      (valueAt (.str (overDates dates order size).field))).Nodup := by
  rw [matching_overDates, List.map_map, field_overDates]
  refine h.map fun d e hde => ?_
  simp only [Function.comp, (holdsDate_ofDate _).valueAt_eq undotted_createdAt] at hde
  injection hde with hdate
  exact congrArg DateTime.date hdate

theorem pagesByDate_overDates {dates : List Date} (hLength : dates.length ≤ 2 ^ 64)
    (order : SortOrder) {size : Int} (hSize : 1 ≤ size) :
    (overDates dates order size).PagesByDate where
  configured := show Field.nameFault? "createdAt" = none by decide
  field_eq := rfl
  safe := show Field.nameFault? "createdAt" = none by decide
  undotted := undotted_createdAt
  kind_eq := rfl
  naive := rfl
  positive := hSize
  maxPageSize := nofun
  keys := nofun
  compiled := rfl
  -- every document is made of a date, which is what it holds
  dated := by
    intro document h
    rw [matching_overDates, List.mem_map] at h
    obtain ⟨d, -, rfl⟩ := h
    exact ⟨_, holdsDate_ofDate d⟩
  opens _ _ _ _ := Codec.opens_of_unsigned rfl _
  length_le := by
    rw [matching_overDates, List.length_map]
    omega

end Query

end Keyset
