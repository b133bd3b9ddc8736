import Keyset.Proofs.Query
import Keyset.Proofs.Session

/-!
# Keyset — one page of a query

The page of a cursor in closed form. `PagesByDate.fetch_eq` goes through the request as the
engine does: it checks the request, compiles the filter, decodes the cursor, builds and
runs the pipeline, reads the counters, and encodes the cursors of the page.

* `Query.session` — the session of a request, `PagesByDate.session_eq`.
* `Query.range` — the range of a cursor, `PagesByDate.pipeline_eq`.
* `Query.metadata` — the metadata of a page, `PagesByDate.result_finish`.
* `PagesByDate.fetch_eq` — the page of the cursor of a bound.
-/

namespace Keyset

namespace Query

variable {q : Query} {bound : Option DateTime}

/-! ## Sessions -/

/-- The session of the request at a cursor. -/
def session (q : Query) (cursor : Option String) : Session where
  config := q.repository.config
  request := q.request cursor
  order := q.order
  limit := q.limit
  field := q.field
  kind := .date
  cursor := cursor

/-- The request asks for the size, the direction and the cursor of the query. -/
theorem request_parts {cursor : Option String} (hCursor : cursor ≠ some "") :
    Session.requestedSize q.repository.config (q.request cursor) = q.size ∧
      Session.orderOf (q.request cursor) = q.order ∧
      Session.boundOf (q.request cursor) = cursor := by
  have hfilter : cursor.filter (!·.isEmpty) = cursor := by
    cases cursor with
    | none => rfl
    | some c =>
      have hne : c ≠ "" := fun hc => hCursor (congrArg some hc)
      simp [hne]
  unfold request
  cases q.order with
  | asc => exact ⟨rfl, rfl, hfilter⟩
  | desc => exact ⟨rfl, rfl, hfilter⟩

theorem filters_request {cursor : Option String} : (q.request cursor).filters = q.filters := by
  unfold request
  cases q.order <;> rfl

namespace PagesByDate

variable (h : q.PagesByDate)

include h

/-- The request passes its check, and its session is that of the query. -/
theorem session_eq {cursor : Option String} (hCursor : cursor ≠ some "") :
    q.repository.session (q.request cursor).toValue = .ok (q.session cursor) := by
  obtain ⟨hsize, horder, hbound⟩ := request_parts (q := q) hCursor
  -- the request is a record that was checked before
  have hcheck : (Request.check (q.request cursor).toValue).run = .ok (q.request cursor) := by
    rw [Request.check_toValue (by rw [filters_request]; exact h.keys)]
    rfl
  have hpos : 0 < q.size := h.positive
  have hlimit : Session.clampLimit q.repository.config (.int q.size) = .ok q.limit := by
    rw [Session.clampLimit, Limit.validate, if_pos hpos]
    rfl
  -- the configured field is checked first, even where the repository has its own
  have hconfigured : Field.validate (.str q.repository.config.cursorField) =
      .ok q.repository.config.cursorField := by
    simp only [Field.validate, h.configured]
  have hsafe : Field.validate (.str q.field) = .ok q.field := by
    simp only [Field.validate, h.safe]
  have hstart : Session.start q.repository.config (q.request cursor).toValue =
      Session.ofRequest q.repository.config (q.request cursor) := by
    change (Request.check (q.request cursor).toValue).run >>= _ = _
    rw [hcheck]
    rfl
  -- then the repository's field and kind take the place of the configured ones
  rw [Repository.session, hstart, Session.ofRequest, hsize, hlimit, hconfigured, horder, hbound]
  simp only [except_ok_bind, except_pure, Session.setCursor, h.field_eq, hsafe, h.kind_eq,
    CursorKind.ofValue]
  rfl

end PagesByDate

/-! ## Pipelines -/

/-- The range of the documents after a bound. -/
def range (q : Query) (bound : Option DateTime) : Option Range :=
  bound.map fun t => ⟨.str q.field, Bound.ofOrder q.order false, .datetime t⟩

namespace PagesByDate

variable (h : q.PagesByDate)

include h

/-- The cursor of a bound gives back its range. -/
theorem cursorRange_eq (hBound : q.IsBound bound) :
    (Pipeline.cursorRange q.codec (q.session (bound.map q.codec.cursorOf)).position
      (.str q.order.text) false).result = .ok (q.range bound) := by
  have hreads : Cursor.Reads q.codec (q.session (bound.map q.codec.cursorOf)).position
      (bound.map .datetime) := by
    cases bound with
    | none => rfl
    | some t =>
      obtain ⟨d, hd, ht⟩ := hBound t rfl
      -- this is where the round trip of the codec is needed
      refine ⟨?_, Codec.decode_cursorOf ht.naive ht.whole h.naive
        (h.opens d (Store.mem_sorted.mp hd) t ht)⟩
      simp [Session.position, session, Value.ofOption, Value.truthy, Codec.cursorOf_ne_empty]
  rw [Pipeline.result_cursorRange hreads rfl, range, Option.map_map]
  rfl

/-- The pipeline after a bound filters, sorts, and branches at its range. -/
theorem pipeline_eq (hBound : q.IsBound bound) :
    ((q.session (bound.map q.codec.cursorOf)).pipeline .null false).result =
      .ok (Pipeline.filterStage q.expression ++
        [.sort (.str q.field) q.order, .facet (Pipeline.branches (q.range bound) q.limit)]) := by
  -- a session compiles with its configuration alone, whatever its cursor
  have hcompiled : ((q.session (bound.map q.codec.cursorOf)).compiler.compileRaw
      (.ofOption .object (q.session (bound.map q.codec.cursorOf)).request.filters)).result =
      .ok q.expression := by
    rw [show (q.session (bound.map q.codec.cursorOf)).request.filters = q.filters from
      filters_request]
    exact h.compiled
  have hstages : Pipeline.supplied .null = .ok [] := rfl
  rw [Session.pipeline, Outcome.result_bind, hcompiled, except_ok_bind,
    ← List.append_nil (Pipeline.filterStage q.expression)]
  exact Pipeline.result_build h.limit_pos rfl (h.cursorRange_eq hBound) hstages

end PagesByDate

/-! ## Answers -/

/-- The metadata of the page after a bound: what its counters give. -/
def metadata (q : Query) (bound : Option DateTime) : Except Failure PageInfo :=
  Metrics.compute (.int q.results.length) (.int (q.remaining bound).length)
    (.int (q.nodes bound).length) q.limit q.order

namespace PagesByDate

variable (h : q.PagesByDate)

include h

/-- The range of a bound holds the documents after it. -/
theorem inRange_eq : q.store.inRange (q.range bound) q.results = q.remaining bound := by
  cases bound with
  | none => exact remaining_none.symm
  | some t =>
    -- two dates always belong together, so the range compares them
    refine List.filter_congr fun d hd => ?_
    obtain ⟨u, hu, -⟩ := h.exists_holdsDate hd
    rw [Range.admits_ofOrder, ValueOrder.onSide, isAfter, hu.valueAt_eq h.undotted,
      ValueOrder.belongsWith_datetime, Bool.true_and, beq_false]

/-- A session of the query gives documents their edges. -/
theorem edges_eq {s : Session} (hField : s.field = q.field) (hKind : s.kind = .date)
    (hCodec : s.codec = q.codec) {documents : List Value} (hResults : documents ⊆ q.results) :
    s.edges documents = .ok (documents.map q.edge) := by
  induction documents with
  | nil => rfl
  | cons d rest ih =>
    rw [List.cons_subset] at hResults
    obtain ⟨t, ht, hdate⟩ := h.exists_holdsDate hResults.1
    have hcursor : s.documentCursor d = .ok (some (q.codec.cursorOf t)) := by
      rw [Session.documentCursor, hField, ht.resolve_eq, hKind, hCodec, except_ok_bind]
      simp only [Codec.encode_datetime, except_ok_bind, except_pure]
    rw [Session.edges, hcursor, except_ok_bind, ih hResults.2, except_ok_bind, List.map_cons, edge,
      hdate]
    rfl

/-- The counters of an answer give the metadata of the page. -/
theorem result_metadata_eq {s : Session} (hLimit : s.limit = q.limit)
    (hOrder : s.order = q.order) (hCursor : s.cursor = bound.map q.codec.cursorOf)
    {counts : Counts}
    (hCounts : Aggregate.counts (.object (q.store.facet q.results (q.range bound) q.limit)) =
      .ok counts) : (s.metadata counts).result = q.metadata bound := by
  rw [Store.counts_facet, h.inRange_eq] at hCounts
  obtain rfl := Except.ok.inj hCounts
  rw [Session.result_metadata, hLimit, hOrder, hCursor, metadata, nodes]
  cases bound with
  -- without a cursor nothing is counted as unread, and the total stands in
  | none => rw [remaining_none]; rfl
  | some t => rfl

/-- A session of the query turns the answer for a bound into its page. -/
theorem result_finish {s : Session} (hLimit : s.limit = q.limit)
    (hOrder : s.order = q.order) (hField : s.field = q.field) (hKind : s.kind = .date)
    (hCodec : s.codec = q.codec) (hCursor : s.cursor = bound.map q.codec.cursorOf) :
    (Repository.finish s (.object (q.store.facet q.results (q.range bound) q.limit))).result =
      (q.metadata bound).map (q.page bound) := by
  obtain ⟨counts, hcounts⟩ : ∃ counts, Aggregate.counts
      (.object (q.store.facet q.results (q.range bound) q.limit)) = .ok counts :=
    ⟨_, Store.counts_facet⟩
  rw [Repository.finish, Outcome.result_bind, Outcome.result_liftM, hcounts, except_ok_bind,
    Outcome.result_bind, h.result_metadata_eq hLimit hOrder hCursor hcounts]
  cases q.metadata bound with
  | error f => rfl
  | ok info =>
    have hnodes : q.nodes bound ⊆ q.results := fun d hd =>
      List.mem_of_mem_filter (List.mem_of_mem_take hd)
    -- the edges do not depend on the metadata that the session now holds
    have hedges := h.edges_eq (s := { s with pageInfo := some info }) hField hKind hCodec hnodes
    rw [nodes, ← h.inRange_eq] at hedges
    simp only [Outcome.result_bind, Outcome.result_emit, Outcome.result_liftM, except_ok_bind,
      Store.documents_facet, Session.page, Value.elements, hedges]
    rw [h.inRange_eq]
    rfl

/-- **One page of a query.** The cursor of a bound is answered by the documents after the
bound, as many as the page size allows, with the metadata of their numbers. -/
theorem fetch_eq (hBound : q.IsBound bound) :
    q.fetch (bound.map q.codec.cursorOf) = (q.metadata bound).map (q.page bound) := by
  have hcursor : bound.map q.codec.cursorOf ≠ some "" := by
    cases bound with
    | none => nofun
    | some t => exact fun hc => q.codec.cursorOf_ne_empty t (Option.some.inj hc)
  have hpipeline := h.pipeline_eq hBound
  rw [fetch, Repository.fetch, h.session_eq hcursor]
  simp only [hpipeline, Outcome.result_bind, Outcome.result_liftM, except_ok_bind,
    Store.execute_page]
  -- what is left is the answer of the store, read by the session
  exact h.result_finish rfl rfl rfl rfl rfl rfl

end PagesByDate

end Query

end Keyset
