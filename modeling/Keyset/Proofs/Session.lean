import Keyset.Proofs.Page.Metrics
import Keyset.Proofs.Pipeline

/-!
# Keyset — what an accepted request says of its session

A session carries everything that its request asked for, and nothing else: the request, put
to the repository again, gives the same session. The request for the next page differs
from it in the cursor alone, and so does the session of that request.

* `Request.followUp` — the request for the page after a cursor.
* `Request.size`, `Request.bound` — the page size and the cursor that a request asks for.
* `Repository.Starts` — the sessions of a repository; `starts_of_session` and
  `session_of_starts`.
* `Session.result_pipelineOn` — the pipeline of a session on either side of its cursor.
* `Session.pipeline_eq_ok` — what a session's pipeline is, if there is one.
* `Session.edges_eq_ok` — the edges of a page.
* `Repository.result_finish` — the page of an answer.
-/

namespace Keyset

/-! ## Requests -/

/-- The request for the page after a cursor: the same request with that cursor, on the side it
paginates from. -/
def Request.followUp (r : Request) (cursor : String) : Request :=
  if r.first.isSome then { r with after := some cursor } else { r with before := some cursor }

section FollowUp

variable (r : Request) (cursor : String)

theorem Request.filters_followUp : (r.followUp cursor).filters = r.filters := by
  rw [followUp]
  split <;> rfl

theorem Request.first_followUp : (r.followUp cursor).first = r.first := by
  rw [followUp]
  split <;> rfl

theorem Request.last_followUp : (r.followUp cursor).last = r.last := by
  rw [followUp]
  split <;> rfl

/-- A cursor that is not empty bounds the follow-up request. -/
theorem Session.boundOf_followUp {cursor : String} (h : cursor ≠ "") :
    Session.boundOf (r.followUp cursor) = some cursor := by
  rw [Session.boundOf, r.first_followUp cursor, Request.followUp]
  cases r.first <;> simp [Option.filter, h]

end FollowUp

/-- The request that a value stands for; an absent one asks for nothing in particular. -/
def Request.ofValue : Value → Except Failure Request
  | .null => .ok {}
  | v => (check v).run

/-- A session starts from the request that a value stands for. -/
theorem Session.start_eq (config : Config) (request : Value) :
    Session.start config request = Request.ofValue request >>= Session.ofRequest config := by
  cases request <;> rfl

/-- The fields that a request filters have different names. -/
theorem Request.nodup_filters_ofValue {v : Value} {request : Request} (h : ofValue v = .ok request) :
    ∀ fs, request.filters = some fs → (fs.map (·.1)).Nodup := by
  unfold ofValue at h
  split at h
  · -- an absent request filters nothing
    obtain rfl := Except.ok.inj h
    exact nofun
  · exact nodup_filters h

/-- The page size that a request asks for: that of the first documents, or else that of the last
ones, or else the default. -/
def Request.size (config : Config) (r : Request) : Int :=
  match r.first, r.last with
  | some n, _ => n
  | none, some n => n
  | none, none => config.defaultPageSize

/-- The cursor that a request starts from: `after` one where the first documents are asked for,
`before` one otherwise. An empty cursor is none. -/
def Request.bound (r : Request) : Option String :=
  let given := match r.first with
    | some _ => r.after
    | none => r.before
  if given = some "" then none else given

/-- A session takes the size that its request asks for. -/
theorem Session.requestedSize_eq (config : Config) (r : Request) :
    Session.requestedSize config r = r.size config := by
  rw [Session.requestedSize, Request.size]
  cases r.first <;> cases r.last <;> rfl

/-- And it takes the cursor that its request starts from. -/
theorem Session.boundOf_eq (r : Request) : Session.boundOf r = r.bound := by
  have hfilter (given : Option String) :
      given.filter (!·.isEmpty) = if given = some "" then none else given := by
    cases given with
    | none => rfl
    | some cursor => by_cases h : cursor = "" <;> simp [Option.filter, h]
  rw [Session.boundOf, Request.bound, hfilter]
  cases r.first <;> rfl

/-- A request never starts from an empty cursor. -/
theorem Request.bound_ne_empty (r : Request) : r.bound ≠ some "" := by
  have hgiven (given : Option String) : (if given = some "" then none else given) ≠ some "" := by
    split
    · exact (Option.some_ne_none "").symm
    · assumption
  exact hgiven _

/-- And so no session does. -/
theorem Session.boundOf_ne_empty (r : Request) : Session.boundOf r ≠ some "" := by
  rw [Session.boundOf_eq]
  exact r.bound_ne_empty

/-! ## Sessions -/

namespace Repository

/-- The sessions that a repository starts: page size, direction and cursor are what the
request asks for, and the field and its kind are the repository's own, or the configured
ones. The configured field is checked even where it is not used. -/
structure Starts (r : Repository) (s : Session) : Prop where
  keys : ∀ fs, s.request.filters = some fs → (fs.map (·.1)).Nodup
  limit : Session.clampLimit r.config (.int (Session.requestedSize r.config s.request)) = .ok s.limit
  configured : ∃ name, Field.validate (.str r.config.cursorField) = .ok name
  field : Field.validate (orConfigured r.cursorField r.config.cursorField) = .ok s.field
  kind : CursorKind.ofValue (orConfigured r.cursorType r.config.cursorType) = .ok s.kind
  rest : s = { s with
    config := r.config
    order := Session.orderOf s.request
    cursor := Session.boundOf s.request
    pageInfo := none
    pipelineRequested := false }

variable {r : Repository} {s : Session}

/-- A checked request that was accepted is that of a session. -/
theorem starts_of_ofRequest (checked : Request) {start : Session}
    (hKeys : ∀ fs, checked.filters = some fs → (fs.map (·.1)).Nodup)
    (hStart : Session.ofRequest r.config checked = .ok start)
    (hSet : start.setCursor (orConfigured r.cursorField r.config.cursorField)
      (orConfigured r.cursorType r.config.cursorType) = (s, .ok ())) : r.Starts s := by
  obtain ⟨limit, hlimit, hStart⟩ := except_bind_eq_ok.mp hStart
  obtain ⟨name, hname, hStart⟩ := except_bind_eq_ok.mp hStart
  obtain rfl := Except.ok.inj hStart
  rw [Session.setCursor] at hSet
  -- a field or a kind that was refused would have been reported
  split at hSet
  · cases hSet
  · next field hfield =>
    split at hSet
    · cases hSet
    · next kind hkind =>
      obtain rfl := (Prod.mk.inj hSet).1
      exact ⟨hKeys, hlimit, ⟨name, hname⟩, hfield, hkind, rfl⟩

/-- **Every session is started from its request.** -/
theorem starts_of_session {request : Value} (h : r.session request = .ok s) : r.Starts s := by
  obtain ⟨start, hstart, hset⟩ := except_bind_eq_ok.mp h
  have hset : start.setCursor (orConfigured r.cursorField r.config.cursorField)
      (orConfigured r.cursorType r.config.cursorType) = (s, .ok ()) := by
    obtain ⟨⟨⟩, hresult, hs⟩ := except_bind_eq_ok.mp hset
    exact Prod.ext (Except.ok.inj hs) hresult
  rw [Session.start_eq] at hstart
  obtain ⟨checked, hchecked, hstart⟩ := except_bind_eq_ok.mp hstart
  exact starts_of_ofRequest checked (Request.nodup_filters_ofValue hchecked) hstart hset

/-- **The request of a session starts it again.** -/
theorem session_of_starts (h : r.Starts s) : r.session s.request.toValue = .ok s := by
  have hcheck : (Request.check s.request.toValue).run = .ok s.request := by
    rw [Request.check_toValue h.keys]
    rfl
  have hstart : Session.start r.config s.request.toValue = Session.ofRequest r.config s.request := by
    rw [Session.start_eq, show Request.ofValue s.request.toValue = .ok s.request from hcheck,
      except_ok_bind]
  obtain ⟨name, hname⟩ := h.configured
  rw [session, hstart, Session.ofRequest, h.limit, hname]
  simp only [except_ok_bind, except_pure, Session.setCursor, h.field, h.kind]
  exact congrArg Except.ok h.rest.symm

end Repository

/-- The session of the follow-up request. -/
def Session.followUp (s : Session) (cursor : String) : Session :=
  { s with request := s.request.followUp cursor, cursor := some cursor }

namespace Repository

variable {r : Repository} {s : Session} (h : r.Starts s)

include h

theorem Starts.cursor_ne_empty : s.cursor ≠ some "" := by
  rw [h.rest]
  exact Session.boundOf_ne_empty _

/-- The follow-up request is accepted as well: the cursor is all that changes. -/
theorem Starts.followUp {cursor : String} (hCursor : cursor ≠ "") : r.Starts (s.followUp cursor) where
  keys fs hfs := h.keys fs ((s.request.filters_followUp cursor).symm.trans hfs)
  limit := by
    -- the number of documents is asked for at the same end
    have hsize : Session.requestedSize r.config (s.followUp cursor).request =
        Session.requestedSize r.config s.request := by
      rw [Session.requestedSize, Session.requestedSize, Session.followUp,
        s.request.first_followUp, s.request.last_followUp]
    rw [hsize]
    exact h.limit
  configured := h.configured
  field := h.field
  kind := h.kind
  rest := by
    have horder : Session.orderOf (s.followUp cursor).request = Session.orderOf s.request := by
      rw [Session.orderOf, Session.orderOf, Session.followUp, s.request.first_followUp]
    have hbound : Session.boundOf (s.followUp cursor).request = some cursor :=
      Session.boundOf_followUp _ hCursor
    rw [horder, hbound]
    conv_lhs => rw [Session.followUp, h.rest]
    rfl

/-- **The session of the follow-up request** is the same one at another cursor. -/
theorem Starts.session_followUp {cursor : String} (hCursor : cursor ≠ "") :
    r.session (s.request.followUp cursor).toValue = .ok (s.followUp cursor) := by
  have hsession := session_of_starts (h.followUp hCursor)
  exact hsession

end Repository

/-! ## Pipelines -/

namespace Session

/-- The pipeline of a page: filtered, sorted, and branched at the value of the cursor. -/
def pages (s : Session) (expression : Value) (bound : Option Value) : Pipeline :=
  Pipeline.filterStage expression ++
    [.sort (.str s.field) s.order,
      .facet (Pipeline.branches
        (bound.map fun v => ⟨.str s.field, Bound.ofOrder s.order false, v⟩) s.limit)]

/-- What the filters of a session compile to. -/
def compiled (s : Session) : Except Failure Value :=
  (s.compiler.compileRaw (.ofOption .object s.request.filters)).result

variable {s : Session} {expression : Value}

/-- The pipeline of a page on either side of the cursor, behind the stages of a caller. -/
def pagesOn (s : Session) (expression : Value) (stages : List Value) (reverse : Bool)
    (bound : Option Value) : Pipeline :=
  Pipeline.filterStage expression ++ (Pipeline.clean stages).map .custom ++
    [.sort (.str s.field) s.order,
      .facet (Pipeline.branches
        (bound.map fun v => ⟨.str s.field, Bound.ofOrder s.order reverse, v⟩) s.limit)]

/-- Without stages of the caller, the pipeline on the unread side is that of a page. -/
theorem pagesOn_unread (bound : Option Value) :
    s.pagesOn expression [] false bound = s.pages expression bound := by
  rw [pagesOn, Pipeline.clean, List.filter_nil, List.map_nil, List.append_nil, pages]

section

variable {bound : Option Value} (hCompiled : s.compiled = .ok expression) (hLimit : 0 < s.limit)
  (hReads : Cursor.Reads s.codec s.position bound)

include hCompiled hLimit hReads

/-- The pipeline of a session whose cursor is read, on either side of it. -/
theorem result_pipelineOn (stages : Option (List Value)) (reverse : Bool) :
    (s.pipeline (.ofOption .list stages) reverse).result =
      .ok (s.pagesOn expression (stages.getD []) reverse bound) := by
  rw [compiled] at hCompiled
  rw [pipeline, Outcome.result_bind, hCompiled, except_ok_bind, pagesOn]
  exact Pipeline.result_build hLimit rfl (Pipeline.result_cursorRange hReads rfl s.order reverse)
    (Pipeline.supplied_ofOption stages)

/-- The pipeline of a session whose cursor is read. -/
theorem result_pipeline :
    (s.pipeline .null false).result = .ok (s.pages expression bound) := by
  rw [← pagesOn_unread]
  exact result_pipelineOn hCompiled hLimit hReads none false

end

/-- The failure of a session whose cursor is refused. -/
theorem result_pipeline_error {f : Failure} (hCompiled : s.compiled = .ok expression)
    (hLimit : 0 < s.limit) (hPresent : s.position.value.truthy = true)
    (hDecode : (s.codec.decode s.kind s.position.value).result = .error f) :
    (s.pipeline .null false).result = .error f := by
  rw [compiled] at hCompiled
  rw [pipeline, Outcome.result_bind, hCompiled, except_ok_bind]
  have hrange : (Pipeline.cursorRange s.codec s.position (.str s.order.text) false).result =
      .error f := by
    simp only [Pipeline.cursorRange, hPresent, Bool.not_true, Bool.false_eq_true, if_false,
      Outcome.result_bind]
    rw [show (s.codec.decode s.position.kind s.position.value).result = .error f from hDecode]
    rfl
  simp only [Pipeline.build, Outcome.result_bind, Outcome.result_liftM, Limit.validate,
    if_pos hLimit, hrange, except_ok_bind, except_error_bind]

/-- A session that has a pipeline has a positive page size. -/
theorem limit_pos_of_pipeline {stages : Value} {reverse : Bool} {p : Pipeline}
    (h : (s.pipeline stages reverse).result = .ok p) : 0 < s.limit := by
  rw [pipeline, Outcome.result_bind] at h
  obtain ⟨expression, -, h⟩ := except_bind_eq_ok.mp h
  rw [Pipeline.build, Outcome.result_bind, Outcome.result_liftM] at h
  obtain ⟨limit, hlimit, -⟩ := except_bind_eq_ok.mp h
  exact (Limit.validate_eq_ok hlimit).2

/-- **What a session's pipeline is**, if there is one: its filters compile, its page size is
positive and its cursor is absent or read. -/
theorem pipeline_eq_ok {p : Pipeline} (h : (s.pipeline .null false).result = .ok p) :
    ∃ expression bound, s.compiled = .ok expression ∧ 0 < s.limit ∧
      Cursor.Reads s.codec s.position bound ∧ p = s.pages expression bound := by
  have hall := h
  have hpos := limit_pos_of_pipeline h
  rw [pipeline, Outcome.result_bind] at h
  obtain ⟨expression, hcompiled, h⟩ := except_bind_eq_ok.mp h
  rw [Pipeline.build, Outcome.result_bind, Outcome.result_liftM] at h
  obtain ⟨limit, -, h⟩ := except_bind_eq_ok.mp h
  rw [Outcome.result_bind] at h
  obtain ⟨range, hrange, -⟩ := except_bind_eq_ok.mp h
  -- a cursor that is there was read on the way to the range
  obtain ⟨bound, hreads⟩ : ∃ bound, Cursor.Reads s.codec s.position bound := by
    by_cases hpresent : s.position.value.truthy = true
    · simp only [Pipeline.cursorRange, hpresent, Bool.not_true, Bool.false_eq_true, if_false,
        Outcome.result_bind] at hrange
      obtain ⟨v, hv, -⟩ := except_bind_eq_ok.mp hrange
      exact ⟨some v, hpresent, hv⟩
    · exact ⟨none, Bool.eq_false_iff.mpr hpresent⟩
  exact ⟨expression, bound, hcompiled, hpos, hreads,
    Except.ok.inj (hall.symm.trans (result_pipeline hcompiled hpos hreads))⟩

/-! ## Pages -/

/-- The metadata of a session: without a cursor all documents are unread. -/
theorem result_metadata (s : Session) (counts : Counts) :
    (s.metadata counts).result = Metrics.compute (.int counts.total)
      (.int (if s.cursor.isSome then counts.cursored else counts.total)) (.int counts.current)
      s.limit s.order := by
  -- the debug entry after the computation does not touch its result
  have hreturn (x : Except Failure PageInfo) : (x >>= fun info => .ok info) = x := by
    cases x <;> rfl
  rw [metadata]
  split <;>
    simp only [Outcome.result_bind, Outcome.result_emit, Outcome.result_pure, Outcome.result_liftM,
      except_ok_bind, hreturn]

/-- The edges of documents have their cursors. -/
theorem edges_eq_ok {documents : List Value} {edges : List Edge}
    (h : s.edges documents = .ok edges) : edges.map (·.node) = documents ∧
      ∀ e ∈ edges, s.documentCursor e.node = .ok e.cursor := by
  induction documents generalizing edges with
  | nil =>
    obtain rfl := Except.ok.inj h
    exact ⟨rfl, nofun⟩
  | cons d rest ih =>
    rw [Session.edges] at h
    obtain ⟨cursor, hcursor, h⟩ := except_bind_eq_ok.mp h
    obtain ⟨others, hothers, h⟩ := except_bind_eq_ok.mp h
    obtain rfl := Except.ok.inj h
    obtain ⟨hnodes, hcursors⟩ := ih hothers
    refine ⟨by rw [List.map_cons, hnodes], fun e he => ?_⟩
    rcases List.mem_cons.mp he with rfl | he
    · exact hcursor
    · exact hcursors e he

/-- The edges of documents depend on their cursors alone. -/
theorem edges_congr {s t : Session} (h : t.documentCursor = s.documentCursor) : t.edges = s.edges := by
  funext documents
  induction documents with
  | nil => rfl
  | cons d rest ih => rw [edges, edges, ih, h]

/-- They do not depend on the metadata that a session holds. -/
theorem edges_pageInfo (s : Session) (info : Option PageInfo) (documents : List Value) :
    { s with pageInfo := info }.edges documents = s.edges documents := by
  have hedges : { s with pageInfo := info }.edges = s.edges := edges_congr rfl
  rw [hedges]

end Session

/-- **The page of an answer.** The metadata follows from the numbers of all documents, of the
unread ones and of those on the page, and the edges from the documents on the page. -/
theorem Repository.result_finish {store : Store} {s : Session} {documents : List Value}
    {range : Option Range} (hCursor : s.cursor.isSome = range.isSome) :
    (finish s (.object (store.facet documents range s.limit))).result =
      Metrics.compute (.int documents.length) (.int (store.inRange range documents).length)
          (.int ((store.inRange range documents).take s.limit.toNat).length) s.limit s.order >>=
        fun info => (s.edges ((store.inRange range documents).take s.limit.toNat)).map fun edges =>
          Page.ofEdges edges info := by
  -- the unread documents are counted in the range, or in total if there is none
  have hunread : (if s.cursor.isSome then
        ((if range.isSome then (store.inRange range documents).length else 0 : Nat) : Int)
      else documents.length) = (store.inRange range documents).length := by
    rw [hCursor]
    cases range <;> rfl
  rw [finish, Outcome.result_bind, Outcome.result_liftM, Store.counts_facet, except_ok_bind,
    Outcome.result_bind, Session.result_metadata, hunread]
  refine congrArg _ (funext fun info => ?_)
  simp only [Outcome.result_bind, Outcome.result_emit, Outcome.result_liftM, except_ok_bind,
    Store.documents_facet, Session.page, Value.elements, Session.edges_pageInfo]
  rfl

end Keyset
