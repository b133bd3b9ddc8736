import Keyset.Proofs.Cursor.Signing
import Keyset.Proofs.Session

/-!
# Keyset — a page that has a next one leads to it

A client follows a query by putting the end cursor of one page into the request for the next.
Whether there is a next page follows from counters alone; whether the end cursor can be used
depends on the last document. Where that document has nothing at the cursor field, or an empty
text that is not signed, the page ends in no cursor at all, and following it leads back to
the first page. In every other case the follow-up request stands at its cursor, which it
either reads or, if it is a timestamp without a date, refuses.

* `Value.isPosition` — what may stand at a cursor field.
* `Session.documentCursor_eq_ok` — the cursor of a document.
* `Session.Answers` — what an answer says of its page, `Repository.answers_of_fetch`.
* `Repository.fetch_continues` — where the end cursor of a page leads.
-/

namespace Keyset

/-! ## Cursors of values -/

/-- What may stand at a cursor field: nothing, a text, or a date with a time. -/
def Value.isPosition : Value → Bool
  | .null | .str _ | .datetime _ => true
  | _ => false

/-- The text of a date with a time has its dashes. -/
theorem DateTime.display_ne_empty (t : DateTime) : t.display ≠ "" := by
  intro h
  have hlist := congrArg String.toList h
  simp [DateTime.display, Date.display] at hlist

/-- An empty text is no date. -/
theorem Timestamp.ofValue_empty (millis : Int) : ofValue (.str "") ≠ .ok millis := by
  have hread : ∃ fault, ofValue (.str "") = .error fault := ⟨_, rfl⟩
  obtain ⟨fault, hfault⟩ := hread
  rw [hfault]
  nofun

namespace Codec

variable {c : Codec} {kind : CursorKind} {v : Value} {text : String}

/-- Signed texts are not empty: a token has its dot. -/
theorem write_ne_empty_of_signed (h : c.signed = true) (text : String) : c.write text ≠ "" := by
  rw [signed, Option.isSome_iff_exists] at h
  obtain ⟨secret, hsecret⟩ := h
  intro hempty
  have hlist := congrArg String.toList hempty
  simp [write, hsecret, Token.sign, Token.asciiText] at hlist

/-- The only value with an empty text is the empty text, where it passes through. -/
theorem position_eq_empty_iff (hPosition : v.isPosition = true) (hNull : v ≠ .null)
    (h : position kind v = .ok text) : text = "" ↔ v = .str "" := by
  by_cases hKind : kind = .date
  · subst hKind
    -- a timestamp has digits, and an empty text is no timestamp
    obtain ⟨millis, -, -, rfl⟩ := position_date h
    refine iff_of_false (Decimal.text_ne_empty millis) ?_
    rintro rfl
    cases hmillis : Timestamp.ofValue (.str "") with
    | ok n => exact Timestamp.ofValue_empty n hmillis
    | error fault =>
      rw [position, hmillis] at h
      exact raise_ne_ok _ _ h
  · have hdisplay : (v.display : Except Failure String) = .ok text := by
      cases kind with
      | date => exact absurd rfl hKind
      | string => exact h
      | other name => exact h
    cases v with
    | str s =>
      obtain rfl : s = text := Except.ok.inj hdisplay
      exact ⟨fun h => congrArg Value.str h, fun h => Value.str.inj h⟩
    | datetime t =>
      obtain rfl : t.display = text := Except.ok.inj hdisplay
      exact iff_of_false t.display_ne_empty (by simp)
    | null => exact absurd rfl hNull
    | _ => cases hPosition

/-- **Which cursors are empty**: that of the empty text, if it is not signed. -/
theorem write_ne_empty_iff (hPosition : v.isPosition = true) (hNull : v ≠ .null)
    (h : position kind v = .ok text) :
    c.write text ≠ "" ↔ (v = .str "" → c.signed = true) := by
  cases hsigned : c.signed with
  | true => exact iff_of_true (c.write_ne_empty_of_signed hsigned text) fun _ => rfl
  | false =>
    have hwrite : c.write text = text := by
      rw [signed, Option.isSome_eq_false_iff, Option.isNone_iff_eq_none] at hsigned
      rw [write, hsigned]
    rw [hwrite, Ne, position_eq_empty_iff hPosition hNull h]
    simp

end Codec

/-- The cursor of a document: none if it has nothing at the field, else its text, signed. -/
theorem Session.documentCursor_eq_ok {s : Session} {d v : Value} {cursor : Option String}
    (hResolve : Field.resolve d (.str s.field) = .ok v) (h : s.documentCursor d = .ok cursor) :
    (v = .null ∧ cursor = none) ∨
      (v ≠ .null ∧ ∃ text, Codec.position s.kind v = .ok text ∧
        cursor = some (s.codec.write text)) := by
  rw [documentCursor, hResolve, except_ok_bind] at h
  by_cases hnull : v = .null
  · subst hnull
    exact Or.inl ⟨rfl, (Except.ok.inj h).symm⟩
  · -- every other value is given to the codec, which may refuse it
    have h : s.codec.encode s.kind v >>= (fun c => .ok (some c)) = .ok cursor := by
      cases v with
      | null => exact absurd rfl hnull
      | _ => exact h
    obtain ⟨c, hc, hcursor⟩ := except_bind_eq_ok.mp h
    rw [Codec.encode_eq] at hc
    cases htext : Codec.position s.kind v with
    | error f =>
      rw [htext] at hc
      cases hc
    | ok text =>
      rw [htext] at hc
      obtain rfl := Except.ok.inj hc
      exact Or.inr ⟨hnull, text, rfl, (Except.ok.inj hcursor).symm⟩

/-! ## Answered requests -/

/-- What an answer says of its page. The page holds the first of the unread documents with
their cursors, and its metadata says that there is a next page exactly if some of these
documents are left over. -/
structure Session.Answers (s : Session) (unread : List Value) (page : Page) : Prop where
  nodes : page.edges.map (·.node) = unread.take s.limit.toNat
  hasNextPage : page.pageInfo.hasNextPage = true ↔ s.limit.toNat < unread.length
  cursors : ∀ e ∈ page.edges, s.documentCursor e.node = .ok e.cursor
  endCursor : page.endCursor = page.edges.getLast?.bind (·.cursor)

/-- A page that has a next one ends with an unread document, and with its cursor. -/
theorem Session.Answers.exists_last {s : Session} {unread : List Value} {page : Page}
    (h : s.Answers unread page) (hLimit : 0 < s.limit) (hNext : page.pageInfo.hasNextPage = true) :
    ∃ last, page.edges.getLast? = some last ∧ page.endCursor = last.cursor ∧
      last.node ∈ unread ∧ s.documentCursor last.node = .ok last.cursor := by
  -- documents are left over, so the page is as long as its size, which is not zero
  have hnonempty : page.edges ≠ [] := by
    intro hempty
    have hlength := congrArg List.length h.nodes
    rw [hempty, List.map_nil, List.length_nil, List.length_take] at hlength
    have := h.hasNextPage.mp hNext
    omega
  have hmem := List.getLast_mem hnonempty
  refine ⟨_, List.getLast?_eq_some_getLast hnonempty, ?_, ?_, h.cursors _ hmem⟩
  · rw [h.endCursor, List.getLast?_eq_some_getLast hnonempty, Option.bind_some]
  · refine List.mem_of_mem_take (i := s.limit.toNat) ?_
    rw [← h.nodes]
    exact List.mem_map_of_mem hmem

/-- The documents that come after a cursor, in the order of a session. -/
def Session.unread (s : Session) (store : Store) (expression : Value) (bound : Option Value) :
    List Value :=
  store.inRange (bound.map fun v => ⟨.str s.field, Bound.ofOrder s.order false, v⟩)
    (store.sorted expression (.str s.field) s.order)

/-- Unread documents are documents of the store. -/
theorem Session.unread_subset (s : Session) (store : Store) (expression : Value)
    (bound : Option Value) : s.unread store expression bound ⊆ store.documents := by
  intro d hd
  have hsorted : d ∈ store.sorted expression (.str s.field) s.order := by
    cases bound with
    | none => exact hd
    | some v => exact List.mem_of_mem_filter hd
  rw [Store.mem_sorted, Store.matching] at hsorted
  split at hsorted
  · exact List.mem_of_mem_filter hsorted
  · exact hsorted

namespace Repository

variable {r : Repository} {store : Store} {request : Value} {s : Session} {page : Page}

/-- The counters of an answer fit its documents. -/
theorem answers_of_finish {documents : List Value} {range : Option Range}
    (hCursor : s.cursor.isSome = range.isSome)
    (h : (finish s (.object (store.facet documents range s.limit))).result = .ok page) :
    s.Answers (store.inRange range documents) page := by
  rw [result_finish hCursor] at h
  obtain ⟨info, hinfo, h⟩ := except_bind_eq_ok.mp h
  cases hedges : s.edges ((store.inRange range documents).take s.limit.toNat) with
  | error f =>
    rw [hedges] at h
    cases h
  | ok edges =>
    rw [hedges] at h
    obtain rfl := Except.ok.inj h
    obtain ⟨hnodes, hcursors⟩ := Session.edges_eq_ok hedges
    refine ⟨hnodes, ?_, hcursors, rfl⟩
    change info.hasNextPage = true ↔ _
    -- a next page is there just when the counter says more than the page has
    rw [(Metrics.neighbours_of_compute hinfo).1, decide_eq_true_iff, List.length_take]
    omega

/-- A cursor that is read is one that the session has. -/
theorem Starts.isSome_cursor (hStarts : r.Starts s) {bound : Option Value}
    (h : Cursor.Reads s.codec s.position bound) : s.cursor.isSome = bound.isSome := by
  cases hcursor : s.cursor with
  | none =>
    cases bound with
    | none => rfl
    | some v =>
      have hpresent := h.1
      rw [Session.position, hcursor] at hpresent
      cases hpresent
  | some c =>
    cases bound with
    | none =>
      -- a session never keeps an empty cursor, which alone would stand for no bound
      have hne : c ≠ "" := fun hc => hStarts.cursor_ne_empty (hc ▸ hcursor)
      have habsent : (Value.str c).truthy = false := by
        rw [Cursor.Reads, Session.position, hcursor] at h
        exact h
      simp [Value.truthy, hne] at habsent
    | some v => rfl

/-- The answer to a request whose session has a pipeline is read by the session. -/
theorem result_fetch {expression : Value} {bound : Option Value}
    (hSession : r.session request = .ok s) (hCompiled : s.compiled = .ok expression)
    (hLimit : 0 < s.limit) (hReads : Cursor.Reads s.codec s.position bound) :
    (r.fetch request .null store.execute).page.result =
      (finish { s with pipelineRequested := true } (.object (store.facet
        (store.sorted expression (.str s.field) s.order)
        (bound.map fun v => ⟨.str s.field, Bound.ofOrder s.order false, v⟩) s.limit))).result := by
  rw [fetch, hSession]
  simp only [Session.result_pipeline hCompiled hLimit hReads, Outcome.result_bind,
    Outcome.result_liftM, except_ok_bind, Session.pages, Store.execute_page]

/-- **What an answered request says of its page**: its session has a pipeline, which read its
cursor, and the page is that of the unread documents. -/
theorem answers_of_fetch (hSession : r.session request = .ok s)
    (h : (r.fetch request .null store.execute).page.result = .ok page) :
    ∃ expression bound, s.compiled = .ok expression ∧ 0 < s.limit ∧
      s.Answers (s.unread store expression bound) page := by
  cases hpipeline : (s.pipeline .null false).result with
  | error f =>
    rw [fetch, hSession] at h
    simp only [hpipeline] at h
    cases h
  | ok p =>
    obtain ⟨expression, bound, hcompiled, hlimit, hreads, -⟩ := Session.pipeline_eq_ok hpipeline
    rw [result_fetch hSession hcompiled hlimit hreads] at h
    have hcursor := (starts_of_session hSession).isSome_cursor hreads
    -- whether the pipeline was requested makes a difference for the log alone
    have hanswers : Session.Answers { s with pipelineRequested := true }
        (s.unread store expression bound) page :=
      answers_of_finish (by rw [Option.isSome_map]; exact hcursor) h
    exact ⟨expression, bound, hcompiled, hlimit, hanswers.nodes, hanswers.hasNextPage,
      hanswers.cursors, hanswers.endCursor⟩

/-! ## Follow-up requests -/

/-- **What the follow-up request of a cursor does.** It stands at the cursor, and its pipeline
has a range unless the cursor is a timestamp without a date, which is refused. -/
theorem result_pipeline_followUp {expression v : Value} {text : String}
    (hCompiled : s.compiled = .ok expression) (hLimit : 0 < s.limit)
    (hText : Codec.position s.kind v = .ok text) (hWrite : s.codec.write text ≠ "") :
    (∃ w, ((s.followUp (s.codec.write text)).pipeline .null false).result =
        .ok (s.pages expression (some w))) ∨
      (s.kind = .date ∧
        (∃ millis, Timestamp.ofValue v = .ok millis ∧
          Timestamp.toDateTime? millis s.config.tzAware = none) ∧
        ∃ e : EngineError, ((s.followUp (s.codec.write text)).pipeline .null false).result =
          .error (.engine e) ∧ e.kind = .invalidCursor) := by
  -- the request that follows has the same filters, and its cursor is there
  have hcompiled : (s.followUp (s.codec.write text)).compiled = .ok expression := by
    rw [Session.compiled, Session.followUp, s.request.filters_followUp]
    exact hCompiled
  have hpresent : (s.followUp (s.codec.write text)).position.value.truthy = true := by
    simp [Session.position, Session.followUp, Value.ofOption, Value.truthy, hWrite]
  by_cases hKind : s.kind = .date
  · -- a date is written in milliseconds in UTC, where its offset may carry it out of the calendar
    rw [hKind] at hText
    obtain ⟨millis, hmillis, hdigits, rfl⟩ := Codec.position_date hText
    have hdecode := s.codec.decode_write_timestamp hdigits
    rw [← hKind] at hdecode
    cases hdate : Timestamp.toDateTime? millis s.config.tzAware with
    | some t =>
      rw [show s.codec.aware = s.config.tzAware from rfl, hdate] at hdecode
      exact Or.inl ⟨_, Session.result_pipeline hcompiled hLimit ⟨hpresent, hdecode⟩⟩
    | none =>
      rw [show s.codec.aware = s.config.tzAware from rfl, hdate] at hdecode
      exact Or.inr ⟨hKind, ⟨millis, hmillis, hdate⟩, _,
        Session.result_pipeline_error hcompiled hLimit hpresent hdecode, rfl⟩
  · refine Or.inl ⟨.str text, Session.result_pipeline hcompiled hLimit ⟨hpresent, ?_⟩⟩
    exact s.codec.decode_write hKind text

/-- **Where the end cursor of a page leads.** A page that has a next one is not empty. Its end
cursor is that of its last document, and it is a text with something in it exactly if the
document holds a value there, other than an empty text that is not signed. The follow-up
request is then accepted and stands at that cursor. Its pipeline has a range at the cursor,
unless the cursor is a timestamp outside of the calendar; it is refused then. -/
theorem fetch_continues (r : Repository) (store : Store) {request : Value} {s : Session}
    {page : Page} (hSession : r.session request = .ok s)
    (hHolds : ∀ d ∈ store.documents,
      ∃ v, Field.resolve d (.str s.field) = .ok v ∧ v.isPosition = true)
    (hPage : (r.fetch request .null store.execute).page.result = .ok page)
    (hNext : page.pageInfo.hasNextPage = true) :
    ∃ last v, page.edges.getLast? = some last ∧ page.endCursor = last.cursor ∧
      Field.resolve last.node (.str s.field) = .ok v ∧
      ((∃ c, page.endCursor = some c ∧ c ≠ "") ↔
        v ≠ .null ∧ (v = .str "" → s.codec.signed = true)) ∧
      ∀ c, page.endCursor = some c → c ≠ "" →
        r.session (s.request.followUp c).toValue = .ok (s.followUp c) ∧
        ((∃ expression w, ((s.followUp c).pipeline .null false).result =
            .ok (s.pages expression (some w))) ∨
          (s.kind = .date ∧
            (∃ millis, Timestamp.ofValue v = .ok millis ∧
              Timestamp.toDateTime? millis s.config.tzAware = none) ∧
            ∃ e : EngineError, ((s.followUp c).pipeline .null false).result =
              .error (.engine e) ∧ e.kind = .invalidCursor)) := by
  obtain ⟨expression, bound, hcompiled, hlimit, hanswers⟩ := answers_of_fetch hSession hPage
  obtain ⟨last, hlast, hend, hunread, hdocument⟩ := hanswers.exists_last hlimit hNext
  obtain ⟨v, hv, hposition⟩ := hHolds _ (s.unread_subset store expression bound hunread)
  refine ⟨last, v, hlast, hend, hv, ?_⟩
  rw [hend]
  -- the last edge has no cursor where its document has no date, and else the one that is written
  obtain ⟨hnull, hcursor⟩ | ⟨hnull, text, htext, hcursor⟩ :=
    Session.documentCursor_eq_ok hv hdocument
  · rw [hcursor]
    exact ⟨iff_of_false (by simp) (by simp [hnull]), nofun⟩
  · rw [hcursor]
    constructor
    · rw [← Codec.write_ne_empty_iff hposition hnull htext]
      simp [hnull]
    · intro c hc hne
      refine ⟨(starts_of_session hSession).session_followUp hne, ?_⟩
      obtain rfl := Option.some.inj hc
      obtain ⟨w, hw⟩ | hrefused := result_pipeline_followUp hcompiled hlimit htext hne
      · exact Or.inl ⟨expression, w, hw⟩
      · exact Or.inr hrefused

/-! ## Pages of one document -/

/-- A store of two documents that compares dates alone. -/
def twoDocuments (first second : Value) : Store where
  documents := [first, second]
  order := .byInstant
  selects := fun _ _ => true
  custom := fun _ documents => documents

/-- The session of a request for one document, in the default configuration. -/
def oneDocument (order : SortOrder) : Session where
  config := {}
  request :=
    match order with
    | .asc => { first := some 1 }
    | .desc => { last := some 1 }
  order
  limit := 1
  field := "createdAt"
  kind := .date
  cursor := none

theorem starts_oneDocument (order : SortOrder) : Starts {} (oneDocument order) := by
  have hvalidate : Field.validate (.str "createdAt") = .ok "createdAt" := by
    simp only [Field.validate, show Field.nameFault? "createdAt" = none by decide]
  cases order <;> exact ⟨nofun, rfl, ⟨_, hvalidate⟩, hvalidate, rfl, rfl⟩

/-- The page has the document that comes first, and leaves the other one. -/
theorem result_fetch_oneDocument {order : SortOrder} {first second : Value} {edge : Edge}
    (hSorted : (twoDocuments first second).sorted
      (Compiler.conjunction [.equals (.str "deletedAt") .null]) (.str "createdAt") order =
        [first, second])
    (hEdges : (oneDocument order).edges [first] = .ok [edge]) :
    (fetch {} (oneDocument order).request.toValue .null
        (twoDocuments first second).execute).page.result =
      .ok (Page.ofEdges [edge] (Metrics.pageInfo 2 2 1 1 order)) := by
  have hfinish := @result_finish (twoDocuments first second)
    { oneDocument order with pipelineRequested := true } [first, second] none rfl
  have hmetadata : Metrics.compute (.int 2) (.int 2) (.int 1) 1 order =
      .ok (Metrics.pageInfo 2 2 1 1 order) :=
    Metrics.compute_int (by decide) 1 (by decide) (by decide) (by decide) order
  change _ = Metrics.compute (.int 2) (.int 2) (.int 1) 1 order >>= fun info =>
    ((oneDocument order).edges [first]).map fun edges => Page.ofEdges edges info at hfinish
  rw [hmetadata, hEdges, ← hSorted] at hfinish
  -- only documents that are not deleted are wanted, in either order
  have hcompiled : (oneDocument order).compiled =
      .ok (Compiler.conjunction [.equals (.str "deletedAt") .null]) := by
    cases order <;> rfl
  have hreads : Cursor.Reads (oneDocument order).codec (oneDocument order).position none := rfl
  rw [result_fetch (session_of_starts (starts_oneDocument order)) hcompiled
    (show 0 < (1 : Int) by decide) hreads]
  exact hfinish

theorem hasNextPage_oneDocument (order : SortOrder) :
    (Metrics.pageInfo 2 2 1 1 order).hasNextPage = true := by
  change decide ((1 : Int) < 2) = true
  decide

/-- A document without a date. -/
def undated (id : Int) : Value := .object [("_id", .int id)]

theorem resolve_undated : Field.resolve (undated 2) (.str "createdAt") = .ok .null := by cbv

/-- **Not every page leads to its next one**: a page of a document without a date says that there
is a next page, and ends in no cursor. -/
theorem exists_page_without_endCursor : ∃ page,
    (fetch {} (oneDocument .asc).request.toValue .null
      (twoDocuments (undated 1) (undated 2)).execute).page.result = .ok page ∧
    page.pageInfo.hasNextPage = true ∧ ¬ ∃ c, page.endCursor = some c ∧ c ≠ "" := by
  have hcursor : (oneDocument .asc).documentCursor (undated 1) = .ok none := by
    rw [Session.documentCursor, show (oneDocument .asc).field = "createdAt" from rfl,
      show Field.resolve (undated 1) (.str "createdAt") = .ok .null by cbv]
    rfl
  have hedges : (oneDocument .asc).edges [undated 1] = .ok [⟨none, undated 1⟩] := by
    rw [Session.edges, hcursor]
    rfl
  refine ⟨_, result_fetch_oneDocument (by cbv) hedges, hasNextPage_oneDocument .asc, ?_⟩
  rintro ⟨c, hc, -⟩
  cases hc

/-- The first day of 2000. -/
def newYear : DateTime := .ofDate ⟨2000, 1, 1, by decide⟩

/-- A document of the first day of 2000. -/
def dated : Value := .object [("createdAt", .datetime newYear)]

theorem resolve_dated : Field.resolve dated (.str "createdAt") = .ok (.datetime newYear) := by cbv

theorem edges_dated :
    (oneDocument .desc).edges [dated] = .ok [⟨some "946684800000", dated⟩] := by
  have hcursor : Codec.cursorOf .plain newYear = "946684800000" := by cbv
  have hdocument : (oneDocument .desc).documentCursor dated = .ok (some "946684800000") := by
    rw [Session.documentCursor, show (oneDocument .desc).field = "createdAt" from rfl,
      resolve_dated, except_ok_bind]
    dsimp only
    rw [show (oneDocument .desc).kind = .date from rfl,
      show (oneDocument .desc).codec = .plain from rfl, Codec.encode_datetime, hcursor]
    rfl
  rw [Session.edges, hdocument]
  rfl

/-- A page that ends with a dated document leads to the page after its date, although the
document that is left has none. -/
theorem fetch_continues_dated : ∃ page,
    Repository.session {} (oneDocument .desc).request.toValue = .ok (oneDocument .desc) ∧
    (∀ d ∈ (twoDocuments dated (undated 2)).documents,
      ∃ v, Field.resolve d (.str "createdAt") = .ok v ∧ v.isPosition = true) ∧
    (fetch {} (oneDocument .desc).request.toValue .null
      (twoDocuments dated (undated 2)).execute).page.result = .ok page ∧
    page.pageInfo.hasNextPage = true ∧ page.endCursor = some "946684800000" ∧
    Repository.session {} ((oneDocument .desc).request.followUp "946684800000").toValue =
      .ok ((oneDocument .desc).followUp "946684800000") ∧
    ∃ expression w, (((oneDocument .desc).followUp "946684800000").pipeline .null false).result =
      .ok ((oneDocument .desc).pages expression (some w)) := by
  have hsession := session_of_starts (starts_oneDocument .desc)
  have hholds : ∀ d ∈ (twoDocuments dated (undated 2)).documents,
      ∃ v, Field.resolve d (.str "createdAt") = .ok v ∧ v.isPosition = true := by
    intro d hd
    rcases List.mem_cons.mp hd with rfl | hd
    · exact ⟨_, resolve_dated, rfl⟩
    · obtain rfl := List.mem_singleton.mp hd
      exact ⟨_, resolve_undated, rfl⟩
  have hsorted : (twoDocuments dated (undated 2)).sorted
      (Compiler.conjunction [.equals (.str "deletedAt") .null]) (.str "createdAt") .desc =
        [dated, undated 2] := by cbv
  have hpage := result_fetch_oneDocument hsorted edges_dated
  have hnext := hasNextPage_oneDocument .desc
  obtain ⟨last, v, hlast, -, hv, -, hfollow⟩ :=
    fetch_continues {} _ hsession hholds hpage hnext
  obtain ⟨hfollowUp, hpipeline⟩ := hfollow "946684800000" rfl (by decide)
  refine ⟨_, hsession, hholds, hpage, hnext, rfl, hfollowUp, ?_⟩
  obtain hpipeline | ⟨-, ⟨millis, hmillis, hdate⟩, -⟩ := hpipeline
  · exact hpipeline
  · -- the first day of 2000 is in the calendar
    obtain rfl := Option.some.inj hlast
    obtain rfl := Except.ok.inj (resolve_dated.symm.trans hv)
    have hnewYear : Timestamp.ofValue (.datetime newYear) = .ok 946684800000 := by cbv
    obtain rfl := Except.ok.inj (hnewYear.symm.trans hmillis)
    have hsome : Timestamp.toDateTime? 946684800000 false ≠ none := by
      cbv
      exact Option.some_ne_none _
    exact absurd hdate hsome

end Repository

end Keyset
