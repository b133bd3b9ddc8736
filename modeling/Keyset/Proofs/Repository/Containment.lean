import Keyset.Proofs.Aggregate
import Keyset.Proofs.Cursor.Signing
import Keyset.Proofs.Session.Limit

/-!
# Keyset — which results of the executor escape

The result of the executor is external data of any shape, and it should end in a page or in an
error of the engine. It does, with these exceptions:

* a counter that is no integer has no text, so that it cannot be refused;
* a page number leaves the range of doubles;
* something in the place of a document cannot be searched for the cursor field;
* the value of the cursor field has no text, so that it has no cursor and cannot be refused.

`Session.Escapes` says when they occur, each behind everything that is read before it, and
`Repository.fetch_contained_iff` that these are all, for results whose texts are strings of
Unicode scalar values and whose depth meets no limit. Two more are outside of this: a text with a
lone surrogate has no signed cursor, as it has no UTF-8 form, and a value that nests too deeply
for the limit of a system has no text there.

* `Codec.encode_cases` — how writing a cursor ends.
* `Session.edges_eq_error_iff` — documents fail at the first one that does.
* `Repository.finish_eq_error_iff` — what escapes from an answer.
* `Repository.not_escapes_of_writable` — where nothing does.
-/

namespace Keyset

/-! ## Cursors of documents -/

namespace Codec

/-- A value that has a text can be refused, and no other value can. -/
theorem raise_refusal_value {α : Type} (v : Value) (kind : CursorKind) (reason : String) :
    (raise (refusal v kind reason) : Except Failure α) =
      if v.writable then .error (.engine (refusal v kind reason))
      else .error (.value .writeLimit) := by
  cases hwritable : v.writable with
  | true =>
    obtain ⟨text, htext⟩ := v.writes_display.exists_ok hwritable
    rw [raise, refusal, EngineError.report, htext]
    rfl
  | false =>
    rw [raise, refusal, EngineError.report, v.writes_display.eq_error hwritable]
    rfl

/-- A value that has a position in time has a text. -/
theorem writable_of_millis {v : Value} {millis : Int} (h : Timestamp.ofValue v = .ok millis) :
    v.writable = true := by
  unfold Timestamp.ofValue at h
  split at h
  · rfl
  · rfl
  · rfl
  · cases h

/-- How finding the position of a value ends: a value that has a text has a position or is
refused, and any other one fails for its text. -/
theorem position_cases (kind : CursorKind) (v : Value) :
    (v.writable = true ∧ ((∃ text, position kind v = .ok text) ∨
      ∃ e, position kind v = .error (.engine e))) ∨
    (v.writable = false ∧ position kind v = .error (.value .writeLimit)) := by
  have hdisplay : (v.writable = true ∧ ((∃ text, (liftM v.display : Except Failure String) = .ok text) ∨
      ∃ e, (liftM v.display : Except Failure String) = .error (.engine e))) ∨
      (v.writable = false ∧
        (liftM v.display : Except Failure String) = .error (.value .writeLimit)) := by
    cases hwritable : v.writable with
    | true =>
      obtain ⟨text, htext⟩ := v.writes_display.exists_ok hwritable
      rw [htext]
      exact Or.inl ⟨rfl, Or.inl ⟨text, rfl⟩⟩
    | false =>
      rw [v.writes_display.eq_error hwritable]
      exact Or.inr ⟨rfl, rfl⟩
  cases kind with
  | date =>
    -- milliseconds always have a text; it is the refusal of a value that may have none
    rw [position]
    cases hmillis : Timestamp.ofValue v with
    | ok millis =>
      refine Or.inl ⟨writable_of_millis hmillis, Or.inl ⟨Decimal.text millis, ?_⟩⟩
      dsimp only
      rw [Decimal.render_eq_text (natAbs_ofValue_lt hmillis) (by decide) (by decide)]
      rfl
    | error fault =>
      dsimp only
      rw [raise_refusal_value]
      cases v.writable with
      | true => exact Or.inl ⟨rfl, Or.inr ⟨_, rfl⟩⟩
      | false => exact Or.inr ⟨rfl, rfl⟩
  | string => exact hdisplay
  | other name => exact hdisplay

/-- So does writing a cursor. -/
theorem encode_cases (c : Codec) (kind : CursorKind) (v : Value) :
    (v.writable = true ∧ ((∃ text, c.encode kind v = .ok text) ∨
      ∃ e, c.encode kind v = .error (.engine e))) ∨
    (v.writable = false ∧ c.encode kind v = .error (.value .writeLimit)) := by
  rw [encode_eq]
  obtain ⟨hwritable, ⟨text, htext⟩ | ⟨e, he⟩⟩ | ⟨hwritable, herror⟩ := position_cases kind v
  · exact Or.inl ⟨hwritable, Or.inl ⟨_, by rw [htext]; rfl⟩⟩
  · exact Or.inl ⟨hwritable, Or.inr ⟨e, by rw [he]; rfl⟩⟩
  · exact Or.inr ⟨hwritable, by rw [herror]; rfl⟩

end Codec

namespace Session

variable (s : Session)

/-- What something in the place of a document escapes as: it cannot be searched for the cursor
field, or the value that is found has no text. -/
inductive DocumentEscapes (document : Value) : Failure → Prop where
  | search (h : Field.searchable s.field document = false) : DocumentEscapes document .wrongType
  | write {v : Value} (hResolve : Field.resolve document (.str s.field) = .ok v)
      (hWritable : v.writable = false) : DocumentEscapes document (.value .writeLimit)

/-- How finding the cursor of a document ends, apart from the errors of the engine. -/
theorem documentCursor_eq_error_iff {document : Value} {f : Failure} (hf : ∀ e, f ≠ .engine e) :
    s.documentCursor document = .error f ↔ s.DocumentEscapes document f := by
  rw [documentCursor]
  constructor
  · intro h
    cases hsearchable : Field.searchable s.field document with
    | false =>
      rw [Field.resolve_eq_error hsearchable] at h
      obtain rfl := Except.error.inj h
      exact .search hsearchable
    | true =>
      obtain ⟨v, hv⟩ := Field.exists_resolve hsearchable
      rw [hv, except_ok_bind] at h
      split at h
      · cases h
      · obtain ⟨-, ⟨text, htext⟩ | ⟨e, he⟩⟩ | ⟨hwritable, herror⟩ := s.codec.encode_cases s.kind v
        · rw [htext] at h
          cases h
        · rw [he] at h
          exact absurd (Except.error.inj h).symm (hf e)
        · rw [herror] at h
          obtain rfl := Except.error.inj h
          exact .write hv hwritable
  · rintro (hsearchable | @⟨v, hv, hwritable⟩)
    · rw [Field.resolve_eq_error hsearchable]
      rfl
    · rw [hv, except_ok_bind]
      -- null has a text, so the value is there
      split
      · cases hwritable
      · obtain ⟨htrue, -⟩ | ⟨-, herror⟩ := s.codec.encode_cases s.kind v
        · rw [hwritable] at htrue
          cases htrue
        · rw [herror]
          rfl

/-- The first element of a kind, behind others of another kind, is at the start of a list or in the
rest of it. -/
theorem exists_first_cons {α : Type} {P Q : α → Prop} {a : α} {l : List α} :
    (∃ before x rest, a :: l = before ++ x :: rest ∧ (∀ b ∈ before, P b) ∧ Q x) ↔
      Q a ∨ P a ∧ ∃ before x rest, l = before ++ x :: rest ∧ (∀ b ∈ before, P b) ∧ Q x := by
  constructor
  · rintro ⟨before, x, rest, hsplit, hbefore, hx⟩
    cases before with
    | nil =>
      cases hsplit
      exact Or.inl hx
    | cons b before =>
      cases hsplit
      rw [List.forall_mem_cons] at hbefore
      exact Or.inr ⟨hbefore.1, before, x, rest, rfl, hbefore.2, hx⟩
  · rintro (ha | ⟨ha, before, x, rest, rfl, hbefore, hx⟩)
    · exact ⟨[], a, l, rfl, List.forall_mem_nil _, ha⟩
    · exact ⟨a :: before, x, rest, rfl, List.forall_mem_cons.mpr ⟨ha, hbefore⟩, hx⟩

/-- Documents fail at the first one that does. -/
theorem edges_eq_error_iff {documents : List Value} {f : Failure} :
    s.edges documents = .error f ↔ ∃ before d rest, documents = before ++ d :: rest ∧
      (∀ b ∈ before, ∃ cursor, s.documentCursor b = .ok cursor) ∧ s.documentCursor d = .error f := by
  induction documents with
  | nil => simp [edges]
  | cons d rest ih =>
    rw [edges, exists_first_cons, ← ih]
    -- if the first document is fine, the failure is one of the rest
    cases s.documentCursor d with
    | error g => simp
    | ok cursor => cases s.edges rest <;> simp

/-- A document that is a mapping with a text does not escape. -/
theorem not_documentEscapes_of_writable {entries : List (Value × Value)}
    (h : (Value.mapping entries).writable = true) (f : Failure) :
    ¬ s.DocumentEscapes (.mapping entries) f := by
  rintro (hsearchable | @⟨v, hv, hwritable⟩)
  · cases hsearchable
  · rw [Field.writable_resolve h hv] at hwritable
    cases hwritable

/-- What escapes from an answer, behind everything that is read before it: a counter that cannot
be refused, a page number that is out of range, or something among the documents. -/
inductive Escapes (result : Value) : Failure → Prop where
  | counter (h : Aggregate.CounterEscapes result) : Escapes result (.value .writeLimit)
  | metadata {counts : Counts} (hCounts : Aggregate.counts result = .ok counts)
      (h : (s.metadata counts).result = .error .overflow) : Escapes result .overflow
  | document {counts : Counts} {info : PageInfo} {before rest : List Value} {d : Value}
      {f : Failure} (hCounts : Aggregate.counts result = .ok counts)
      (hInfo : (s.metadata counts).result = .ok info)
      (hDocuments : Aggregate.documents result = .ok (before ++ d :: rest))
      (hBefore : ∀ b ∈ before, ∃ cursor, s.documentCursor b = .ok cursor)
      (h : s.DocumentEscapes d f) : Escapes result f

end Session

namespace Repository

/-! ## Answers -/

/-- The page of a session for a result, step by step. -/
theorem result_finish_eq (s : Session) (result : Value) : (finish s result).result = do
    let counts ← Aggregate.counts result
    let info ← (s.metadata counts).result
    let documents ← Aggregate.documents result
    return Page.ofEdges (← s.edges documents) info := by
  simp only [finish, Outcome.result_bind, Outcome.result_liftM, Outcome.result_emit, except_ok_bind,
    Session.page, Value.elements, Session.edges_pageInfo]

/-- What fails an answer is an error of the engine, or escapes. -/
theorem escapes_of_finish {s : Session} (hLimit : 0 < s.limit) {result : Value} {f : Failure}
    (hf : ∀ e, f ≠ .engine e) (h : (finish s result).result = .error f) : s.Escapes result f := by
  rw [result_finish_eq] at h
  cases Aggregate.ends_counts result with
  | ok _ _ counts hcounts =>
    -- the documents were read for their number already, so they are there
    obtain ⟨es, items, -, hitems, -⟩ := Aggregate.documents_of_counts hcounts
    have hmetadata := Metrics.compute_int_cases hLimit counts.total
      (if s.cursor.isSome then counts.cursored else counts.total) counts.current s.order
    rw [← s.result_metadata counts] at hmetadata
    rw [hcounts, except_ok_bind] at h
    obtain ⟨info, hinfo⟩ | hoverflow := hmetadata
    · rw [hinfo, except_ok_bind, hitems, except_ok_bind] at h
      cases hedges : s.edges items with
      | ok edges =>
        rw [hedges] at h
        cases h
      | error g =>
        rw [hedges] at h
        obtain rfl := Except.error.inj h
        obtain ⟨before, d, rest, rfl, hbefore, hd⟩ := s.edges_eq_error_iff.mp hedges
        exact .document hcounts hinfo hitems hbefore ((s.documentCursor_eq_error_iff hf).mp hd)
    · rw [hoverflow] at h
      obtain rfl := Except.error.inj h
      exact .metadata hcounts hoverflow
  | refused _ _ hrefused =>
    obtain ⟨e, he, -⟩ := hrefused
    rw [he] at h
    exact absurd (Except.error.inj h).symm (hf e)
  | escapes _ hescapes herror =>
    rw [herror] at h
    obtain rfl := Except.error.inj h
    exact .counter hescapes

/-- What escapes is no error of the engine. -/
theorem ne_engine_of_escapes {s : Session} {result : Value} {f : Failure}
    (h : s.Escapes result f) : ∀ e, f ≠ .engine e := by
  cases h with
  | counter => nofun
  | metadata => nofun
  | document _ _ _ _ hd => cases hd <;> nofun

/-- What escapes fails the answer. -/
theorem finish_of_escapes {s : Session} {result : Value} {f : Failure} (h : s.Escapes result f) :
    (finish s result).result = .error f := by
  have hf := ne_engine_of_escapes h
  rw [result_finish_eq]
  cases h with
  | counter hescapes =>
    -- the counts end in one way, and the others exclude what escapes here
    cases Aggregate.ends_counts result with
    | ok _ hheld => exact absurd hescapes hheld
    | refused _ hheld => exact absurd hescapes hheld
    | escapes _ _ herror =>
      rw [herror]
      rfl
  | metadata hcounts hoverflow =>
    rw [hcounts, except_ok_bind, hoverflow]
    rfl
  | @document counts info before rest d _ hcounts hinfo hitems hbefore hd =>
    have hedges := s.edges_eq_error_iff.mpr
      ⟨before, d, rest, rfl, hbefore, (s.documentCursor_eq_error_iff hf).mpr hd⟩
    rw [hcounts, except_ok_bind, hinfo, except_ok_bind, hitems, except_ok_bind, hedges]
    rfl

/-- Only errors of the engine and what escapes fail an answer. -/
theorem finish_eq_error_iff {s : Session} (hLimit : 0 < s.limit) {result : Value} {f : Failure}
    (hf : ∀ e, f ≠ .engine e) : (finish s result).result = .error f ↔ s.Escapes result f :=
  ⟨escapes_of_finish hLimit hf, finish_of_escapes⟩

/-- A result that is a page or an error of the engine. -/
def Contained (r : Except Failure Page) : Prop :=
  (∃ page, r = .ok page) ∨ ∃ e, r = .error (.engine e)

/-- An answer is contained exactly if nothing escapes from it. -/
theorem contained_finish_iff {s : Session} (hLimit : 0 < s.limit) {result : Value} :
    Contained (finish s result).result ↔ ∀ f, ¬ s.Escapes result f := by
  constructor
  · intro hcontained f hescapes
    have hf := ne_engine_of_escapes hescapes
    rw [finish_of_escapes hescapes] at hcontained
    obtain ⟨page, hpage⟩ | ⟨e, he⟩ := hcontained
    · cases hpage
    · exact hf e (Except.error.inj he)
  · intro hnone
    cases hfinish : (finish s result).result with
    | ok page => exact Or.inl ⟨page, rfl⟩
    | error f =>
      by_cases hengine : ∃ e, f = .engine e
      · obtain ⟨e, rfl⟩ := hengine
        exact Or.inr ⟨e, rfl⟩
      · -- an answer fails in no other way
        have hf : ∀ e, f ≠ .engine e := fun e he => hengine ⟨e, he⟩
        exact absurd ((finish_eq_error_iff hLimit hf).mp hfinish) (hnone f)

/-- Nothing escapes where all integers are within the digit limit, the counters have no more than
a thousand bits, and every document is a mapping. -/
theorem not_escapes_of_writable {s : Session} (hLimit : 0 < s.limit) {result : Value}
    (hWritable : result.writable = true)
    (hCounts : ∀ counts, Aggregate.counts result = .ok counts →
      counts.total.natAbs ≤ 2 ^ 1000 ∧ counts.cursored.natAbs ≤ 2 ^ 1000)
    (hDocuments : ∀ documents, Aggregate.documents result = .ok documents →
      ∀ d ∈ documents, ∃ entries, d = .mapping entries) (f : Failure) : ¬ s.Escapes result f := by
  intro hescapes
  cases hescapes with
  | counter h => exact Aggregate.not_counterEscapes_of_writable hWritable h
  | metadata hcounts hoverflow =>
    obtain ⟨htotal, hcursored⟩ := hCounts _ hcounts
    have hunread : ∀ counts : Counts, Aggregate.counts result = .ok counts →
        (if s.cursor.isSome then counts.cursored else counts.total).natAbs ≤ 2 ^ 1000 := by
      intro counts h
      split
      · exact (hCounts counts h).2
      · exact (hCounts counts h).1
    obtain ⟨info, hinfo⟩ :=
      Metrics.exists_compute_of_le hLimit _ htotal (hunread _ hcounts) s.order
    rw [s.result_metadata, hinfo] at hoverflow
    cases hoverflow
  | @document counts info before rest d _ hcounts hinfo hitems hbefore hd =>
    obtain ⟨entries, rfl⟩ := hDocuments _ hitems d (by simp)
    refine s.not_documentEscapes_of_writable ?_ f hd
    -- the document stands in a list under its name
    obtain ⟨es, items, rfl, hread, hempty | hunder⟩ := Aggregate.documents_of_counts hcounts
    · rw [hread] at hitems
      simp [hempty] at hitems
    · obtain rfl := Except.ok.inj (hread.symm.trans hitems)
      have hlist : (Aggregate.under es "current").writable = true :=
        Value.writable_entry hWritable "current"
      rw [hunder, Value.writable, Value.writableAll_iff] at hlist
      exact hlist _ (by simp)

/-- An answer does not depend on whether the pipeline was requested. -/
theorem result_finish_requested (s : Session) (result : Value) :
    (finish { s with pipelineRequested := true } result).result = (finish s result).result := by
  have hedges : { s with pipelineRequested := true }.edges = s.edges := Session.edges_congr rfl
  simp only [result_finish_eq, Session.result_metadata, hedges]

/-- A result that is not a facet document is refused, unless it comes to a counter that cannot
be. -/
theorem refused_finish (s : Session) {result : Value} (h : ¬ Aggregate.IsFacet result)
    (hCounter : ¬ Aggregate.CounterEscapes result) : Aggregate.Refused (finish s result).result := by
  rw [result_finish_eq]
  cases Aggregate.ends_counts result with
  | ok hfacet => exact absurd hfacet h
  | refused _ _ hrefused => exact hrefused.bind _
  | escapes _ hescapes => exact absurd hescapes hCounter

/-- **Which results of the executor escape**, for a request that reaches the executor and any
value that comes back, its texts being strings of Unicode scalar values and its depth meeting no
limit. The answer is a page or an error of the engine exactly if nothing escapes; and what escapes
is the failure of the answer. A value that is no facet document is refused as the error of the
executor, unless it comes to a counter that cannot be. Nothing escapes from a result in which all
integers are within the digit limit, the counters have no more than a thousand bits, and every
document is a mapping. -/
theorem fetch_contained_iff {r : Repository} {request stages : Value}
    {execute : Pipeline → Except Failure Value} {s : Session} {p : Pipeline} {result : Value}
    (hSession : r.session request = .ok s) (hPipeline : (s.pipeline stages false).result = .ok p)
    (hExecute : execute p = .ok result) :
    let page := (r.fetch request stages execute).page.result
    (Contained page ↔ ∀ f, ¬ s.Escapes result f) ∧
    (∀ f, s.Escapes result f → page = .error f) ∧
    (¬ Aggregate.IsFacet result → ¬ Aggregate.CounterEscapes result → Aggregate.Refused page) ∧
    (result.writable = true →
      (∀ counts, Aggregate.counts result = .ok counts →
        counts.total.natAbs ≤ 2 ^ 1000 ∧ counts.cursored.natAbs ≤ 2 ^ 1000) →
      (∀ documents, Aggregate.documents result = .ok documents →
        ∀ d ∈ documents, ∃ entries, d = .mapping entries) → Contained page) := by
  intro page
  have hpage : page = (finish s result).result := by
    rw [← result_finish_requested]
    simp only [page, fetch, hSession, hPipeline, Outcome.result_bind, Outcome.result_liftM, hExecute,
      except_ok_bind]
  have hlimit := Session.limit_pos_of_pipeline hPipeline
  rw [hpage]
  refine ⟨contained_finish_iff hlimit, ?_, refused_finish s, ?_⟩
  · intro f hescapes
    exact (finish_eq_error_iff hlimit (ne_engine_of_escapes hescapes)).mpr hescapes
  · intro hwritable hcounts hdocuments
    exact (contained_finish_iff hlimit).mpr
      (not_escapes_of_writable hlimit hwritable hcounts hdocuments)

/-- A facet document with a number in the place of its only document. -/
def strayNumber : Value :=
  .object [("current", .list [.int 5]), ("total", .list [.object [("_id", .int 1), ("counter", .int 1)]])]

/-- The number escapes, as it cannot be searched for the cursor field. -/
theorem fetch_contained_iff_strayNumber :
    ({} : Repository).session (.object [("first", .int 2)]) = .ok Session.firstTwo ∧
    (∃ p, (Session.firstTwo.pipeline .null false).result = .ok p) ∧
    Session.firstTwo.Escapes strayNumber .wrongType ∧
    (({} : Repository).fetch (.object [("first", .int 2)]) .null
      fun _ => .ok strayNumber).page.result = .error .wrongType := by
  have hsession : ({} : Repository).session (.object [("first", .int 2)]) = .ok Session.firstTwo := rfl
  have hescapes : Session.firstTwo.Escapes strayNumber .wrongType := by
    have hcounts : Aggregate.counts strayNumber = .ok ⟨1, 0, 1⟩ := rfl
    have hinfo : (Session.firstTwo.metadata ⟨1, 0, 1⟩).result = .ok ⟨false, false, 1, 1, 1⟩ := rfl
    have hdocuments : Aggregate.documents strayNumber = .ok ([] ++ .int 5 :: []) := rfl
    exact .document hcounts hinfo hdocuments nofun (.search rfl)
  obtain ⟨p, hpipeline⟩ : ∃ p, (Session.firstTwo.pipeline .null false).result = .ok p := ⟨_, rfl⟩
  obtain ⟨-, hpage, -⟩ := @fetch_contained_iff {} _ _ (fun _ => .ok strayNumber) _ _ _ hsession
    hpipeline rfl
  exact ⟨hsession, ⟨p, hpipeline⟩, hescapes, hpage _ hescapes⟩

/-- Not every result of the executor is contained. -/
theorem fetch_not_always_contained :
    ¬ ∀ result : Value, Contained (({} : Repository).fetch (.object [("first", .int 2)]) .null
      fun _ => .ok result).page.result := by
  intro h
  have hwrong : (({} : Repository).fetch (.object [("first", .int 2)]) .null
      fun _ => .ok strayNumber).page.result = .error .wrongType := rfl
  obtain ⟨page, hpage⟩ | ⟨e, he⟩ := h strayNumber
  · rw [hwrong] at hpage
    cases hpage
  · rw [hwrong] at he
    cases he

end Repository

end Keyset
