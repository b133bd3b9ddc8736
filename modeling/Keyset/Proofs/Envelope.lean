import Keyset.Aggregate
import Keyset.Envelope
import Keyset.Proofs.Error
import Keyset.Proofs.Schema.Request

/-!
# Keyset — errors that reach a client

The errors of the engine record what was wrong, and what was wrong can be anything: numbers that
are none, bytes, dates, nested data. A client gets an error as a document, which has no form for
most of these. So whatever an error records has to be a text, and then nothing is in the way of
its envelope and of the response.

* `EngineError.Deliverable` — an error whose details are texts, and which reaches a client with
  the status of its kind, and with its code among its details.
* `Json.encodable_object` — fields are written as they are if their values are.
* `deliverable_of_report` — an error of texts is deliverable.
* `EngineError.RefusesName.deliverable`, …, `Aggregate.onlyRaises_invalid` — the errors of the
  engine are.
-/

namespace Keyset

/-! ## Kinds -/

/-- The status that a web layer answers with, by the kind of an error. -/
def ErrorKind.status : ErrorKind → Int
  | .reservedField | .invalidCursor | .invalidLimit | .unsupportedOperator => 422
  | .general | .pageInfoNotSet => 500
  | .invalidAggregate => 502

/-- The code that is registered for a kind. -/
def ErrorKind.code : ErrorKind → ErrorCode
  | .general => .internalError
  | .reservedField => .reservedField
  | .invalidCursor => .invalidCursor
  | .invalidLimit => .invalidLimit
  | .unsupportedOperator => .unsupportedFilterOperator
  | .pageInfoNotSet => .pageInfoNotSet
  | .invalidAggregate => .aggregateResultInvalid

/-! ## Texts -/

/-- Fields whose values are texts. -/
def texts (fields : List (String × String)) : List (String × Value) :=
  fields.map fun f => (f.1, .str f.2)

theorem names_texts (fields : List (String × String)) :
    (texts fields).map (·.1) = fields.map (·.1) := by
  simp [texts]

/-- Values without records are themselves in a response. -/
theorem plain_object {fields : List (String × Value)} (h : ∀ f ∈ fields, f.2.plain = f.2) :
    (Value.object fields).plain = .object fields := by
  have hentries : plainEntries (fields.map fun f => (.str f.1, f.2)) =
      fields.map fun f => (.str f.1, f.2) := by
    -- a record among the values would become a mapping; there is none
    induction fields with
    | nil => rfl
    | cons f rest ih =>
      rw [List.forall_mem_cons] at h
      rw [List.map_cons, plainEntries, h.1, ih h.2]
  rw [Value.object, Value.plain, hentries]

/-- Fields with different names are written as they are if their values are. -/
theorem Json.encodable_object (d : Dialect) {fields : List (String × Value)}
    (hValues : ∀ f ∈ fields, encodable d f.2 = .ok f.2) (hNames : (fields.map (·.1)).Nodup) :
    encodable d (.object fields) = .ok (.object fields) := by
  -- the entries are written behind those that are there already
  have hentries : ∀ front : List (String × Value),
      encodableEntries d front (fields.map fun f => (.str f.1, f.2)) =
        .ok (fields.foldl (fun acc f => Check.putField acc f.1 f.2) front) := by
    induction fields with
    | nil => exact fun front => rfl
    | cons f rest ih =>
      intro front
      rw [List.forall_mem_cons] at hValues
      rw [List.map_cons, encodableEntries, keyText, except_ok_bind, hValues.1, except_ok_bind,
        ih hValues.2 (List.nodup_cons.mp hNames).2, List.foldl_cons]
  rw [Value.object, encodable, hentries, Check.foldl_putField [] fields hNames]
  rfl

/-! ## Envelopes -/

namespace Envelope

/-- The envelope of an error whose details are texts. -/
def ofTexts (type message : String) (details : List (String × String)) (code : ErrorCode) :
    Envelope where
  type := type
  message := message
  details := some (texts (details ++ [("code", code.text)]))
  requestId := none

variable {type message : String} {details : List (String × String)} {code : ErrorCode}
  {status : Value}

/-- The code stands after the details. -/
theorem put_code (h : "code" ∉ details.map (·.1)) :
    Entries.put ((texts details).map fun f => (.str f.1, f.2)) (.str "code") (.str code.text) =
      (texts (details ++ [("code", code.text)])).map fun f => (.str f.1, f.2) := by
  induction details with
  | nil => rfl
  | cons f rest ih =>
    -- no detail has the code's name, so none is replaced
    rw [List.map_cons, List.mem_cons, not_or] at h
    have hother : (Value.str f.1).sameKey (.str "code") = false := by
      rw [Value.sameKey]
      exact beq_eq_false_iff_ne.mpr (Ne.symm h.1)
    have hrest := ih h.2
    simp only [texts, List.map_cons, List.cons_append, Entries.put, hother] at hrest ⊢
    rw [if_neg Bool.false_ne_true, hrest]

/-- An error of texts has an envelope. -/
theorem ofReport_texts (h : (details.map (·.1) ++ ["code"]).Nodup) :
    ofReport ⟨.str message, .object (texts details), .str type, some code, status, none⟩ =
      .ok (ofTexts type message details code) := by
  have hcode : "code" ∉ details.map (·.1) := fun hmem =>
    (List.nodup_append.mp h).2.2 _ hmem _ (List.mem_singleton_self _) rfl
  have hshown : shownDetails
      ⟨.str message, .object (texts details), .str type, some code, status, none⟩ =
      .ok (.object (texts (details ++ [("code", code.text)]))) := by
    rw [shownDetails, Value.object, detailEntries, except_ok_bind]
    dsimp only
    rw [put_code hcode, if_neg (by simp [texts])]
    rfl
  have hnames : ((texts (details ++ [("code", code.text)])).map (·.1)).Nodup := by
    rw [names_texts, List.map_append]
    exact h
  have htexts := Check.textMapping_object hnames
  rw [ofReport, hshown, except_ok_bind]
  -- the parts of the envelope are checked one by one, and only the details take an argument
  unfold Value.object at htexts ⊢
  rw [Check.nullable, htexts]
  · rfl
  · nofun

/-- And the envelope is a response body as it stands. -/
theorem encodable_ofTexts (h : (details.map (·.1) ++ ["code"]).Nodup) :
    Json.encodable Json.strict (ofTexts type message details code).toValue =
      .ok (ofTexts type message details code).toValue := by
  have htext : ∀ f ∈ texts (details ++ [("code", code.text)]), ∃ s, f.2 = .str s := by
    intro f hf
    obtain ⟨d, -, rfl⟩ := List.mem_map.mp hf
    exact ⟨d.2, rfl⟩
  -- details are texts, which pass unchanged; their names must differ, and so do those of the
  -- parts
  have hplain : (Value.object (texts (details ++ [("code", code.text)]))).plain =
      .object (texts (details ++ [("code", code.text)])) := by
    refine plain_object fun f hf => ?_
    obtain ⟨s, hs⟩ := htext f hf
    rw [hs]
    rfl
  have hdetails : Json.encodable Json.strict (.object (texts (details ++ [("code", code.text)]))) =
      .ok (.object (texts (details ++ [("code", code.text)]))) := by
    refine Json.encodable_object _ (fun f hf => ?_) ?_
    · obtain ⟨s, hs⟩ := htext f hf
      rw [hs, Json.encodable]
    · rw [names_texts, List.map_append]
      exact h
  have hnames : ["type", "message", "details", "request_id"].Nodup := by decide
  refine Json.encodable_object _ ?_ hnames
  simp [ofTexts, Value.ofOption, hplain, hdetails, Json.encodable]

end Envelope

/-! ## Errors -/

/-- An error that reaches a client in full: its details are texts, it has an envelope with these
details and its code, and the response is this envelope with the status of the error's kind. -/
def EngineError.Deliverable (e : EngineError) : Prop :=
  ∃ (report : Report) (type message : String) (details : List (String × String)),
    e.report = .ok report ∧ report.details = .object (texts details) ∧
    Envelope.ofReport report = .ok (.ofTexts type message details e.kind.code) ∧
    Envelope.deliver report =
      .ok ⟨.int e.kind.status, (Envelope.ofTexts type message details e.kind.code).toValue⟩

/-- An error of texts is deliverable. -/
theorem deliverable_of_report {e : EngineError} {type message : String}
    (details : List (String × String)) (hNames : (details.map (·.1) ++ ["code"]).Nodup)
    (hReport : e.report = .ok ⟨.str message, .object (texts details), .str type,
      some e.kind.code, .int e.kind.status, none⟩) : e.Deliverable := by
  refine ⟨_, type, message, details, hReport, rfl, Envelope.ofReport_texts hNames, ?_⟩
  rw [Envelope.deliver, Envelope.ofReport_texts hNames, except_ok_bind,
    Envelope.encodable_ofTexts hNames]
  rfl

namespace EngineError

variable {e : EngineError}

theorem RefusesName.deliverable (h : e.RefusesName) : e.Deliverable := by
  obtain ⟨name, fault, rfl⟩ := h
  exact deliverable_of_report [("reason", fault.reason), ("field", name)] (by simp) rfl

/-- Whatever is refused as a cursor is recorded as its text. -/
theorem RefusesCursor.deliverable {kind : CursorKind} (h : e.RefusesCursor kind) :
    e.Deliverable := by
  obtain ⟨cursor, reason, rfl, r, hreport⟩ := h
  cases hcursor : cursor.display with
  | ok text =>
    exact deliverable_of_report
      [("cursor", text), ("cursor_type", kind.name), ("reason", reason)] (by simp)
      (by rw [Codec.refusal, report, hcursor]; rfl)
  | error fault =>
    rw [Codec.refusal, report, hcursor] at hreport
    cases hreport

/-- So is a page size. -/
theorem RefusesLimit.deliverable (h : e.RefusesLimit) : e.Deliverable := by
  obtain ⟨limit, rfl, r, hreport⟩ := h
  -- without one of its two texts there would be no report
  cases hquoted : limit.quoted with
  | ok quoted =>
    cases hlimit : limit.display with
    | ok text =>
      exact deliverable_of_report [("limit", text)] (by simp)
        (by rw [report, hquoted, hlimit]; rfl)
    | error fault =>
      rw [report, hquoted, hlimit] at hreport
      cases hreport
  | error fault =>
    rw [report, hquoted] at hreport
    cases hreport

/-- So is an operator; its field is recorded as it is, and has to be a text. -/
theorem RefusesOperator.deliverable {field : String} (h : e.RefusesOperator (.str field)) :
    e.Deliverable := by
  obtain ⟨operator, rfl, r, hreport⟩ := h
  -- an error that was reported could be written, and so its parts have texts
  cases hquoted : operator.quoted with
  | ok quoted =>
    cases hoperator : operator.display with
    | ok text =>
      exact deliverable_of_report [("field", field), ("operator", text)] (by simp)
        (by rw [report, hquoted, hoperator]; rfl)
    | error fault =>
      rw [report, hquoted, hoperator] at hreport
      cases hreport
  | error fault =>
    rw [report, hquoted] at hreport
    cases hreport

theorem deliverable_pageInfoNotSet : (pageInfoNotSet : EngineError).Deliverable :=
  deliverable_of_report [] (by simp) rfl

end EngineError

/-- A result that is no facet document is refused with texts. -/
theorem Aggregate.onlyRaises_invalid {α : Type} (reason : String)
    (details : List (String × String)) (hNames : (details.map (·.1) ++ ["code"]).Nodup) :
    OnlyRaises EngineError.Deliverable (invalid reason (texts details) : Except Failure α) := by
  refine (onlyRaises_raise _).mono ?_
  rintro e ⟨rfl, -⟩
  -- without details there are none to keep, and the mapping is empty either way
  exact deliverable_of_report details hNames (by cases details <;> rfl)

end Keyset
