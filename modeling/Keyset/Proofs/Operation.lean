import Keyset.Proofs.Envelope
import Keyset.Proofs.Session.Limit

/-!
# Keyset — every error of an operation reaches its client

An operation of the engine may be given anything, and what it raises is told to a client. Almost
everything that an error records is turned into a text where the error is raised, or was checked
to be one before. The exception is the field of a clause in the refusal of its operator: a filter
that the engine reads has texts for fields, but a caller can make clauses of other fields by hand.
Texts are strings of Unicode scalar values throughout. What records a string with a lone surrogate
has no form that a client could be sent, and nothing is said about it here.

* `Aggregate.onlyRaises_counts`, `Session.onlyRaises_page`, `Repository.onlyRaises_fetch` — what
  these operations raise is deliverable.
* `Operation.Raises` — an operation on what it is given raises an error of the engine.
* `Operation.deliverable_of_raises` — such an error is deliverable.
-/

namespace Keyset

/-! ## Single checks -/

theorem Limit.deliverable_validate (v : Value) :
    OnlyRaises EngineError.Deliverable (validate v) :=
  (onlyRaises_validate v).mono fun _ he => he.deliverable

theorem Field.deliverable_validate (v : Value) :
    OnlyRaises EngineError.Deliverable (validate v) :=
  (onlyRaises_validate v).mono fun _ he => he.deliverable

/-! ## Facet documents -/

namespace Aggregate

theorem onlyRaises_entries (result : Value) :
    OnlyRaises EngineError.Deliverable (entries result) := by
  unfold entries
  split
  · exact .ok _
  · -- of a value of another type only the name of the type is told
    exact onlyRaises_invalid _ [("received", _)] (by simp)

theorem onlyRaises_documents (result : Value) :
    OnlyRaises EngineError.Deliverable (documents result) := by
  refine .bind (onlyRaises_entries result) fun es _ => ?_
  split
  · exact .ok _
  · split
    · exact onlyRaises_invalid _ [] (by simp)
    · exact .ok _

theorem onlyRaises_counter (es : List (Value × Value)) (branch : String) :
    OnlyRaises EngineError.Deliverable (counter es branch) := by
  have hcounterOf (record : List (Value × Value)) :
      OnlyRaises EngineError.Deliverable (counterOf branch record) := by
    unfold counterOf
    split
    · exact .ok _
    · split
      · -- the counter is recorded as its text
        refine .bind (.lift _) fun text _ => ?_
        exact onlyRaises_invalid _ [("branch", branch), ("counter", text)] (by simp)
      · exact .ok _
  unfold counter
  dsimp only
  split
  · exact .ok _
  · -- a branch without count records is told by its name, and not shown
    split
    · exact hcounterOf _
    · exact onlyRaises_invalid _ [("branch", branch)] (by simp)

theorem onlyRaises_counts (result : Value) : OnlyRaises EngineError.Deliverable (counts result) :=
  .bind (onlyRaises_documents result) fun _ _ => .bind (onlyRaises_entries result) fun es _ =>
    .bind (onlyRaises_counter es _) fun _ _ => .bind (onlyRaises_counter es _) fun _ _ => .ok _

end Aggregate

/-! ## Sessions -/

namespace Session

variable (s : Session)

theorem onlyRaises_setCursor (field kind : Value) :
    OnlyRaises EngineError.Deliverable (s.setCursor field kind).2 := by
  unfold setCursor
  split
  · -- the failure is that of the name, passed on
    next f hfield =>
    intro e he
    obtain rfl : f = .engine e := Except.error.inj he
    exact Field.deliverable_validate field e hfield
  · split
    · -- a kind without a text is no error of the engine
      exact nofun
    · exact .ok _

theorem onlyRaises_pipeline (stages : Value) (reverse : Bool) :
    OnlyRaises EngineError.Deliverable (s.pipeline stages reverse).result := by
  refine .bind_outcome ((s.compiler.onlyRaises_compileRaw _).mono ?_) fun _ _ => ?_
  · rintro e (hname | ⟨name, hoperator⟩)
    · exact hname.deliverable
    · exact hoperator.deliverable
  · refine Pipeline.onlyRaises_build (Limit.deliverable_validate _) ?_ reverse
    intro e he
    exact he.deliverable

theorem onlyRaises_page (documents : Value) :
    OnlyRaises EngineError.Deliverable (s.page documents) := by
  unfold page
  split
  · refine (onlyRaises_raise _).mono ?_
    rintro e ⟨rfl, -⟩
    exact EngineError.deliverable_pageInfoNotSet
  · refine .bind (Value.onlyRaises_elements _) fun items _ => .bind ?_ fun _ _ => .ok _
    intro e he
    exact (s.onlyRaises_edges items e he).deliverable

theorem onlyRaises_start (config : Config) (request : Value) :
    OnlyRaises EngineError.Deliverable (start config request) := by
  rw [start_eq]
  refine .bind ?_ fun checked _ => ?_
  · unfold Request.ofValue
    split
    · exact .ok _
    · exact .run _
  · -- a checked request is refused for its size, or for the configured field
    refine .bind (.bind (Limit.deliverable_validate _) fun _ _ => .ok _) fun _ _ => ?_
    exact .bind (Field.deliverable_validate _) fun _ _ => .ok _

end Session

/-! ## Repositories -/

namespace Repository

theorem onlyRaises_session (r : Repository) (request : Value) :
    OnlyRaises EngineError.Deliverable (r.session request) :=
  .bind (Session.onlyRaises_start _ _) fun s _ =>
    .bind (s.onlyRaises_setCursor _ _) fun _ _ => .ok _

theorem onlyRaises_finish (s : Session) (result : Value) :
    OnlyRaises EngineError.Deliverable (finish s result).result :=
  .bind_outcome (Aggregate.onlyRaises_counts result) fun counts _ =>
    -- a session can have a size that is refused if the greatest one is not positive
    .bind_outcome (Session.onlyRaises_metadata (Limit.deliverable_validate _) counts) fun _ _ =>
      .bind_outcome (.ok _) fun _ _ =>
        .bind_outcome (Aggregate.onlyRaises_documents result) fun documents _ =>
          Session.onlyRaises_page { s with pageInfo := some _ } (.list documents)

/-- What a request raises is deliverable, or it is what the executor raised. -/
theorem onlyRaises_fetch (r : Repository) (request stages : Value)
    (execute : Pipeline → Except Failure Value) :
    OnlyRaises (fun e => e.Deliverable ∨
        ∃ p ∈ (r.fetch request stages execute).calls, execute p = .error (.engine e))
      (r.fetch request stages execute).page.result := by
  unfold fetch
  split
  · -- no session, and so no pipeline: nothing is executed
    next f hsession =>
    intro e he
    obtain rfl : f = .engine e := Except.error.inj he
    exact Or.inl (r.onlyRaises_session request e hsession)
  · next s hsession =>
    have hpipeline := s.onlyRaises_pipeline stages false
    dsimp only
    split
    · next f hfailed =>
      intro e he
      obtain rfl : f = .engine e := Except.error.inj he
      exact Or.inl (hpipeline e hfailed)
    · next p hbuilt =>
      refine .bind_outcome (hpipeline.mono fun e => Or.inl) fun _ _ => ?_
      refine .bind_outcome ?_ fun result _ => (onlyRaises_finish _ result).mono fun e => Or.inl
      -- an error of the executor goes through as it is
      intro e he
      exact Or.inr ⟨p, List.mem_singleton_self p, he⟩

end Repository

/-! ## Operations -/

/-- An operation of the engine on what it is given. -/
inductive Operation where
  | validateName (v : Value)
  | validateLimit (v : Value)
  | setCursor (s : Session) (field kind : Value)
  | encode (c : Codec) (kind : CursorKind) (v : Value)
  | decode (c : Codec) (kind : CursorKind) (cursor : Value)
  | parse (filters controlKey : Value)
  /-- Compile a clause, which may be made by hand. -/
  | compileClause (c : Compiler) (clause : Clause)
  | compile (c : Compiler) (spec : Selection)
  | compileRaw (c : Compiler) (filters : Value)
  | build (codec : Codec) (expression : Value) (cursor : Cursor) (order limit stages : Value)
      (reverse : Bool) (sortField : Value)
  | buildFrom (codec : Codec) (expression : Value) (parts : List (String × Value))
      (order limit stages : Value) (reverse : Bool) (sortField : Value)
  | pipeline (s : Session) (stages : Value) (reverse : Bool)
  | page (s : Session) (items : Value)
  | documents (result : Value)
  | counts (result : Value)
  | fetch (r : Repository) (request stages : Value) (execute : Pipeline → Except Failure Value)

namespace Operation

/-- The operation raises an error of the engine. What an executor raises is not the engine's. -/
def Raises (e : EngineError) : Operation → Prop
  | validateName v => Field.validate v = .error (.engine e)
  | validateLimit v => Limit.validate v = .error (.engine e)
  | setCursor s field kind => (s.setCursor field kind).2 = .error (.engine e)
  | encode c kind v => c.encode kind v = .error (.engine e)
  | decode c kind cursor => (c.decode kind cursor).result = .error (.engine e)
  | parse filters controlKey => Selection.parse filters controlKey = .error (.engine e)
  | compileClause c clause => (c.compileClause clause).result = .error (.engine e)
  | compile c spec => (c.compile spec).result = .error (.engine e)
  | compileRaw c filters => (c.compileRaw filters).result = .error (.engine e)
  | build codec expression cursor order limit stages reverse sortField =>
      (Pipeline.build codec expression cursor order limit stages reverse sortField).result =
        .error (.engine e)
  | buildFrom codec expression parts order limit stages reverse sortField =>
      (Pipeline.buildFrom codec expression parts order limit stages reverse sortField).result =
        .error (.engine e)
  | pipeline s stages reverse => (s.pipeline stages reverse).result = .error (.engine e)
  | page s items => s.page items = .error (.engine e)
  | documents result => Aggregate.documents result = .error (.engine e)
  | counts result => Aggregate.counts result = .error (.engine e)
  | fetch r request stages execute =>
      (r.fetch request stages execute).page.result = .error (.engine e) ∧
        ∀ p ∈ (r.fetch request stages execute).calls, execute p ≠ .error (.engine e)

/-- The fields of clauses that are made by hand are texts. -/
def FieldsAreTexts : Operation → Prop
  | compileClause _ clause => ∃ name, clause.field = .str name
  | compile _ spec => ∀ clause ∈ spec.clauses, ∃ name, clause.field = .str name
  | _ => True

/-- **Every error of an operation is deliverable**, whatever the operation is given, as long as
the fields of clauses are texts, and all texts are strings of Unicode scalar values. -/
theorem deliverable_of_raises {op : Operation} (hFields : op.FieldsAreTexts) {e : EngineError}
    (h : op.Raises e) : e.Deliverable := by
  have hcursor {kind : CursorKind} (e : EngineError) (he : e.RefusesCursor kind) : e.Deliverable :=
    he.deliverable
  cases op with
  | validateName v => exact Field.deliverable_validate v e h
  | validateLimit v => exact Limit.deliverable_validate v e h
  | setCursor s field kind => exact s.onlyRaises_setCursor field kind e h
  | encode c kind v => exact (c.onlyRaises_encode kind v e h).deliverable
  | decode c kind cursor => exact (c.onlyRaises_decode kind cursor e h).deliverable
  | parse filters controlKey => exact (Selection.onlyRaises_parse filters controlKey e h).deliverable
  | compileClause c clause =>
    -- an unknown operator is reported with its field, which is a text by assumption
    obtain ⟨name, hname⟩ := hFields
    have hoperator := c.onlyRaises_compileClause clause e h
    rw [hname] at hoperator
    exact hoperator.deliverable
  | compile c spec =>
    -- of a whole selection, one clause is at fault
    obtain ⟨clause, hclause, hoperator⟩ := c.onlyRaises_compile spec e h
    obtain ⟨name, hname⟩ := hFields clause hclause
    rw [hname] at hoperator
    exact hoperator.deliverable
  | compileRaw c filters =>
    rcases c.onlyRaises_compileRaw filters e h with hname | ⟨name, hoperator⟩
    · exact hname.deliverable
    · exact hoperator.deliverable
  | build codec expression cursor order limit stages reverse sortField =>
    exact Pipeline.onlyRaises_build (Limit.deliverable_validate _) hcursor reverse e h
  | buildFrom codec expression parts order limit stages reverse sortField =>
    have hlimit := Limit.deliverable_validate limit
    exact Pipeline.onlyRaises_buildFrom hlimit (fun _ => hcursor) reverse e h
  | pipeline s stages reverse => exact s.onlyRaises_pipeline stages reverse e h
  | page s items => exact s.onlyRaises_page items e h
  | documents result => exact Aggregate.onlyRaises_documents result e h
  | counts result => exact Aggregate.onlyRaises_counts result e h
  | fetch r request stages execute =>
    -- an error of the store's own is not the engine's to answer for
    rcases r.onlyRaises_fetch request stages execute e h.1 with hdeliverable | ⟨p, hp, hexecute⟩
    · exact hdeliverable
    · exact absurd hexecute (h.2 p hp)

/-- A clause that is made by hand, and has a number that is none as its operator. -/
def nanOperator : Selection := ⟨[.pattern (.str "rank") (.float .nan) (.int 1)], true⟩

/-- A strict compiler refuses the operator, and records its text. -/
theorem deliverable_nanOperator :
    (compile { strict := true } nanOperator).Raises
      (.unsupportedOperator (.str "rank") (.float .nan)) ∧
    (EngineError.unsupportedOperator (.str "rank") (.float .nan)).Deliverable := by
  have hraises : (compile { strict := true } nanOperator).Raises
      (.unsupportedOperator (.str "rank") (.float .nan)) := by
    change (Compiler.compile { strict := true } nanOperator).result = _
    rfl
  have hfields : (compile { strict := true } nanOperator).FieldsAreTexts := by
    intro clause hclause
    obtain rfl := List.mem_singleton.mp hclause
    exact ⟨"rank", rfl⟩
  exact ⟨hraises, deliverable_of_raises hfields hraises⟩

/-- The same clause with the number as its field, and a text as its operator. -/
def nanField : Selection := ⟨[.pattern (.float .nan) (.str "X") (.int 1)], true⟩

/-- Not every error is deliverable: the field of such a clause is recorded as it is. -/
theorem not_always_deliverable :
    ¬ ∀ (op : Operation) (e : EngineError), op.Raises e → e.Deliverable := by
  intro h
  have hraises : (compile { strict := true } nanField).Raises
      (.unsupportedOperator (.float .nan) (.str "X")) := by
    change (Compiler.compile { strict := true } nanField).result = _
    rfl
  obtain ⟨r, -, -, details, hreport, hdetails, -⟩ := h _ _ hraises
  obtain rfl := Except.ok.inj hreport
  -- the first detail would have to be a text
  have hentries := Value.mapping.inj hdetails
  cases details with
  | nil => simp [texts] at hentries
  | cons f rest => simp [texts] at hentries

end Operation

end Keyset
