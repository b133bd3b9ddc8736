import Keyset.Filter.Compile
import Keyset.Pipeline.Build
import Keyset.Proofs.Cursor.Failure
import Keyset.Proofs.Field.Name
import Keyset.Proofs.Value.Text
import Keyset.Schema.Check

/-!
# Keyset — which errors an operation raises

Every operation of the engine raises errors of a few forms, whatever it is given. A step of a
sequence can only raise what the sequence can, so that the errors of an operation are found
by going through its steps.

* `OnlyRaises` — the errors of a result have a property; other failures do not count.
* `onlyRaises_raise` — raising an error raises no other one, and only if it has a report.
* `Field.onlyRaises_validate`, `Limit.onlyRaises_validate`, `Codec.onlyRaises_decode`,
  `Codec.onlyRaises_encode`, `Compiler.onlyRaises_compileRaw`, `Pipeline.onlyRaises_build` — the
  errors of the operations.
-/

namespace Keyset

/-- All errors of the engine that a result can be have a property. -/
def OnlyRaises {α : Type} (P : EngineError → Prop) (r : Except Failure α) : Prop :=
  ∀ e, r = .error (.engine e) → P e

namespace OnlyRaises

variable {α β : Type} {P Q : EngineError → Prop} {x : Except Failure α}

theorem ok (a : α) : OnlyRaises P (.ok a : Except Failure α) := nofun

theorem mono (h : OnlyRaises P x) (hPQ : ∀ e, P e → Q e) : OnlyRaises Q x :=
  fun e he => hPQ e (h e he)

/-- A sequence raises what its steps raise. -/
theorem bind {f : α → Except Failure β} (hx : OnlyRaises P x)
    (hf : ∀ a, x = .ok a → OnlyRaises P (f a)) : OnlyRaises P (x >>= f) := by
  cases x with
  | ok a => exact hf a rfl
  | error failure =>
    intro e he
    obtain rfl := Except.error.inj he
    exact hx e rfl

/-- Logging makes no difference. -/
theorem bind_outcome {x : Outcome α} {f : α → Outcome β} (hx : OnlyRaises P x.result)
    (hf : ∀ a, x.result = .ok a → OnlyRaises P (f a).result) : OnlyRaises P (x >>= f).result := by
  rw [Outcome.result_bind]
  exact hx.bind hf

/-- A value without a text is no error of the engine. -/
theorem lift (r : Except ValueFault α) : OnlyRaises P (liftM r : Except Failure α) := by
  cases r with
  | ok a => exact ok a
  | error fault => exact nofun

/-- Neither is a fault of a payload. -/
theorem mapError_payload (r : Except PayloadFault α) : OnlyRaises P (r.mapError .payload) := by
  cases r with
  | ok a => exact ok a
  | error fault => exact nofun

/-- Neither are complaints about data. -/
theorem run (check : Check α) : OnlyRaises P check.run := by
  intro e he
  rw [Check.run] at he
  cases h : check.result <;> rw [h] at he <;> cases he

end OnlyRaises

/-! ## Reports -/

/-- A report fails for the sake of a value, or for its operands. -/
theorem EngineError.onlyRaises_report (e : EngineError) : OnlyRaises (fun _ => False) e.report := by
  cases e with
  | general => exact .ok _
  | reservedField field context =>
    rw [report]
    split
    · exact .bind (.ok _) fun _ _ => .bind (.lift field.quoted) fun _ _ => .ok _
    · exact nofun
  | invalidCursor cursor kind reason =>
    refine .bind (.lift kind.display) fun _ _ => .bind (.lift reason.display) fun _ _ => ?_
    exact .bind (.lift cursor.display) fun _ _ => .ok _
  | invalidLimit limit =>
    exact .bind (.lift limit.quoted) fun _ _ => .bind (.lift limit.display) fun _ _ => .ok _
  | unsupportedOperator field operator =>
    refine .bind (.lift operator.quoted) fun _ _ => .bind (.lift field.quoted) fun _ _ => ?_
    exact .bind (.lift operator.display) fun _ _ => .ok _
  | pageInfoNotSet => exact .ok _
  | invalidAggregate reason details => exact .bind (.lift reason.display) fun _ _ => .ok _

/-- An error that has a report. -/
def EngineError.Reported (e : EngineError) : Prop := ∃ r, e.report = .ok r

/-- Raising an error raises no other one, and only if it has a report. -/
theorem onlyRaises_raise {α : Type} (e : EngineError) :
    OnlyRaises (fun e' => e' = e ∧ e'.Reported) (raise e : Except Failure α) := by
  intro e' he'
  unfold raise at he'
  split at he'
  · next r hreport =>
    obtain rfl := Failure.engine.inj (Except.error.inj he')
    exact ⟨rfl, r, hreport⟩
  · next f hreport =>
    obtain rfl := Except.error.inj he'
    exact (e.onlyRaises_report _ hreport).elim

/-- A page size that has a text can be refused. -/
theorem raise_invalidLimit {α : Type} {size : Value} (h : size.writable = true) :
    (raise (.invalidLimit size) : Except Failure α) = .error (.engine (.invalidLimit size)) := by
  obtain ⟨quoted, hquoted⟩ := size.writes_quoted.exists_ok h
  obtain ⟨text, htext⟩ := size.writes_display.exists_ok h
  rw [raise, EngineError.report, hquoted, htext]
  rfl

/-- So can an operator. -/
theorem raise_unsupportedOperator {α : Type} {field operator : Value}
    (hField : field.writable = true) (hOperator : operator.writable = true) :
    (raise (.unsupportedOperator field operator) : Except Failure α) =
      .error (.engine (.unsupportedOperator field operator)) := by
  obtain ⟨quoted, hquoted⟩ := operator.writes_quoted.exists_ok hOperator
  obtain ⟨name, hname⟩ := field.writes_quoted.exists_ok hField
  obtain ⟨text, htext⟩ := operator.writes_display.exists_ok hOperator
  rw [raise, EngineError.report, hquoted, hname, htext]
  rfl

/-! ## Refusals -/

namespace EngineError

/-- The refusal of a field name. -/
def RefusesName (e : EngineError) : Prop := ∃ name fault, e = Field.refusal name fault

/-- The refusal of a cursor of a kind, or of a value that has none. -/
def RefusesCursor (kind : CursorKind) (e : EngineError) : Prop :=
  ∃ cursor reason, e = Codec.refusal cursor kind reason ∧ e.Reported

/-- The refusal of a filter operator on a field. -/
def RefusesOperator (field : Value) (e : EngineError) : Prop :=
  ∃ operator, e = .unsupportedOperator field operator ∧ e.Reported

/-- The refusal of a page size. -/
def RefusesLimit (e : EngineError) : Prop := ∃ limit, e = .invalidLimit limit ∧ e.Reported

end EngineError

/-! ## Field names -/

/-- A refused name can be reported. -/
theorem Field.raise_refusal {α : Type} (name : String) (fault : NameFault) :
    (raise (refusal name fault) : Except Failure α) = .error (.engine (refusal name fault)) :=
  raise_of_report rfl

/-- A text is a safe name, or is refused. -/
theorem Field.validate_str (name : String) :
    validate (.str name) =
      match nameFault? name with
      | none => .ok name
      | some fault => .error (.engine (refusal name fault)) := by
  rw [validate]
  cases nameFault? name with
  | none => rfl
  | some fault => exact raise_refusal name fault

theorem Field.onlyRaises_validate (v : Value) : OnlyRaises (·.RefusesName) (validate v) := by
  unfold validate
  split
  · split
    · exact .ok _
    · exact (onlyRaises_raise _).mono fun e he => ⟨_, _, he.1⟩
  · exact .bind (.lift _) fun _ _ => (onlyRaises_raise _).mono fun e he => ⟨_, _, he.1⟩

/-! ## Page sizes -/

theorem Limit.onlyRaises_validate (v : Value) : OnlyRaises (·.RefusesLimit) (validate v) := by
  unfold validate
  split
  · split
    · exact .ok _
    · exact (onlyRaises_raise _).mono fun e he => ⟨_, he⟩
  · exact (onlyRaises_raise _).mono fun e he => ⟨_, he⟩

/-! ## Cursors -/

namespace Codec

theorem onlyRaises_dateOfText (c : Codec) (cursor text : Value) :
    OnlyRaises (·.RefusesCursor .date) (c.dateOfText cursor text) := by
  unfold dateOfText
  split
  · split
    · exact (onlyRaises_raise _).mono fun e he => ⟨_, _, he⟩
    · split
      · exact nofun
      · dsimp only
        split
        · exact .ok _
        · exact (onlyRaises_raise _).mono fun e he => ⟨_, _, he⟩
  · exact (onlyRaises_raise _).mono fun e he => ⟨_, _, he⟩

theorem onlyRaises_refuseSignature (cursor : Value) (kind : CursorKind) :
    OnlyRaises (·.RefusesCursor kind) (refuseSignature cursor kind).result :=
  .bind_outcome (.ok _) fun _ _ => (onlyRaises_raise _).mono fun _ he => ⟨_, _, he⟩

theorem onlyRaises_openToken (secret : String) (cursor : Value) (kind : CursorKind)
    (token : List UInt8) :
    OnlyRaises (·.RefusesCursor kind) (openToken secret cursor kind token).result := by
  unfold openToken
  split
  · exact onlyRaises_refuseSignature cursor kind
  · exact .mapError_payload _

/-- Whatever is given as a cursor, checking its signature raises its refusal only. -/
theorem onlyRaises_unsign (c : Codec) (cursor : Value) (kind : CursorKind) :
    OnlyRaises (·.RefusesCursor kind) (c.unsign cursor kind).result := by
  -- a collection that holds the separator as bytes is taken for a token, and lacks its methods
  have hsearch (items : List Value) : OnlyRaises (·.RefusesCursor kind)
      (if Value.hasItem items (.bytes [Token.dot]) then Outcome.ofExcept (.error .noAttribute)
        else refuseSignature cursor kind : Outcome Value).result := by
    split
    · exact nofun
    · exact onlyRaises_refuseSignature cursor kind
  unfold unsign
  split
  · exact .ok _
  · -- only texts and bytes are opened, and of the rest only collections are searched
    dsimp only
    split
    · exact onlyRaises_openToken _ _ _ _
    · exact onlyRaises_openToken _ _ _ _
    · exact hsearch _
    · exact hsearch _
    · exact hsearch _
    · exact onlyRaises_refuseSignature _ _
    · exact nofun

/-- Reading a cursor raises its refusal only. -/
theorem onlyRaises_decode (c : Codec) (kind : CursorKind) (cursor : Value) :
    OnlyRaises (·.RefusesCursor kind) (c.decode kind cursor).result := by
  refine .bind_outcome (c.onlyRaises_unsign cursor kind) fun text _ => ?_
  split
  · exact onlyRaises_dateOfText c _ _
  · exact .ok _

/-- Writing a cursor raises the refusal of the value only. -/
theorem onlyRaises_encode (c : Codec) (kind : CursorKind) (v : Value) :
    OnlyRaises (·.RefusesCursor kind) (c.encode kind v) := by
  refine .bind ?_ fun _ _ => .ok _
  unfold position
  split
  · split
    · exact .lift _
    · exact (onlyRaises_raise _).mono fun e he => ⟨_, _, he⟩
  · exact .lift _

end Codec

/-! ## Filters -/

/-- Reading a filter raises the refusal of a field name only. -/
theorem Selection.onlyRaises_parse (filters controlKey : Value) :
    OnlyRaises (·.RefusesName) (parse filters controlKey) := by
  -- names are checked one by one, whatever was read before
  have hentries (entries : List (Value × Value)) :
      ∀ spec, OnlyRaises (·.RefusesName) (ofEntries controlKey entries spec) := by
    induction entries with
    | nil => exact fun spec => .ok spec
    | cons e rest ih =>
      intro spec
      rw [ofEntries]
      split
      · exact ih _
      · exact .bind (Field.onlyRaises_validate _) fun _ _ => ih _
  unfold parse
  split
  · exact .ok _
  · split
    · exact hentries _ _
    · exact nofun

theorem Clause.field_ofSpecification (field specification : Value) :
    (ofSpecification field specification).field = field := by
  unfold ofSpecification
  split <;> rfl

/-- The fields of a filter that was read are texts. -/
theorem Selection.fields_of_parse {filters controlKey : Value} {spec : Selection}
    (h : parse filters controlKey = .ok spec) :
    ∀ clause ∈ spec.clauses, ∃ name, clause.field = .str name := by
  have hentries (entries : List (Value × Value)) : ∀ before spec : Selection,
      (∀ clause ∈ before.clauses, ∃ name, clause.field = .str name) →
      ofEntries controlKey entries before = .ok spec →
      ∀ clause ∈ spec.clauses, ∃ name, clause.field = .str name := by
    induction entries with
    | nil =>
      intro before spec hbefore hspec
      obtain rfl := Except.ok.inj hspec
      exact hbefore
    | cons e rest ih =>
      intro before spec hbefore hspec
      rw [ofEntries] at hspec
      split at hspec
      · exact ih _ _ (by exact hbefore) hspec
      · obtain ⟨name, hname, hspec⟩ := except_bind_eq_ok.mp hspec
        refine ih _ _ ?_ hspec
        -- only a text passes as a name
        intro clause hclause
        rcases List.mem_append.mp hclause with hclause | hclause
        · exact hbefore clause hclause
        · obtain rfl := List.mem_singleton.mp hclause
          rw [Clause.field_ofSpecification]
          exact ⟨name, Field.eq_str_of_validate hname⟩
  unfold parse at h
  split at h
  · obtain rfl := Except.ok.inj h
    exact nofun
  · split at h
    · exact hentries _ {} _ nofun h
    · cases h

namespace Compiler

variable (c : Compiler)

theorem onlyRaises_checked {P : EngineError → Prop} (condition : Condition) :
    OnlyRaises P condition.checked := by
  unfold Condition.checked
  split
  · exact .ok _
  · exact nofun

/-- A clause raises the refusal of its operator only. -/
theorem onlyRaises_compileClause (clause : Clause) :
    OnlyRaises (·.RefusesOperator clause.field) (c.compileClause clause).result := by
  have hliteral (value : Value) : OnlyRaises (·.RefusesOperator clause.field) (c.literal value) :=
    .bind (.lift _) fun _ _ => .ok _
  unfold compileClause
  split
  · exact .bind_outcome (onlyRaises_checked _) fun _ _ => .ok _
  · exact .bind_outcome (onlyRaises_checked _) fun _ _ => .ok _
  · split
    · next mode _ =>
      -- writing the operand may fail, but not with an error of the engine
      refine .bind_outcome ?_ fun _ _ => .ok _
      cases mode with
      | strictWord => exact onlyRaises_checked _
      | containsWord => exact .bind (hliteral _) fun _ _ => onlyRaises_checked _
      | containsPart => exact .bind (hliteral _) fun _ _ => onlyRaises_checked _
    · unfold unknownOperator
      split
      · exact (onlyRaises_raise _).mono fun e he => ⟨_, he⟩
      · exact .ok _

/-- Clauses raise the refusal of an operator on one of their fields only. -/
theorem onlyRaises_compileClauses (clauses : List Clause) :
    OnlyRaises (fun e => ∃ clause ∈ clauses, e.RefusesOperator clause.field)
      (c.compileClauses clauses).result := by
  induction clauses with
  | nil => exact .ok _
  | cons clause rest ih =>
    refine .bind_outcome ((c.onlyRaises_compileClause clause).mono ?_) fun _ _ =>
      .bind_outcome (ih.mono ?_) fun _ _ => .ok _
    · exact fun e he => ⟨clause, List.mem_cons_self .., he⟩
    · rintro e ⟨other, hother, he⟩
      exact ⟨other, List.mem_cons_of_mem _ hother, he⟩

theorem onlyRaises_compile (spec : Selection) :
    OnlyRaises (fun e => ∃ clause ∈ spec.clauses, e.RefusesOperator clause.field)
      (c.compile spec).result := by
  unfold compile
  split
  · refine .bind_outcome (.ok _) fun _ _ => ?_
    exact .bind_outcome (c.onlyRaises_compileClauses _) fun _ _ => .ok _
  · refine .bind_outcome (onlyRaises_checked _) fun _ _ => .bind_outcome (.ok _) fun _ _ => ?_
    exact .bind_outcome (c.onlyRaises_compileClauses _) fun _ _ => .ok _

/-- Compiling a raw filter raises the refusal of a field name, or of an operator on a field with
a name, only. -/
theorem onlyRaises_compileRaw (filters : Value) :
    OnlyRaises (fun e => e.RefusesName ∨ ∃ name : String, e.RefusesOperator (.str name))
      (c.compileRaw filters).result := by
  refine .bind_outcome ((Selection.onlyRaises_parse _ _).mono fun _ => Or.inl) fun spec hspec => ?_
  refine .bind_outcome ((c.onlyRaises_compile spec).mono ?_) fun _ _ => .ok _
  rintro e ⟨clause, hclause, he⟩
  obtain ⟨name, hname⟩ := Selection.fields_of_parse hspec clause hclause
  exact Or.inr ⟨name, hname ▸ he⟩

end Compiler

/-! ## Pipelines -/

theorem SortOrder.onlyRaises_ofValue {P : EngineError → Prop} (v : Value) :
    OnlyRaises P (ofValue v) := by
  unfold ofValue
  split
  · exact .ok _
  · exact .ok _
  · exact .bind (.lift _) fun _ _ => nofun

theorem Value.onlyRaises_elements {P : EngineError → Prop} (v : Value) :
    OnlyRaises P v.elements := by
  unfold elements
  split <;> first | exact .ok _ | exact nofun

namespace Pipeline

theorem onlyRaises_supplied {P : EngineError → Prop} (stages : Value) :
    OnlyRaises P (supplied stages) := by
  unfold supplied
  split
  · exact .bind (Value.onlyRaises_elements _) fun _ _ => .ok _
  · exact .bind (.ok _) fun _ _ => .ok _

theorem onlyRaises_sortStage {P : EngineError → Prop} (field : Value) (order : SortOrder) :
    OnlyRaises P (sortStage field order) := by
  unfold sortStage
  split
  · exact .ok _
  · exact nofun

theorem onlyRaises_ofCursor {P : EngineError → Prop} (field value : Value) (order : SortOrder)
    (reverse : Bool) : OnlyRaises P (Range.ofCursor field value order reverse) := by
  unfold Range.ofCursor
  split
  · exact .ok _
  · exact nofun

variable {codec : Codec} {cursor : Cursor} {expression stages own order limit : Value}

/-- The range of a cursor raises the refusal of the cursor only. -/
theorem onlyRaises_cursorRange (reverse : Bool) : OnlyRaises (·.RefusesCursor cursor.kind)
    (cursorRange codec cursor order reverse).result := by
  unfold cursorRange
  split
  · exact .ok _
  · refine .bind_outcome (codec.onlyRaises_decode cursor.kind cursor.value) fun _ _ => ?_
    refine .bind_outcome (SortOrder.onlyRaises_ofValue _) fun _ _ => ?_
    exact .bind_outcome (onlyRaises_ofCursor _ _ _ _) fun _ _ => .ok _

/-- Building a pipeline raises the refusal of the page size or of the cursor only. -/
theorem onlyRaises_build {P : EngineError → Prop} (hLimit : OnlyRaises P (Limit.validate limit))
    (hCursor : ∀ e : EngineError, e.RefusesCursor cursor.kind → P e) (reverse : Bool) :
    OnlyRaises P (build codec expression cursor order limit stages reverse own).result := by
  refine .bind_outcome hLimit fun _ _ => ?_
  refine .bind_outcome ((onlyRaises_cursorRange reverse).mono hCursor) fun _ _ => ?_
  refine .bind_outcome (onlyRaises_supplied _) fun _ _ => ?_
  refine .bind_outcome (SortOrder.onlyRaises_ofValue _) fun _ _ => ?_
  exact .bind_outcome (onlyRaises_sortStage _ _) fun _ _ => .bind_outcome (.ok _) fun _ _ => .ok _

/-- So does building one from the parts of a cursor. -/
theorem onlyRaises_buildFrom {P : EngineError → Prop} {parts : List (String × Value)}
    (hLimit : OnlyRaises P (Limit.validate limit))
    (hCursor : ∀ (kind : CursorKind) (e : EngineError), e.RefusesCursor kind → P e)
    (reverse : Bool) :
    OnlyRaises P (buildFrom codec expression parts order limit stages reverse own).result := by
  unfold buildFrom
  dsimp only
  split
  · exact nofun
  · refine .bind_outcome hLimit fun _ _ => ?_
    -- without a cursor its kind is not read
    split
    · exact .bind_outcome (.lift _) fun kind _ => onlyRaises_build hLimit (hCursor kind) reverse
    · exact .bind_outcome (.ok _) fun kind _ => onlyRaises_build hLimit (hCursor kind) reverse

end Pipeline

end Keyset
