import Keyset.Proofs.Filter.Operators
import Keyset.Proofs.Session.Limit

/-!
# Keyset — what an operation is at fault for

An operation that gets what it was made for can fail in one way only, which is known before it
runs: its fault, if it has one. Steps in a sequence are at fault one after the other, so that the
fault of an operation is the first of its steps'.

* `HasFault` — a result is what is at fault, or a value if nothing is.
* `HasFault.bind` — the fault of a sequence.
* `Limit.fault?`, `Field.fault?`, `Clause.fault?`, `Codec.fault?` — the faults of page sizes, field
  names, filter clauses and cursors.
* `Selection.hasFault_parse`, `Compiler.hasFault_compile`, `Pipeline.hasFault_build` — the faults
  of the operations that compile a request.
-/

namespace Keyset

/-! ## Faults -/

/-- A result is what is at fault, or some value if nothing is. -/
def HasFault {α : Type} (fault : Option Failure) (r : Except Failure α) : Prop :=
  match fault with
  | none => ∃ a, r = .ok a
  | some f => r = .error f

namespace HasFault

variable {α β : Type} {fault fault' : Option Failure}

theorem ok (a : α) : HasFault none (.ok a) := ⟨a, rfl⟩

theorem error (f : Failure) : HasFault (some f) (.error f : Except Failure α) := rfl

/-- Nothing is at fault with a value. -/
theorem eq_none {r : Except Failure α} (h : HasFault fault r) {a : α} (hOk : r = .ok a) :
    fault = none := by
  subst hOk
  cases fault with
  | none => rfl
  | some f => cases h

/-- A sequence is at fault for the first step that is. -/
theorem bind {x : Except Failure α} {f : α → Except Failure β} (hx : HasFault fault x)
    (hf : ∀ a, x = .ok a → HasFault fault' (f a)) : HasFault (fault.or fault') (x >>= f) := by
  cases fault with
  | none =>
    obtain ⟨a, rfl⟩ := hx
    exact hf a rfl
  | some failure =>
    obtain rfl : x = .error failure := hx
    exact error failure

/-- Logging makes no difference. -/
theorem bind_outcome {x : Outcome α} {f : α → Outcome β} (hx : HasFault fault x.result)
    (hf : ∀ a, x.result = .ok a → HasFault fault' (f a).result) :
    HasFault (fault.or fault') (x >>= f).result := by
  rw [Outcome.result_bind]
  exact hx.bind hf

/-- A last step that cannot fail makes no difference either. -/
theorem bind_ok {x : Outcome α} {f : α → Outcome β} (hx : HasFault fault x.result)
    (hf : ∀ a, x.result = .ok a → ∃ b, (f a).result = .ok b) :
    HasFault fault (x >>= f).result := by
  rw [← Option.or_none (o := fault)]
  exact hx.bind_outcome hf

end HasFault

/-- What a result is at fault for. -/
def faultOf {α : Type} : Except Failure α → Option Failure
  | .ok _ => none
  | .error f => some f

theorem hasFault_faultOf {α : Type} (r : Except Failure α) : HasFault (faultOf r) r := by
  cases r with
  | ok a => exact .ok a
  | error f => exact .error f

theorem faultOf_eq_none {α : Type} {r : Except Failure α} :
    faultOf r = none ↔ ∃ a, r = .ok a := by
  cases r <;> simp [faultOf]

/-- The first fault among those of a list. -/
theorem findSome?_cons_or {α : Type} (fault? : α → Option Failure) (a : α) (rest : List α) :
    (a :: rest).findSome? fault? = (fault? a).or (rest.findSome? fault?) := by
  rw [List.findSome?_cons]
  cases fault? a <;> rfl

/-- The fault of a page size that is not positive. -/
def Limit.fault? (size : Int) : Option Failure :=
  if 0 < size then none else some (.engine (.invalidLimit (.int size)))

theorem Limit.fault?_eq_none {size : Int} : fault? size = none ↔ 0 < size := by
  unfold fault?
  split <;> simp_all

/-- The fault of an unsafe field name. -/
def Field.fault? (name : String) : Option Failure :=
  (nameFault? name).map fun fault => .engine (refusal name fault)

theorem Field.fault?_eq_none {name : String} : fault? name = none ↔ nameFault? name = none :=
  Option.map_eq_none_iff

theorem Field.hasFault_validate (name : String) : HasFault (fault? name) (validate (.str name)) := by
  rw [validate_str, fault?]
  cases nameFault? name with
  | none => exact .ok name
  | some fault => exact .error _

theorem Limit.hasFault_validate {size : Int} (h : Decimal.fits size = true) :
    HasFault (fault? size) (validate (.int size)) := by
  rw [validate_int h, fault?]
  split
  · exact .ok size
  · exact .error _

/-! ## Filters -/

/-- The filters of a request, but for the control key. -/
def Request.filtered (config : Config) (request : Request) : List (String × Value) :=
  (request.filters.getD []).filter (·.1 != config.withDeletedKey)

/-- The fault of a clause with an unknown operator, if that is refused. -/
def Clause.fault? (strict : Bool) : Clause → Option Failure
  | .pattern field operator _ =>
      if strict && (MatchMode.ofValue? operator).isNone then
        some (.engine (.unsupportedOperator field operator))
      else none
  | _ => none

theorem Clause.fault?_eq_none {strict : Bool} {clause : Clause} :
    fault? strict clause = none ↔ (strict = true → ∀ name operator operand,
      clause = .pattern name operator operand → ∃ mode, MatchMode.ofValue? operator = some mode) := by
  cases clause with
  | pattern name operator operand =>
    cases strict <;> cases h : MatchMode.ofValue? operator <;> simp_all [fault?]
  | _ => simp [fault?]

/-- The clause of a filtered field. -/
def Clause.ofFilter (filter : String × Value) : Clause := ofSpecification (.str filter.1) filter.2

/-- The operator and the operand of a clause have texts if its specification has one. -/
theorem Clause.writable_of_pattern {field specification clauseField operator operand : Value}
    (h : specification.writable = true)
    (hClause : ofSpecification field specification = .pattern clauseField operator operand) :
    operator.writable = true ∧ operand.writable = true := by
  unfold ofSpecification at hClause
  split at hClause <;> cases hClause
  · exact ⟨Value.writable_field h _, Value.writable_field h _⟩
  · exact ⟨Value.writable_entry h _, Value.writable_entry h _⟩
  · exact ⟨rfl, h⟩

namespace Selection

/-- Reading the filters of a request is at fault for the first unsafe name. -/
theorem hasFault_parse (config : Config) (request : Request) :
    HasFault ((request.filtered config).findSome? fun f => Field.fault? f.1)
      (parse (.ofOption .object request.filters) (.str config.withDeletedKey)) := by
  -- the fault does not depend on what has been read before, so the induction is for any selection
  have hentries (filters : List (String × Value)) : ∀ spec, HasFault
      ((filters.filter (·.1 != config.withDeletedKey)).findSome? fun f => Field.fault? f.1)
      (ofEntries (.str config.withDeletedKey) (filters.map fun f => (.str f.1, f.2)) spec) := by
    induction filters with
    | nil => exact fun spec => .ok spec
    | cons f rest ih =>
      intro spec
      rw [List.map_cons, ofEntries, Value.sameKey]
      by_cases hcontrol : f.1 = config.withDeletedKey
      · -- the control key is not checked, even where it would be no safe name
        rw [if_pos (by simpa using hcontrol), List.filter_cons_of_neg (by simpa using hcontrol)]
        exact ih _
      · rw [if_neg (by simpa using hcontrol), List.filter_cons_of_pos (by simpa using hcontrol),
          findSome?_cons_or]
        exact (Field.hasFault_validate f.1).bind fun _ _ => ih _
  unfold parse Request.filtered
  cases request.filters with
  | none => exact .ok _
  | some filters =>
    cases filters with
    | nil => exact .ok _
    | cons f rest => exact hentries (f :: rest) {}

/-- The clauses of a request are those of its filters, but for the control key. -/
theorem clauses_of_parse {config : Config} {request : Request} {spec : Selection}
    (h : parse (.ofOption .object request.filters) (.str config.withDeletedKey) = .ok spec) :
    spec.clauses = (request.filtered config).map Clause.ofFilter := by
  unfold Request.filtered
  cases hfilters : request.filters with
  | none =>
    rw [hfilters] at h
    obtain rfl := Except.ok.inj h
    rfl
  | some filters =>
    rw [hfilters] at h
    rw [parse_clauses h, List.filter_map, List.map_map]
    rfl

end Selection

namespace Compiler

variable (c : Compiler)

theorem checked_str (name : String) (condition : Condition) (h : condition.field = .str name) :
    condition.checked = .ok condition := by
  rw [Condition.checked, h]
  rfl

/-- The condition of a known operator always has a text. -/
theorem operatorCondition_ok (name : String) {operand : Value} (h : operand.writable = true)
    (mode : MatchMode) : ∃ condition, c.operatorCondition (.str name) operand mode = .ok condition := by
  obtain ⟨text, htext⟩ := operand.writes_display.exists_ok h
  have hliteral : c.literal operand = .ok (if c.escape then Pattern.escape text else text) := by
    rw [literal, htext]
    rfl
  cases mode with
  | strictWord => exact ⟨_, checked_str name _ rfl⟩
  | containsWord =>
    rw [operatorCondition, hliteral, except_ok_bind]
    exact ⟨_, checked_str name _ rfl⟩
  | containsPart =>
    rw [operatorCondition, hliteral, except_ok_bind]
    exact ⟨_, checked_str name _ rfl⟩

/-- A clause is at fault for an unknown operator, if that is refused. -/
theorem hasFault_compileClause {filter : String × Value} (h : filter.2.writable = true) :
    HasFault ((Clause.ofFilter filter).fault? c.strict)
      (c.compileClause (.ofFilter filter)).result := by
  -- a text can be a key, so that only the operator is left to be wrong
  have hfield := Clause.field_ofSpecification (.str filter.1) filter.2
  cases hclause : Clause.ofSpecification (.str filter.1) filter.2 with
  | exact field value =>
    obtain rfl : field = .str filter.1 := by rwa [hclause] at hfield
    rw [Clause.ofFilter, hclause, compileClause, Outcome.result_bind, Outcome.result_liftM,
      checked_str filter.1 _ rfl]
    exact .ok _
  | membership field values =>
    obtain rfl : field = .str filter.1 := by rwa [hclause] at hfield
    rw [Clause.ofFilter, hclause, compileClause, Outcome.result_bind, Outcome.result_liftM,
      checked_str filter.1 _ rfl]
    exact .ok _
  | pattern field operator operand =>
    obtain rfl : field = .str filter.1 := by rwa [hclause] at hfield
    obtain ⟨hoperator, hoperand⟩ := Clause.writable_of_pattern h hclause
    rw [Clause.ofFilter, hclause, compileClause, Clause.fault?]
    cases MatchMode.ofValue? operator with
    | some mode =>
      obtain ⟨condition, hcondition⟩ := c.operatorCondition_ok filter.1 hoperand mode
      rw [Option.isNone_some, Bool.and_false, if_neg Bool.false_ne_true]
      dsimp only
      rw [Outcome.result_bind, Outcome.result_liftM, hcondition]
      exact .ok _
    | none =>
      rw [Option.isNone_none, Bool.and_true]
      dsimp only
      rw [unknownOperator]
      cases c.strict with
      | true =>
        rw [if_pos rfl, if_pos rfl, Outcome.result_ofExcept, raise_unsupportedOperator rfl hoperator]
        exact .error _
      | false =>
        rw [if_neg Bool.false_ne_true, if_neg Bool.false_ne_true]
        exact .ok none

/-- Clauses are at fault for the first one that is. -/
theorem hasFault_compileClauses {filters : List (String × Value)}
    (h : ∀ f ∈ filters, f.2.writable = true) :
    HasFault ((filters.map Clause.ofFilter).findSome? (Clause.fault? c.strict))
      (c.compileClauses (filters.map Clause.ofFilter)).result := by
  induction filters with
  | nil => exact .ok _
  | cons f rest ih =>
    obtain ⟨hf, hrest⟩ := List.forall_mem_cons.mp h
    rw [List.map_cons, findSome?_cons_or, compileClauses]
    refine (c.hasFault_compileClause hf).bind_outcome fun first _ => ?_
    exact (ih hrest).bind_ok fun others _ => ⟨_, rfl⟩

/-- A filter that is read is at fault for its clauses; the condition on the deletion mark is
never at fault. -/
theorem hasFault_compile {name : String} (hMark : c.softDeleteField = .str name)
    {filters : List (String × Value)} (h : ∀ f ∈ filters, f.2.writable = true) (spec : Selection)
    (hClauses : spec.clauses = filters.map Clause.ofFilter) :
    HasFault ((filters.map Clause.ofFilter).findSome? (Clause.fault? c.strict))
      (c.compile spec).result := by
  have hmark : c.notDeleted = .ok (.equals c.softDeleteField .null) := checked_str name _ hMark
  have hclauses := c.hasFault_compileClauses h
  rw [compile, hClauses]
  split
  · rw [pure_bind]
    exact hclauses.bind_ok fun _ _ => ⟨_, rfl⟩
  · rw [Outcome.result_bind, Outcome.result_liftM, hmark, except_ok_bind, pure_bind]
    exact hclauses.bind_ok fun _ _ => ⟨_, rfl⟩

end Compiler

/-! ## Pipelines -/

/-- What reading a cursor is at fault for, if there is a cursor. -/
def Codec.fault? (c : Codec) (kind : CursorKind) (cursor : Option String) : Option Failure :=
  cursor.bind fun text => faultOf (c.decode kind (.str text)).result

theorem Codec.fault?_eq_none {c : Codec} {kind : CursorKind} {cursor : Option String} :
    c.fault? kind cursor = none ↔ ∀ text, cursor = some text →
      ∃ v, (c.decode kind (.str text)).result = .ok v := by
  cases cursor <;> simp [fault?, faultOf_eq_none]

namespace Pipeline

variable (codec : Codec) (field : String) (kind : CursorKind) {cursor : Option String}
  (hCursor : cursor ≠ some "") (order : SortOrder)

include hCursor

theorem hasFault_cursorRange : HasFault (codec.fault? kind cursor)
    (cursorRange codec ⟨.str field, kind, .ofOption .str cursor⟩ (.str order.text) false).result := by
  cases cursor with
  | none => exact .ok none
  | some text =>
    have hpresent : (Value.str text).truthy = true := by
      simpa [Value.truthy] using fun h => hCursor (congrArg some h)
    rw [cursorRange, Value.ofOption, hpresent, Bool.not_true, if_neg Bool.false_ne_true]
    refine HasFault.bind_ok (hasFault_faultOf _) fun v _ => ?_
    rw [Outcome.result_bind, Outcome.result_liftM, SortOrder.ofValue_text, except_ok_bind]
    exact ⟨_, rfl⟩

/-- Building a pipeline is at fault for the page size, or else for the cursor. -/
theorem hasFault_build {limit : Int} (hFits : Decimal.fits limit = true) (expression : Value)
    (stages : Option (List Value)) :
    HasFault ((Limit.fault? limit).or (codec.fault? kind cursor))
      (build codec expression ⟨.str field, kind, .ofOption .str cursor⟩ (.str order.text)
        (.int limit) (.ofOption .list stages) false .null).result := by
  rw [build]
  refine (Limit.hasFault_validate hFits).bind_outcome fun n _ => ?_
  refine (hasFault_cursorRange codec field kind hCursor order).bind_ok fun range _ => ?_
  rw [Outcome.result_bind, Outcome.result_liftM, supplied_ofOption, except_ok_bind,
    Outcome.result_bind, Outcome.result_liftM, SortOrder.ofValue_text, except_ok_bind]
  exact ⟨_, rfl⟩

end Pipeline

end Keyset
