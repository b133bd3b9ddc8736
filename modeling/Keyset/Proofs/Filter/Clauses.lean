import Keyset.Proofs.Fault

/-!
# Keyset — clauses one by one

What the compiler makes of each clause of a filter. A clause without an operator, or with one of
the three, has a condition, and has the same one whether the compiler is strict or not. The
compilers part at an unknown operator only: a lax one warns and goes on without the clause, a
strict one stops.

* `Clause.unknown?` — the clauses with an unknown operator.
* `Compiler.Compiles` — a clause and its condition; `Compiler.exists_compiles` finds one for
  every clause on a named field with a known operator.
* `Compiler.compileClauses_lax`, `Compiler.compileClauses_strict` — clauses in a sequence.
* `Compiler.compile_eq` — the condition on the deletion mark comes first.
-/

namespace Keyset

namespace Outcome

variable {α β : Type}

/-- A sequence goes on after a value, and keeps the log. -/
theorem mk_ok_bind (log : List LogEntry) (a : α) (f : α → Outcome β) :
    (⟨log, .ok a⟩ : Outcome α) >>= f = ⟨log ++ (f a).log, (f a).result⟩ := rfl

/-- What is made of a value at the end adds nothing to the log. -/
theorem mk_ok_bind_pure (log : List LogEntry) (a : α) (f : α → β) :
    ((⟨log, .ok a⟩ : Outcome α) >>= fun a => pure (f a)) = ⟨log, .ok (f a)⟩ := by
  change (⟨log ++ [], .ok (f a)⟩ : Outcome β) = _
  rw [List.append_nil]

/-- A sequence ends with a failure. -/
theorem mk_error_bind (log : List LogEntry) (failure : Failure) (f : α → Outcome β) :
    (⟨log, .error failure⟩ : Outcome α) >>= f = ⟨log, .error failure⟩ := rfl

/-- A value that is at hand takes no step of its own. -/
theorem liftM_ok_bind (a : α) (f : α → Outcome β) :
    (liftM (Except.ok a : Except Failure α) : Outcome α) >>= f = f a := rfl

end Outcome

/-! ## Operators -/

/-- Whether a value is one of the three operators. -/
def MatchMode.named : Value → Bool
  | .str s => ["STRICT_WORD", "CONTAINS_WORD", "CONTAINS_PART"].contains s
  | _ => false

theorem MatchMode.named_iff {v : Value} :
    named v = true ↔ ∃ mode : MatchMode, ofValue? v = some mode := by
  simp only [ofValue?_eq_some_iff]
  constructor
  · intro h
    cases v with
    | str s =>
      simp only [named, List.contains_cons, List.contains_nil, Bool.or_false, Bool.or_eq_true,
        beq_iff_eq] at h
      obtain rfl | rfl | rfl := h
      · exact ⟨.strictWord, rfl⟩
      · exact ⟨.containsWord, rfl⟩
      · exact ⟨.containsPart, rfl⟩
    | _ => cases h
  · rintro ⟨mode, rfl⟩
    cases mode <;> rfl

theorem MatchMode.named_eq_false_iff {v : Value} : named v = false ↔ ofValue? v = none := by
  rw [← Bool.not_eq_true, named_iff, ← Option.isSome_iff_exists, Option.not_isSome_iff_eq_none]

/-! ## Clauses -/

namespace Clause

/-- Field and operator of a clause whose operator is none of the three. -/
def unknown? : Clause → Option (Value × Value)
  | .pattern field operator _ => if MatchMode.named operator then none else some (field, operator)
  | _ => none

/-- Whether a clause has no operator, or one of the three. -/
def isKnown (clause : Clause) : Bool := clause.unknown?.isNone

theorem unknown?_eq_some_iff {clause : Clause} {field operator : Value} :
    clause.unknown? = some (field, operator) ↔
      ∃ operand, clause = .pattern field operator operand ∧ MatchMode.ofValue? operator = none := by
  cases clause with
  | pattern f o operand =>
    rw [unknown?]
    split
    · next hnamed =>
      refine iff_of_false (by simp) ?_
      rintro ⟨_, ⟨⟩, hnone⟩
      rw [MatchMode.named_eq_false_iff.mpr hnone] at hnamed
      cases hnamed
    · next hnamed =>
      -- what has no name is reported with the field and the operator of its own clause
      have hnone := MatchMode.named_eq_false_iff.mp (Bool.eq_false_iff.mpr hnamed)
      simp only [Option.some.injEq, Prod.mk.injEq, pattern.injEq]
      constructor
      · rintro ⟨rfl, rfl⟩
        exact ⟨operand, ⟨rfl, rfl, rfl⟩, hnone⟩
      · rintro ⟨_, ⟨rfl, rfl, -⟩, -⟩
        exact ⟨rfl, rfl⟩
  | _ => simp [unknown?]

/-- The operator of a known pattern names a way to match. -/
theorem exists_mode_of_isKnown {field operator operand : Value}
    (h : (pattern field operator operand).isKnown = true) :
    ∃ mode, MatchMode.ofValue? operator = some mode := by
  rw [← MatchMode.named_iff]
  by_contra hnamed
  rw [isKnown, unknown?, if_neg hnamed] at h
  cases h

end Clause

/-! ## Compiling a clause -/

namespace Compiler

/-- The text that a pattern matches, as it is written into the pattern. -/
def spell (c : Compiler) (text : String) : String :=
  if c.escape then Pattern.escape text else text

/-- The warning about a clause that is dropped. -/
def warning (field operator : Value) : LogEntry :=
  ⟨logger, .warning, "Dropping filter clause with unsupported operator",
    [("field", field), ("operator", operator)]⟩

/-- A clause compiles to a condition, and nothing is logged. -/
def Compiles (c : Compiler) (clause : Clause) (condition : Condition) : Prop :=
  c.compileClause clause = ⟨[], .ok (some condition)⟩

/-- The same compiler, strict or not. -/
def withStrict (c : Compiler) (strict : Bool) : Compiler := { c with strict }

section

variable {c : Compiler} {clause : Clause}

/-- A known clause on a named field has its condition, if its operand has a text. -/
theorem exists_compiles (hKnown : clause.isKnown = true) {name : String}
    (hName : clause.field = .str name)
    (hText : ∀ field operator operand, clause = .pattern field operator operand →
      operand.writable = true) : ∃ condition, c.Compiles clause condition := by
  cases clause with
  | exact field value =>
    refine ⟨.equals field value, ?_⟩
    rw [Compiles, compileClause, checked_str name (.equals field value) hName]
    rfl
  | membership field values =>
    refine ⟨.isIn field values, ?_⟩
    rw [Compiles, compileClause, checked_str name (.isIn field values) hName]
    rfl
  | pattern field operator operand =>
    obtain rfl : field = .str name := hName
    -- only a pattern needs a mode and the text of its operand
    obtain ⟨mode, hmode⟩ := Clause.exists_mode_of_isKnown hKnown
    obtain ⟨condition, hcondition⟩ := c.operatorCondition_ok name (hText _ _ _ rfl) mode
    refine ⟨condition, ?_⟩
    rw [Compiles, compileClause]
    simp only [hmode, hcondition]
    rfl

/-- Only known clauses have conditions. -/
theorem isKnown_of_compiles {condition : Condition} (h : c.Compiles clause condition) :
    clause.isKnown = true := by
  have hresult := congrArg Outcome.result h
  by_contra hunknown
  rw [Clause.isKnown, Option.isNone_iff_eq_none, ← ne_eq, Option.ne_none_iff_exists'] at hunknown
  obtain ⟨⟨field, operator⟩, hunknown⟩ := hunknown
  obtain ⟨operand, rfl, hnone⟩ := Clause.unknown?_eq_some_iff.mp hunknown
  simp only [compileClause, hnone, unknownOperator] at hresult
  split at hresult
  · exact raise_ne_ok _ _ hresult
  · cases hresult

/-- Strictness makes no difference to a known clause. -/
theorem compileClause_withStrict (hKnown : clause.isKnown = true) (strict : Bool) :
    (c.withStrict strict).compileClause clause = c.compileClause clause := by
  cases clause with
  | exact field value => rfl
  | membership field values => rfl
  | pattern field operator operand =>
    obtain ⟨mode, hmode⟩ := Clause.exists_mode_of_isKnown hKnown
    simp only [compileClause, hmode]
    rfl

variable {field operator : Value} (hUnknown : clause.unknown? = some (field, operator))

include hUnknown

/-- A lax compiler drops an unknown clause with a warning. -/
theorem compileClause_lax (hLax : c.strict = false) :
    c.compileClause clause = ⟨[warning field operator], .ok none⟩ := by
  obtain ⟨operand, rfl, hnone⟩ := Clause.unknown?_eq_some_iff.mp hUnknown
  simp only [compileClause, hnone, unknownOperator, hLax]
  rfl

/-- A strict compiler refuses it with its field and operator. -/
theorem compileClause_strict (hStrict : c.strict = true) (hField : field.writable = true)
    (hOperator : operator.writable = true) :
    c.compileClause clause = ⟨[], .error (.engine (.unsupportedOperator field operator))⟩ := by
  obtain ⟨operand, rfl, hnone⟩ := Clause.unknown?_eq_some_iff.mp hUnknown
  simp only [compileClause, hnone, unknownOperator, hStrict, if_true,
    raise_unsupportedOperator hField hOperator]
  rfl

end

/-! ## Clauses in a sequence -/

section

variable {c : Compiler} {clauses : List Clause}

/-- Clauses that all have conditions compile to these. -/
theorem compileClauses_of_compiles {conditions : List Condition}
    (h : List.Forall₂ c.Compiles clauses conditions) :
    c.compileClauses clauses = ⟨[], .ok conditions⟩ := by
  induction h with
  | nil => rfl
  | cons hclause _ ih =>
    rw [compileClauses, hclause, Outcome.mk_ok_bind, ih]
    rfl

/-- A lax compiler gives the conditions of the known clauses, and one warning for each of the
others; both in order. -/
theorem compileClauses_lax (hLax : c.strict = false)
    (hKnown : ∀ clause ∈ clauses, clause.isKnown = true → ∃ condition, c.Compiles clause condition) :
    ∃ conditions, List.Forall₂ c.Compiles (clauses.filter Clause.isKnown) conditions ∧
      c.compileClauses clauses =
        ⟨(clauses.filterMap Clause.unknown?).map fun u => warning u.1 u.2, .ok conditions⟩ := by
  induction clauses with
  | nil => exact ⟨[], .nil, rfl⟩
  | cons clause rest ih =>
    obtain ⟨hclause, hrest⟩ := List.forall_mem_cons.mp hKnown
    obtain ⟨conditions, hconditions, hcompiled⟩ := ih hrest
    rw [compileClauses, hcompiled]
    cases hunknown : clause.unknown? with
    | none =>
      have hk : clause.isKnown = true := by rw [Clause.isKnown, hunknown]; rfl
      -- a clause that is known adds its condition and no warning
      obtain ⟨condition, hcondition⟩ := hclause hk
      rw [List.filter_cons_of_pos hk, List.filterMap_cons_none hunknown, hcondition,
        Outcome.mk_ok_bind, Outcome.mk_ok_bind_pure]
      exact ⟨condition :: conditions, .cons hcondition hconditions, rfl⟩
    | some u =>
      -- one that is not is dropped, with a warning
      have hk : ¬ clause.isKnown = true := by simp [Clause.isKnown, hunknown]
      rw [List.filter_cons_of_neg hk, List.filterMap_cons_some hunknown,
        compileClause_lax hunknown hLax, Outcome.mk_ok_bind, Outcome.mk_ok_bind_pure]
      exact ⟨conditions, hconditions, rfl⟩

/-- A strict compiler refuses the first unknown clause; the ones before it have conditions. -/
theorem compileClauses_strict (hStrict : c.strict = true)
    (hKnown : ∀ clause ∈ clauses, clause.isKnown = true → ∃ condition, c.Compiles clause condition)
    {field operator : Value} (hFirst : clauses.findSome? Clause.unknown? = some (field, operator))
    (hField : field.writable = true) (hOperator : operator.writable = true) :
    c.compileClauses clauses =
      ⟨[], .error (.engine (.unsupportedOperator field operator))⟩ := by
  induction clauses with
  | nil => cases hFirst
  | cons clause rest ih =>
    obtain ⟨hclause, hrest⟩ := List.forall_mem_cons.mp hKnown
    rw [compileClauses]
    cases hunknown : clause.unknown? with
    | none =>
      -- the clauses before the first unknown one compile, and leave nothing in the log
      obtain ⟨condition, hcondition⟩ := hclause (by rw [Clause.isKnown, hunknown]; rfl)
      rw [List.findSome?_cons, hunknown] at hFirst
      rw [hcondition, Outcome.mk_ok_bind, ih hrest hFirst]
      rfl
    | some u =>
      rw [List.findSome?_cons, hunknown] at hFirst
      obtain rfl := Option.some.inj hFirst
      rw [compileClause_strict hunknown hStrict hField hOperator, Outcome.mk_error_bind]

end

/-! ## Filters -/

/-- The condition on the deletion mark, unless deleted documents count. -/
def markConditions (c : Compiler) (withDeleted : Bool) : List Condition :=
  if withDeleted then [] else [.equals c.softDeleteField .null]

/-- The conditions of a filter are the one on the deletion mark and those of the clauses. -/
theorem compile_eq (c : Compiler) {mark : String} (hMark : c.softDeleteField = .str mark)
    (spec : Selection) : c.compile spec = do
      let conditions ← c.compileClauses spec.clauses
      return c.markConditions spec.withDeleted ++ conditions := by
  have hmark : c.notDeleted = .ok (.equals c.softDeleteField .null) := checked_str mark _ hMark
  rw [compile, markConditions]
  cases spec.withDeleted with
  | true => rfl
  | false =>
    rw [if_neg Bool.false_ne_true, if_neg Bool.false_ne_true, hmark, Outcome.liftM_ok_bind,
      pure_bind]

end Compiler

end Keyset
