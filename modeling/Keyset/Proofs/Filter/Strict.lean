import Keyset.Proofs.Filter.Clauses
import Keyset.Proofs.Filter.Reading

/-!
# Keyset — strict and lax compilers

A strict compiler gives what a lax one gives, or refuses. Where every operator is one of the
three, the two give the same expression, and the lax one has nothing to warn about. At an unknown
operator the strict compiler stops, with the field and the operator of the first such clause; the
lax one goes on as if none of these clauses had been there, and warns once for each.

Operators and operands are assumed to have texts: a refusal shows the operator, and a pattern the
operand.

* `FilterInput` — filters that were read before, and raw ones.
* `Compiler.expression` — the expression of either.
* `Compiler.strict_refines_lax` — how strict and lax compilers differ.
-/

namespace Keyset

/-! ## Filters to compile -/

/-- A filter as a compiler takes it: read before, or raw. -/
inductive FilterInput where
  | parsed (spec : Selection)
  | raw (entries : List (Value × Value))

namespace FilterInput

/-- What a filter is read as. -/
def selection (controlKey : Value) : FilterInput → Selection
  | .parsed spec => spec
  | .raw entries => .ofMapping controlKey entries

/-- The fields of a filter have names; the keys of a raw one, the control key apart, safe ones. -/
def Named (controlKey : Value) : FilterInput → Prop
  | .parsed spec => ∀ clause ∈ spec.clauses, ∃ name, clause.field = .str name
  | .raw entries => Selection.SafeNames controlKey entries

theorem named_selection {controlKey : Value} {input : FilterInput} (h : input.Named controlKey) :
    ∀ clause ∈ (input.selection controlKey).clauses, ∃ name, clause.field = .str name := by
  cases input with
  | parsed spec => exact h
  | raw entries => exact Selection.named_ofMapping h

end FilterInput

/-- The operator and the operand of a clause have texts, if it has them. -/
def Clause.Written (clause : Clause) : Prop :=
  ∀ field operator operand, clause = .pattern field operator operand →
    operator.writable = true ∧ operand.writable = true

/-- A filter without its unknown clauses. -/
def Selection.known (spec : Selection) : Selection :=
  { spec with clauses := spec.clauses.filter Clause.isKnown }

namespace Compiler

/-- The expression of a filter. -/
def expression (c : Compiler) : FilterInput → Outcome Value
  | .parsed spec => do return conjunction (← c.compile spec)
  | .raw entries => c.compileRaw (.mapping entries)

section

variable {c : Compiler}

/-- A raw filter has the expression of what it is read as. -/
theorem expression_eq {input : FilterInput} (hNamed : input.Named c.controlKey) :
    c.expression input =
      (do return conjunction (← c.compile (input.selection c.controlKey))) := by
  cases input with
  | parsed spec => rfl
  | raw entries =>
    rw [expression, compileRaw, Selection.parse_of_safe hNamed, Outcome.liftM_ok_bind]
    rfl

/-- The expression follows from what the clauses compile to. -/
theorem expression_of_compileClauses {mark : String} (hMark : c.softDeleteField = .str mark)
    {input : FilterInput} (hNamed : input.Named c.controlKey) {log : List LogEntry}
    {conditions : List Condition}
    (h : c.compileClauses (input.selection c.controlKey).clauses = ⟨log, .ok conditions⟩) :
    c.expression input = ⟨log, .ok (conjunction
      (c.markConditions (input.selection c.controlKey).withDeleted ++ conditions))⟩ := by
  rw [expression_eq hNamed, c.compile_eq hMark, h, Outcome.mk_ok_bind_pure,
    Outcome.mk_ok_bind_pure]

/-- So does a failure. -/
theorem expression_of_compileClauses_error {mark : String} (hMark : c.softDeleteField = .str mark)
    {input : FilterInput} (hNamed : input.Named c.controlKey) {log : List LogEntry}
    {failure : Failure}
    (h : c.compileClauses (input.selection c.controlKey).clauses = ⟨log, .error failure⟩) :
    c.expression input = ⟨log, .error failure⟩ := by
  rw [expression_eq hNamed, c.compile_eq hMark, h, Outcome.mk_error_bind, Outcome.mk_error_bind]

/-- A clause has the same condition for a strict compiler as for a lax one. -/
theorem compiles_withStrict {clause : Clause} {condition : Condition}
    (h : c.Compiles clause condition) (strict : Bool) :
    (c.withStrict strict).Compiles clause condition := by
  rw [Compiles, compileClause_withStrict (isKnown_of_compiles h)]
  exact h

end

/-- **Strictness.** A filter without unknown operators has one expression for strict and lax
compilers, and nothing is logged. Otherwise a strict compiler refuses the first unknown operator in
the order of the clauses, and a lax one gives the expression of the filter without the clauses that
have one, which any compiler gives, and logs one warning for each of them in their order. -/
theorem strict_refines_lax {c : Compiler} {mark : String} (hMark : c.softDeleteField = .str mark)
    {input : FilterInput} {spec : Selection} (hSpec : input.selection c.controlKey = spec)
    (hNamed : input.Named c.controlKey) (hTexts : ∀ clause ∈ spec.clauses, clause.Written) :
    ((∀ clause ∈ spec.clauses, clause.isKnown = true) →
      ∃ expression, ∀ strict,
        (c.withStrict strict).expression input = ⟨[], .ok expression⟩) ∧
    ∀ field operator, spec.clauses.findSome? Clause.unknown? = some (field, operator) →
      (c.withStrict true).expression input =
        ⟨[], .error (.engine (.unsupportedOperator field operator))⟩ ∧
      ∃ expression,
        (c.withStrict false).expression input =
          ⟨(spec.clauses.filterMap Clause.unknown?).map fun u => warning u.1 u.2,
            .ok expression⟩ ∧
        ∀ strict, (c.withStrict strict).expression (.parsed spec.known) =
          ⟨[], .ok expression⟩ := by
  have hnames := FilterInput.named_selection hNamed
  rw [hSpec] at hnames
  -- conditions of known clauses do not depend on how strict the compiler is
  have hknown (strict : Bool) : ∀ clause ∈ spec.clauses, clause.isKnown = true →
      ∃ condition, (c.withStrict strict).Compiles clause condition := by
    intro clause hclause hk
    obtain ⟨name, hname⟩ := hnames clause hclause
    exact exists_compiles hk hname fun f o v heq => (hTexts clause hclause f o v heq).2
  -- so that what the lax one gives, and the filter without its unknown clauses, is the same for all
  obtain ⟨conditions, hconditions, hlax⟩ :=
    compileClauses_lax (c := c.withStrict false) rfl (hknown false)
  have hsame (strict : Bool) : (c.withStrict strict).compileClauses
      (spec.clauses.filter Clause.isKnown) = ⟨[], .ok conditions⟩ :=
    compileClauses_of_compiles (hconditions.imp fun _ _ h => compiles_withStrict h strict)
  subst hSpec
  let compiled :=
    conjunction (c.markConditions (input.selection c.controlKey).withDeleted ++ conditions)
  refine ⟨fun hall => ⟨compiled, fun strict => ?_⟩,
    fun field operator hfirst => ⟨?_, compiled, ?_, fun strict => ?_⟩⟩
  · have hclauses := hsame strict
    rw [List.filter_eq_self.mpr hall] at hclauses
    exact expression_of_compileClauses (c := c.withStrict strict) hMark hNamed hclauses
  · obtain ⟨clause, hclause, hunknown⟩ := List.exists_of_findSome?_eq_some hfirst
    obtain ⟨operand, rfl, -⟩ := Clause.unknown?_eq_some_iff.mp hunknown
    obtain ⟨name, rfl⟩ : ∃ name, field = .str name := hnames _ hclause
    exact expression_of_compileClauses_error (c := c.withStrict true) hMark hNamed
      (compileClauses_strict (c := c.withStrict true) rfl (hknown true) hfirst rfl
        (hTexts _ hclause _ _ _ rfl).1)
  · exact expression_of_compileClauses (c := c.withStrict false) hMark hNamed hlax
  · have hnamed : FilterInput.Named c.controlKey
        (.parsed (input.selection c.controlKey).known) :=
      fun clause hclause => hnames clause (List.mem_filter.mp hclause).1
    exact expression_of_compileClauses (c := c.withStrict strict) hMark hnamed (hsame strict)

/-- A filter whose entries under `size` and `kind` have no operator and an unknown one. -/
def laxFilter : List (Value × Value) :=
  [(.str "status", .str "open"), (.str "size", .int 5),
    (.str "kind", .object [("operator", .str "LIKE"), ("value", .str "x")]),
    (.str "name", .object [("operator", .str "CONTAINS_PART"), ("value", .str "ob")])]

/-- The expression of `laxFilter`, and of its first and last entry. -/
def laxExpression : Value :=
  .object [("$and", .list
    [.object [("deletedAt", .null)], .object [("status", .str "open")],
      .object [("name", .object [("$regex", .str "ob"), ("$options", .str "i")])]])]

/-- A strict compiler refuses `laxFilter` at `size`, a lax one warns about `size` and `kind`; both
give its expression without these. -/
theorem strict_refines_lax_laxFilter :
    (({} : Compiler).withStrict true).expression (.raw laxFilter) =
      ⟨[], .error (.engine (.unsupportedOperator (.str "size") .null))⟩ ∧
    (({} : Compiler).withStrict false).expression (.raw laxFilter) =
      ⟨[warning (.str "size") .null, warning (.str "kind") (.str "LIKE")], .ok laxExpression⟩ ∧
    ∀ strict, (({} : Compiler).withStrict strict).expression
      (.parsed (Selection.ofMapping (.str "withDeleted") laxFilter).known) =
        ⟨[], .ok laxExpression⟩ := by
  have hnamed : FilterInput.Named (.str "withDeleted") (.raw laxFilter) :=
    Selection.safeNames_of_all (by decide) _
  have htexts : ∀ clause ∈ (Selection.ofMapping (.str "withDeleted") laxFilter).clauses,
      clause.Written := by
    intro clause hclause f operator operand hpattern
    have hmem : clause ∈ laxFilter.map fun e => Clause.ofSpecification e.1 e.2 := hclause
    simp only [laxFilter, List.map_cons, List.map_nil, List.mem_cons, List.not_mem_nil,
      or_false] at hmem
    rcases hmem with rfl | rfl | rfl | rfl <;> cases hpattern <;> exact ⟨rfl, rfl⟩
  obtain ⟨-, hunknown⟩ := strict_refines_lax (c := {}) rfl rfl hnamed htexts
  obtain ⟨hstrict, expression, hlax, hsame⟩ := hunknown (.str "size") .null rfl
  have hexpression : (({} : Compiler).withStrict false).expression (.raw laxFilter) =
      ⟨[warning (.str "size") .null, warning (.str "kind") (.str "LIKE")], .ok laxExpression⟩ := rfl
  obtain rfl : laxExpression = expression :=
    Except.ok.inj (congrArg Outcome.result (hexpression.symm.trans hlax))
  exact ⟨hstrict, hlax, hsame⟩

end Compiler

end Keyset
