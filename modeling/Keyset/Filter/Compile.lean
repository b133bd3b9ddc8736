import Keyset.Filter.Clause
import Keyset.Filter.Escape
import Keyset.Log

/-!
# Keyset — compiling filters

A filter compiles into a conjunction of conditions. Unless deleted documents
count, its first condition asks for documents without a deletion mark.

* `Condition` — equality, membership, or a text pattern.
* `Compiler.compile` — the conditions of a filter, or none at all.

A clause with an unknown operator is dropped with a warning, or refused by a
strict compiler.
-/

namespace Keyset

/-- A condition on one field. -/
inductive Condition where
  | equals (field value : Value)
  | isIn (field : Value) (values : List Value)
  | matchesPattern (field : Value) (pattern : String)
  deriving Inhabited

namespace Condition

/-- The field of a condition. -/
def field : Condition → Value
  | .equals f _ => f
  | .isIn f _ => f
  | .matchesPattern f _ => f

/-- What a condition asks of its field. -/
def body : Condition → Value
  | .equals _ v => v
  | .isIn _ vs => .object [("$in", .list vs)]
  | .matchesPattern _ p => .object [("$regex", .str p), ("$options", .str "i")]

/-- The document of a condition. -/
def toValue (c : Condition) : Value := .mapping [(c.field, c.body)]

/-- A condition, if its field can be a key. -/
def checked (c : Condition) : Except Failure Condition :=
  if c.field.hashable then .ok c else .error .wrongType

end Condition

/-- How the operand of a clause is matched. -/
inductive MatchMode where
  | strictWord
  | containsWord
  | containsPart
  deriving DecidableEq, Repr

/-- The operator that a value names. -/
def MatchMode.ofValue? : Value → Option MatchMode
  | .str "STRICT_WORD" => some .strictWord
  | .str "CONTAINS_WORD" => some .containsWord
  | .str "CONTAINS_PART" => some .containsPart
  | _ => none

/-- How filters are compiled. -/
structure Compiler where
  softDeleteField : Value := .str "deletedAt"
  controlKey : Value := .str "withDeleted"
  /-- Whether an unknown operator is refused. -/
  strict : Bool := false
  /-- Whether pattern values are matched literally. -/
  escape : Bool := false
  deriving Inhabited

namespace Compiler

/-- The name under which dropped clauses are logged. -/
def logger : String := "docpager.pagination.filters"

/-- The text that a pattern matches. -/
def literal (c : Compiler) (value : Value) : Except Failure String := do
  let text ← value.display
  return if c.escape then Pattern.escape text else text

/-- The condition of a known operator. -/
def operatorCondition (c : Compiler) (field value : Value) :
    MatchMode → Except Failure Condition
  | .strictWord => (Condition.equals field value).checked
  | .containsWord => do
      let text ← c.literal value
      (Condition.matchesPattern field ("\\b" ++ text ++ "\\b")).checked
  | .containsPart => do
      let text ← c.literal value
      (Condition.matchesPattern field text).checked

/-- Drop a clause with an unknown operator, or refuse it. -/
def unknownOperator (c : Compiler) (field operator : Value) : Outcome (Option Condition) :=
  if c.strict then Outcome.ofExcept (raise (.unsupportedOperator field operator))
  else do
    Outcome.emit ⟨logger, .warning, "Dropping filter clause with unsupported operator",
      [("field", field), ("operator", operator)]⟩
    return none

/-- The condition of a clause; none for a dropped one. -/
def compileClause (c : Compiler) : Clause → Outcome (Option Condition)
  | .exact field value => do
      return some (← (Condition.equals field value).checked)
  | .membership field values => do
      return some (← (Condition.isIn field values).checked)
  | .pattern field operator value =>
      match MatchMode.ofValue? operator with
      | some op => do return some (← c.operatorCondition field value op)
      | none => c.unknownOperator field operator

/-- The conditions of clauses, in their order. -/
def compileClauses (c : Compiler) : List Clause → Outcome (List Condition)
  | [] => pure []
  | clause :: rest => do
      let first ← c.compileClause clause
      let others ← c.compileClauses rest
      return first.toList ++ others

/-- The condition that no deletion mark is set. -/
def notDeleted (c : Compiler) : Except Failure Condition :=
  (Condition.equals c.softDeleteField .null).checked

/-- The conditions of a filter. -/
def compile (c : Compiler) (spec : Selection) : Outcome (List Condition) := do
  let base ← if spec.withDeleted then pure [] else do pure [← c.notDeleted]
  let conditions ← c.compileClauses spec.clauses
  return base ++ conditions

/-- The conjunction of conditions; null if there are none. -/
def conjunction (conditions : List Condition) : Value :=
  if conditions.isEmpty then .null
  else .object [("$and", .list (conditions.map Condition.toValue))]

/-- The conjunction of a raw filter. -/
def compileRaw (c : Compiler) (filters : Value) : Outcome Value := do
  let spec ← Selection.parse filters c.controlKey
  let conditions ← c.compile spec
  return conjunction conditions

end Compiler

end Keyset
