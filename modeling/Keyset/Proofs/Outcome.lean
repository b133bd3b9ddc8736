import Keyset.Error.Report
import Keyset.Log

/-!
# Keyset — results of outcomes

What an operation ends in, apart from what it logs. `result_bind` reads the result
of a sequence off the results of its steps; with it, a logging operation is taken
apart in the same way as one that does not log.

* `Outcome.result_bind` — the result of a sequence.
* `raise_of_report` — an error that has a report is raised as itself.
-/

namespace Keyset

section Except

variable {ε α β : Type}

@[simp] theorem except_ok_bind (a : α) (f : α → Except ε β) : (Except.ok a >>= f) = f a := rfl

@[simp] theorem except_error_bind (e : ε) (f : α → Except ε β) :
    (Except.error e >>= f) = Except.error e := rfl

@[simp] theorem except_pure (a : α) : (pure a : Except ε α) = Except.ok a := rfl

/-- A sequence succeeds when both of its steps do. -/
theorem except_bind_eq_ok {x : Except ε α} {f : α → Except ε β} {b : β} :
    (x >>= f) = .ok b ↔ ∃ a, x = .ok a ∧ f a = .ok b := by
  cases x with
  | error e => simp
  | ok a => simp

end Except

namespace Outcome

variable {α β : Type}

@[simp] theorem result_pure (a : α) : (pure a : Outcome α).result = .ok a := rfl

@[simp] theorem result_ofExcept (r : Except Failure α) : (ofExcept r).result = r := rfl

@[simp] theorem result_liftM (r : Except Failure α) : (liftM r : Outcome α).result = r := rfl

@[simp] theorem result_emit (entry : LogEntry) : (emit entry).result = .ok () := rfl

/-- The result of a sequence depends on the results of its steps alone. -/
@[simp] theorem result_bind (x : Outcome α) (f : α → Outcome β) :
    (x >>= f).result = x.result >>= fun a => (f a).result := by
  obtain ⟨log, result⟩ := x
  cases result <;> rfl

end Outcome

/-- An error that can be reported is raised as itself. -/
theorem raise_of_report {α : Type} {e : EngineError} {r : Report} (h : e.report = .ok r) :
    (raise e : Except Failure α) = .error (.engine e) := by
  rw [raise, h]

/-- An error is never a value, whether it can be reported or not. -/
theorem raise_ne_ok {α : Type} (e : EngineError) (a : α) :
    (raise e : Except Failure α) ≠ .ok a := by
  unfold raise
  split <;> nofun

end Keyset
