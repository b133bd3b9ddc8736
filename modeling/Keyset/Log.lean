import Keyset.Error.Basic

/-!
# Keyset — log entries and outcomes

The engine writes a few structured log entries on its way. An operation that may
log therefore has an outcome: the entries it wrote, in order, and its result.

* `LogEntry` — one entry.
* `Outcome` — entries and result; entries written before a failure are kept.
-/

namespace Keyset

/-- The severity of a log entry. -/
inductive Level where
  | debug
  | info
  | warning
  | error
  | critical
  deriving DecidableEq, Repr

/-- The written level. -/
def Level.text : Level → String
  | .debug => "debug"
  | .info => "info"
  | .warning => "warning"
  | .error => "error"
  | .critical => "critical"

/-- An entry: who wrote it, how severe it is, what happened, and the circumstances. -/
structure LogEntry where
  logger : String
  level : Level
  event : String
  fields : List (String × Value)

/-- What an operation wrote to the log, and how it ended. -/
structure Outcome (α : Type) where
  log : List LogEntry
  result : Except Failure α

namespace Outcome

/-- Write one entry. -/
def emit (entry : LogEntry) : Outcome Unit := ⟨[entry], .ok ()⟩

/-- A result that writes nothing. -/
def ofExcept {α : Type} (r : Except Failure α) : Outcome α := ⟨[], r⟩

/-- Continue with a result; entries accumulate. -/
def bind {α β : Type} (x : Outcome α) (f : α → Outcome β) : Outcome β :=
  match x.result with
  | .ok a => ⟨x.log ++ (f a).log, (f a).result⟩
  | .error e => ⟨x.log, .error e⟩

instance : Monad Outcome where
  pure a := ⟨[], .ok a⟩
  bind := bind

instance : MonadLift (Except Failure) Outcome where
  monadLift := ofExcept

instance : LawfulMonad Outcome := LawfulMonad.mk' Outcome
  (by
    intro α x
    obtain ⟨log, result⟩ := x
    cases result <;> simp [Functor.map, bind])
  (by intros; simp [Bind.bind, Pure.pure, bind])
  (by
    intro α β γ x f g
    obtain ⟨log, result⟩ := x
    cases result with
    | error e => simp [Bind.bind, bind]
    | ok a => simp only [Bind.bind, bind]; cases (f a).result <;> simp)

end Outcome

end Keyset
