import Keyset.Aggregate
import Keyset.Session

/-!
# Keyset — repositories

A repository answers pagination requests through an executor, which runs a
pipeline against the documents and gives back the facet document.

* `Repository.session` — the session of a request on the repository's cursor field.
* `Repository.fetch` — one request: the pipelines that reach the executor, and the
  page or the failure.
* `Repository.finish` — the page of a session for the executor's result.
-/

namespace Keyset

/-- A repository: its configuration, and a cursor field and type of its own. -/
structure Repository where
  config : Config := {}
  cursorField : Value := .null
  cursorType : Value := .null
  deriving Inhabited

namespace Repository

/-- The name under which repositories are logged. -/
def logger : String := "docpager.repository"

/-- A value of the repository's own, or the configured one. -/
def orConfigured (own : Value) (configured : String) : Value :=
  if own.truthy then own else .str configured

/-- The session of a request. -/
def session (r : Repository) (request : Value) : Except Failure Session := do
  let s ← Session.start r.config request
  let (next, result) := s.setCursor (orConfigured r.cursorField r.config.cursorField)
    (orConfigured r.cursorType r.config.cursorType)
  let _ ← result
  return next

/-- The page of a session whose pipeline was run with the given result. -/
def finish (s : Session) (result : Value) : Outcome Page := do
  let counts ← Aggregate.counts result
  let info ← s.metadata counts
  Outcome.emit ⟨logger, .debug, "Cursor page fetched",
    [("field", .str s.field), ("total", .int counts.total), ("returned", .int counts.current)]⟩
  let documents ← Aggregate.documents result
  { s with pageInfo := some info }.page (.list documents)

/-- A request that was answered: the pipelines that reached the executor, and the
page. -/
structure Fetch where
  calls : List Pipeline
  page : Outcome Page

/-- Answer a request. The executor runs once, and only if the pipeline was built. -/
def fetch (r : Repository) (request stages : Value) (execute : Pipeline → Except Failure Value) :
    Fetch :=
  match r.session request with
  | .error f => ⟨[], Outcome.ofExcept (.error f)⟩
  | .ok s =>
      let o := s.pipeline stages false
      match o.result with
      | .error f => ⟨[], ⟨o.log, .error f⟩⟩
      | .ok p =>
          ⟨[p], do
            let _ ← o
            let result ← execute p
            finish { s with pipelineRequested := true } result⟩

/-! ## Collections -/

/-- The facet document in what a collection returns: its first document, or an
empty one if there is none. -/
def firstDocument (documents : Value) : Except Failure Value :=
  if !documents.truthy then .ok (.mapping [])
  else match documents with
    | .mapping es =>
        match Entries.get? es (.int 0) with
        | some v => .ok v
        | none => .error .missingKey
    | .record .. => .error .wrongType
    | v => do
        match ← v.elements with
        | first :: _ => return first
        | [] => return .mapping []

end Repository

end Keyset
