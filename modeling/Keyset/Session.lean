import Keyset.Filter.Compile
import Keyset.Page.Metrics
import Keyset.Page.Basic
import Keyset.Pipeline.Build
import Keyset.Schema.Config
import Keyset.Schema.Request

/-!
# Keyset — pagination sessions

A session serves one pagination request. `first` paginates forward, ascending,
from the cursor `after`; `last` backward, descending, from `before`; without
either, the default page size is used going backward.

* `Session.start` — the session of a request.
* `Session.pipeline`, `metadata`, `page`, … — what a session computes.
* `Session.apply` — one step of a session, with the state after it. A step that
  fails leaves the session as it was, except that a new cursor field stays if
  only the kind given with it has no text.
-/

namespace Keyset

/-- The state of a session. -/
structure Session where
  config : Config
  request : Request
  order : SortOrder
  limit : Int
  /-- The cursor field. -/
  field : String
  /-- The declared type of the cursor field. -/
  kind : CursorKind
  /-- The cursor of the request, unless it is absent or empty. -/
  cursor : Option String
  pageInfo : Option PageInfo := none
  pipelineRequested : Bool := false
  deriving Inhabited

namespace Session

/-! ## Start -/

/-- A page size as a session uses it: a positive integer, clamped to the greatest
size that is configured. -/
def clampLimit (config : Config) (limit : Value) : Except Failure Int := do
  let n ← Limit.validate limit
  return match config.maxPageSize with
    | some m => min n m
    | none => n

/-- The direction that a request asks for. -/
def orderOf (request : Request) : SortOrder :=
  if request.first.isSome then .asc else .desc

/-- The page size that a request asks for. -/
def requestedSize (config : Config) (request : Request) : Int :=
  (request.first <|> request.last).getD config.defaultPageSize

/-- The cursor that bounds a request, on the side it paginates from. -/
def boundOf (request : Request) : Option String :=
  (if request.first.isSome then request.after else request.before).filter (!·.isEmpty)

/-- The session of a checked request. -/
def ofRequest (config : Config) (request : Request) : Except Failure Session := do
  let limit ← clampLimit config (.int (requestedSize config request))
  let field ← Field.validate (.str config.cursorField)
  return {
    config, request, limit, field
    order := orderOf request
    kind := .ofName config.cursorType
    cursor := boundOf request }

/-- The session of a request; an absent one asks for nothing in particular. -/
def start (config : Config) (request : Value) : Except Failure Session := do
  let checked ← match request with
    | .null => Except.ok {}
    | v => (Request.check v).run
  ofRequest config checked

/-! ## Parts -/

/-- The codec of a session. -/
def codec (s : Session) : Codec := ⟨s.config.secretKey, s.config.tzAware⟩

/-- The compiler of a session's filters. -/
def compiler (s : Session) : Compiler :=
  { softDeleteField := .str s.config.softDeleteField
    controlKey := .str s.config.withDeletedKey
    strict := s.config.strictOperators
    escape := s.config.escapePatterns }

/-- The position of a session. -/
def position (s : Session) : Cursor := ⟨.str s.field, s.kind, .ofOption .str s.cursor⟩

/-- The name under which sessions are logged. -/
def logger : String := "docpager.pagination.paginator"

/-! ## Results -/

/-- The pipeline of a session. -/
def pipeline (s : Session) (stages : Value) (reverse : Bool) : Outcome Pipeline := do
  let expression ← s.compiler.compileRaw (.ofOption .object s.request.filters)
  Pipeline.build s.codec expression s.position (.str s.order.text) (.int s.limit) stages
    reverse .null

/-- The name of a session in a call on it, which no counter can have. -/
def reservedName : String := "self"

/-- The name of counters that are given as a whole. -/
def wholeName : String := "counts"

/-- Counters that are given as a whole, in place or by that name but not in both ways,
or one by one if not. -/
def countsOf (counts : Option Value) (named : List (String × Value)) : Except Failure Counts :=
  let single := named.filter (·.1 != wholeName)
  let whole := Value.field? named wholeName
  if named.any (·.1 == reservedName) || (counts.isSome && whole.isSome) then .error .wrongType
  else match (counts <|> whole).getD .null with
    | .null => (Counts.ofEntries (single.map fun f => (.str f.1, f.2))).run
    | v => (Counts.check v).run

/-- The metadata that follows from counters. Without a cursor nothing has been read
yet, and all documents are unread. -/
def metadata (s : Session) (counts : Counts) : Outcome PageInfo := do
  if !s.pipelineRequested then
    Outcome.emit ⟨logger, .warning, "Page info set before a pipeline was requested", []⟩
  let unread := if s.cursor.isSome then counts.cursored else counts.total
  let info ← Metrics.compute (.int counts.total) (.int unread) (.int counts.current) s.limit
    s.order
  Outcome.emit ⟨logger, .debug, "Page info computed",
    [("total", .int counts.total), ("cursored", .int counts.cursored),
      ("current", .int counts.current), ("current_page", .int info.currentPage)]⟩
  return info

/-- The cursor of a document; none if it lacks the cursor field. -/
def documentCursor (s : Session) (document : Value) : Except Failure (Option String) := do
  match ← Field.resolve document (.str s.field) with
  | .null => return none
  | v => return some (← s.codec.encode s.kind v)

/-- The edges of documents, in their order. -/
def edges (s : Session) : List Value → Except Failure (List Edge)
  | [] => .ok []
  | document :: rest => do
      let cursor ← s.documentCursor document
      let others ← s.edges rest
      return ⟨cursor, document⟩ :: others

/-- The page of documents. Its metadata must be known. -/
def page (s : Session) (documents : Value) : Except Failure Page :=
  match s.pageInfo with
  | none => raise .pageInfoNotSet
  | some info => do
      let items ← documents.elements
      return Page.ofEdges (← s.edges items) info

/-- A summary of a session, with the value of its cursor. -/
structure Summary where
  limit : Int
  order : SortOrder
  field : String
  value : Value

/-- Describe a session. -/
def describe (s : Session) : Outcome Summary := do
  let value ← match s.cursor with
    | some c => s.codec.decode s.kind (.str c)
    | none => pure Value.null
  return ⟨s.limit, s.order, s.field, value⟩

/-! ## Steps -/

/-- What a caller can do with a session. -/
inductive Step where
  | setCursor (field kind : Value)
  | pipeline (stages : Value) (reverse : Bool)
  | setPageInfo (counts : Option Value) (named : List (String × Value))
  | page (documents : Value)
  | documentCursor (document : Value)
  | describe
  | clampLimit (limit : Value)

/-- What a step gives. -/
inductive Answer where
  | done
  | pipeline (p : Pipeline)
  | pageInfo (info : PageInfo)
  | page (p : Page)
  | cursor (c : Option String)
  | summary (s : Summary)
  | limit (n : Int)

/-- The value of an answer. -/
def Answer.toValue : Answer → Value
  | .done => .bool true
  | .pipeline p => p.toValue
  | .pageInfo info => info.toValue
  | .page p => p.toValue
  | .cursor c => .ofOption .str c
  | .summary s =>
      .object [("limit", .int s.limit), ("order", .str s.order.text), ("field", .str s.field),
        ("value", s.value)]
  | .limit n => .int n

/-- Set the cursor field and its kind. The field is set as soon as it is safe. -/
def setCursor (s : Session) (field kind : Value) : Session × Except Failure Unit :=
  match Field.validate field with
  | .error f => (s, .error f)
  | .ok name =>
      match CursorKind.ofValue kind with
      | .error f => ({ s with field := name }, .error (.value f))
      | .ok k => ({ s with field := name, kind := k }, .ok ())

/-- The state after an outcome: changed if it is a result. -/
def after {α : Type} (s : Session) (o : Outcome α) (change : α → Session) : Session :=
  match o.result with
  | .ok a => change a
  | .error _ => s

/-- Do one step. -/
def apply (s : Session) : Step → Session × Outcome Answer
  | .setCursor field kind =>
      let (next, result) := s.setCursor field kind
      (next, Outcome.ofExcept (result.map fun _ => .done))
  | .pipeline stages reverse =>
      let o := s.pipeline stages reverse
      (s.after o fun _ => { s with pipelineRequested := true }, Answer.pipeline <$> o)
  | .setPageInfo counts named =>
      let o : Outcome PageInfo := do s.metadata (← countsOf counts named)
      (s.after o fun info => { s with pageInfo := some info }, Answer.pageInfo <$> o)
  -- the other steps answer and leave the session as it is
  | .page documents => (s, Outcome.ofExcept ((s.page documents).map .page))
  | .documentCursor document => (s, Outcome.ofExcept ((s.documentCursor document).map .cursor))
  | .describe => (s, Answer.summary <$> s.describe)
  | .clampLimit limit =>
      (s, Outcome.ofExcept ((Session.clampLimit s.config limit).map .limit))

/-- Do steps in order; every answer comes with the state after its step. -/
def run (s : Session) : List Step → List (Outcome Answer × Session)
  | [] => []
  | step :: rest =>
      let (next, answer) := s.apply step
      (answer, next) :: next.run rest

end Session

end Keyset
