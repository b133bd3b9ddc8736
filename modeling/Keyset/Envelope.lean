import Keyset.Error.Report
import Keyset.Json.Encodable
import Keyset.Page.Basic

/-!
# Keyset — error envelopes

Every error reaches a client in the same envelope: a category, a message, details
and the id of the request. The details of an engine error contain its code.
Errors of other kinds show nothing but their type.

A response is sent in UTF-8. All texts have such a form, as they are strings of Unicode
scalar values; where strings can hold lone surrogates, an error that records one cannot
be sent, which is not described here.

* `Envelope.ofReport` — the envelope of an engine error.
* `Envelope.ofForeign` — the envelope of any other error.
* `Envelope.deliver` — status and body of a web response.
* `EngineError.ofArguments` — an error built from named arguments.
-/

namespace Keyset

/-- What a client is shown of an error. -/
structure Envelope where
  type : String
  message : String
  details : Option (List (String × Value))
  /-- The request id, unless one is to be drawn. -/
  requestId : Option String

namespace Envelope

/-! ## Envelopes -/

/-- The entries of an error's details. -/
def detailEntries : Value → Except Failure (List (Value × Value))
  | .mapping es => .ok es
  | _ => .error .wrongType

/-- The details with the code among them; null if there is nothing to tell. -/
def shownDetails (r : Report) : Except Failure Value := do
  let es ← detailEntries r.details
  let all := match r.code with
    | some code => Entries.put es (.str "code") (.str code.text)
    | none => es
  return if all.isEmpty then .null else .mapping all

/-- Check a request id, if one is given. -/
def checkId : Option Value → Check (Option String)
  | none => Check.good none
  | some v => (Check.text v).map some

/-- The envelope of an engine error. -/
def ofReport (r : Report) : Except Failure Envelope := do
  let found ← shownDetails r
  (Envelope.mk
    <$> (Check.text r.errorType).within [.name "type"]
    <*> (Check.text r.message).within [.name "message"]
    <*> (Check.nullable Check.textMapping found).within [.name "details"]
    <*> (checkId r.requestId).within [.name "request_id"]).run

/-- The envelope of an error of another kind; only its type is told. -/
def ofForeign (typeName : String) : Envelope :=
  { type := "internal_error"
    message := "Internal server error"
    details := some [("error_type", .str typeName)]
    requestId := none }

/-- The value of an envelope. A drawn request id is shown as true. -/
def toValue (e : Envelope) : Value :=
  .object [("type", .str e.type), ("message", .str e.message),
    ("details", (Value.ofOption .object e.details).plain),
    ("request_id", match e.requestId with
      | some id => .str id
      | none => .bool true)]

/-! ## Responses -/

/-- A web response: a status and a body. -/
structure Response where
  status : Value
  body : Value

/-- A status must be a number. -/
def checkStatus (status : Value) : Except Failure Value :=
  match status with
  | .int _ | .bool _ | .float _ => .ok status
  | _ => .error .wrongType

/-- The web response to an engine error. -/
def deliver (r : Report) : Except Failure Response := do
  let envelope ← ofReport r
  let body ← Json.encodable Json.strict envelope.toValue
  let status ← checkStatus r.status
  return ⟨status, body⟩

end Envelope

/-! ## Errors from named arguments -/

namespace EngineError

/-- Named arguments, if each of them is expected and all required ones are there. -/
def expect (required optional : List String) (args : List (String × Value)) :
    Except Failure (String → Value) :=
  let known := required ++ optional
  if args.any (fun a => !known.contains a.1)
      || required.any (fun n => !args.any fun a => a.1 == n) then .error .wrongType
  else .ok fun name => (Value.field? args name).getD .null

/-- A named argument, or its default when it is absent. -/
def argumentOr (args : List (String × Value)) (name : String) (default : Value) : Value :=
  (Value.field? args name).getD default

/-- The code that is named, the code of internal errors when none is, and no code
for null. -/
def codeOf (args : List (String × Value)) : Except Failure (Option ErrorCode) :=
  match argumentOr args "error_code" (.str ErrorCode.internalError.text) with
  | .null => .ok none
  | .str s =>
      match ErrorCode.ofText? s with
      | some c => .ok (some c)
      | none => .error .missingKey
  | _ => .error .missingKey

/-- An error of a kind, built from named arguments. -/
def ofArguments (kind : ErrorKind) (args : List (String × Value)) : Except Failure EngineError :=
  match kind with
  | .general => do
      let get ← expect ["message"]
        ["details", "error_type", "error_code", "status_code", "request_id"] args
      let code ← codeOf args
      return .general (get "message") (get "details")
        (argumentOr args "error_type" (.str "internal_error")) code
        (argumentOr args "status_code" (.int 500)) (get "request_id")
  | .reservedField => do
      let get ← expect ["field"] ["details"] args
      return .reservedField (get "field") (get "details")
  | .invalidCursor => do
      let get ← expect ["cursor", "cursor_type"] ["reason"] args
      return .invalidCursor (get "cursor") (get "cursor_type")
        (argumentOr args "reason" (.str "malformed cursor"))
  | .invalidLimit => do
      let get ← expect ["limit"] [] args
      return .invalidLimit (get "limit")
  | .unsupportedOperator => do
      let get ← expect ["field", "operator"] [] args
      return .unsupportedOperator (get "field") (get "operator")
  | .pageInfoNotSet => do
      let _ ← expect [] [] args
      return .pageInfoNotSet
  | .invalidAggregate => do
      let get ← expect ["reason"] ["details"] args
      return .invalidAggregate (get "reason") (get "details")

end EngineError

end Keyset
