import Keyset.Error.Basic
import Keyset.Value.Key

/-!
# Keyset — error reports

What an engine error shows to its caller: a message, details, a category, a code
and the status that a web layer answers with.

* `EngineError.report` — the report of an error. An offending integer too long
  to be written makes the report itself fail.
* `raise` — fail with an engine error, or with the fault of its report.
* `EngineError.attributes` — the offending values by name.
-/

namespace Keyset

/-- What a caller is shown of an engine error. Only an error described by the
caller has parts other than texts and a numeric status. -/
structure Report where
  message : Value
  details : Value
  errorType : Value
  code : Option ErrorCode
  status : Value
  /-- The request id, unless one is to be drawn. -/
  requestId : Option Value

namespace Report

/-- The report of an invalid request. -/
def ofRequest (message : String) (details : Value) (code : ErrorCode) : Report :=
  ⟨.str message, details, .str "validation_error", some code, .int 422, none⟩

end Report

namespace EngineError

/-- A detail that is absent, empty or zero counts as no details. -/
def detailsOrEmpty (details : Value) : Value :=
  if details.truthy then details else .mapping []

/-- The report of an error. -/
def report : EngineError → Except Failure Report
  | .general message details errorType code status requestId =>
      .ok ⟨message, detailsOrEmpty details, errorType, code, status,
        if requestId.truthy then some requestId else none⟩
  | .reservedField field context => do
      let entries ← match detailsOrEmpty context with
        | .mapping entries => .ok entries
        | _ => .error .wrongType
      return Report.ofRequest ("Reserved word can not be used as field: " ++ (← field.quoted))
        (.mapping (Entries.put entries (.str "field") field)) .reservedField
  | .invalidCursor cursor kind reason => do
      let kindText ← kind.display
      let reasonText ← reason.display
      return Report.ofRequest ("Invalid cursor for type " ++ kindText ++ ": " ++ reasonText)
        (.object [("cursor", .str (← cursor.display)), ("cursor_type", kind), ("reason", reason)])
        .invalidCursor
  | .invalidLimit limit => do
      return Report.ofRequest ("Page size must be a positive integer, got " ++ (← limit.quoted))
        (.object [("limit", .str (← limit.display))]) .invalidLimit
  | .unsupportedOperator field operator => do
      return Report.ofRequest
        ("Unsupported filter operator " ++ (← operator.quoted) ++ " on field " ++ (← field.quoted))
        (.object [("field", field), ("operator", .str (← operator.display))])
        .unsupportedFilterOperator
  | .pageInfoNotSet =>
      .ok ⟨.str "Page info is not set; call set_page_info() before get()", .mapping [],
        .str "usage_error", some .pageInfoNotSet, .int 500, none⟩
  | .invalidAggregate reason details => do
      return ⟨.str ("Invalid aggregate result: " ++ (← reason.display)), detailsOrEmpty details,
        .str "executor_error", some .aggregateResultInvalid, .int 502, none⟩

/-- The offending values by name. -/
def attributes : EngineError → List (String × Value)
  | .reservedField field _ => [("field", field)]
  | .invalidCursor cursor kind reason =>
      [("cursor", cursor), ("cursor_type", kind), ("reason", reason)]
  | .invalidLimit limit => [("limit", limit)]
  | .unsupportedOperator field operator => [("field", field), ("operator", operator)]
  | _ => []

end EngineError

/-- Fail with an engine error; if it cannot be reported, with the reason for that. -/
def raise {α : Type} (e : EngineError) : Except Failure α :=
  match e.report with
  | .ok _ => .error (.engine e)
  | .error f => .error f

end Keyset
