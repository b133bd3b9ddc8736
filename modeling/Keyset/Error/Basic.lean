import Keyset.Fault
import Keyset.Value.Text

/-!
# Keyset — errors

Everything that can go wrong, by cause. The engine's own errors carry the
offending values; the report of such an error (`EngineError.report`) is what a
caller is shown.

* `EngineError` — the causes of the engine's own errors; `ErrorKind`, their kinds.
* `Issue` — one complaint of a model about its data.
* `Failure` — an engine error, rejected data, a faulty value, or an operation
  that its operands do not have.
-/

namespace Keyset

/-! ## Engine errors -/

/-- The registered code of an error. -/
inductive ErrorCode where
  | validationFailed
  | internalError
  | reservedField
  | invalidCursor
  | invalidLimit
  | unsupportedFilterOperator
  | pageInfoNotSet
  | aggregateResultInvalid
  deriving DecidableEq, Repr

namespace ErrorCode

/-- All codes. -/
def all : List ErrorCode :=
  [.validationFailed, .internalError, .reservedField, .invalidCursor, .invalidLimit,
    .unsupportedFilterOperator, .pageInfoNotSet, .aggregateResultInvalid]

/-- The written code. -/
def text : ErrorCode → String
  | .validationFailed => "VALIDATION_FAILED"
  | .internalError => "INTERNAL_ERROR"
  | .reservedField => "RESERVED_FIELD"
  | .invalidCursor => "INVALID_CURSOR"
  | .invalidLimit => "INVALID_LIMIT"
  | .unsupportedFilterOperator => "UNSUPPORTED_FILTER_OPERATOR"
  | .pageInfoNotSet => "PAGE_INFO_NOT_SET"
  | .aggregateResultInvalid => "AGGREGATE_RESULT_INVALID"

/-- The code with the given text. -/
def ofText? (s : String) : Option ErrorCode := all.find? (·.text == s)

end ErrorCode

/-- An error of the engine, by cause. -/
inductive EngineError where
  /-- An error described by the caller in full; a missing request id is drawn anew. -/
  | general (message details errorType : Value) (code : Option ErrorCode)
      (status requestId : Value)
  /-- A field name is unsafe as a document key. -/
  | reservedField (field : Value) (context : Value)
  /-- A cursor has no reading, or a document value no cursor. -/
  | invalidCursor (cursor kind reason : Value)
  /-- A page size is not a positive integer. -/
  | invalidLimit (limit : Value)
  /-- A filter entry names an unknown operator. -/
  | unsupportedOperator (field operator : Value)
  /-- A page is asked for before its counts are known. -/
  | pageInfoNotSet
  /-- An executor's result has not the shape of a facet document. -/
  | invalidAggregate (reason details : Value)
  deriving Inhabited

/-- The kinds of engine errors. -/
inductive ErrorKind where
  | general
  | reservedField
  | invalidCursor
  | invalidLimit
  | unsupportedOperator
  | pageInfoNotSet
  | invalidAggregate
  deriving DecidableEq, Repr

/-- The kind of an error. -/
def EngineError.kind : EngineError → ErrorKind
  | .general .. => .general
  | .reservedField .. => .reservedField
  | .invalidCursor .. => .invalidCursor
  | .invalidLimit _ => .invalidLimit
  | .unsupportedOperator .. => .unsupportedOperator
  | .pageInfoNotSet => .pageInfoNotSet
  | .invalidAggregate .. => .invalidAggregate

/-! ## Rejected data -/

/-- What a model finds wrong with one place of its data. -/
inductive IssueKind where
  | missing
  | boolType
  | boolParsing
  | intType
  | intParsing
  | intParsingSize
  | intFromFloat
  | finiteNumber
  | floatType
  | floatParsing
  | stringType
  | stringUnicode
  | dictType
  | listType
  | modelType
  | frozenInstance
  deriving DecidableEq, Repr

namespace IssueKind

/-- The written kind. -/
def text : IssueKind → String
  | .missing => "missing"
  | .boolType => "bool_type"
  | .boolParsing => "bool_parsing"
  | .intType => "int_type"
  | .intParsing => "int_parsing"
  | .intParsingSize => "int_parsing_size"
  | .intFromFloat => "int_from_float"
  | .finiteNumber => "finite_number"
  | .floatType => "float_type"
  | .floatParsing => "float_parsing"
  | .stringType => "string_type"
  | .stringUnicode => "string_unicode"
  | .dictType => "dict_type"
  | .listType => "list_type"
  | .modelType => "model_type"
  | .frozenInstance => "frozen_instance"

end IssueKind

/-- One step of the path to a rejected place. -/
inductive PathStep where
  | name (s : String)
  | index (n : Int)
  deriving DecidableEq, Repr

/-- One complaint about one place. -/
structure Issue where
  path : List PathStep
  kind : IssueKind
  deriving DecidableEq, Repr

/-! ## Failures -/

/-- Why the payload of a cursor with a good signature cannot be read. -/
inductive PayloadFault where
  | encoding
  | compression
  | content
  deriving DecidableEq, Repr

/-- The message of a payload fault. -/
def PayloadFault.message : PayloadFault → String
  | .encoding => "Could not base64 decode the payload because of an exception"
  | .compression => "Could not zlib decompress the payload before decoding the payload"
  | .content =>
      "Could not load the payload because an exception occurred on unserializing the data."

/-- Why an operation gave no result. -/
inductive Failure where
  | engine (error : EngineError)
  | rejected (issues : List Issue)
  | value (fault : ValueFault)
  | payload (fault : PayloadFault)
  /-- An operand has a type for which the operation is not defined. -/
  | wrongType
  /-- A value lacks an attribute that the operation needs. -/
  | noAttribute
  /-- A number leaves the range of its type. -/
  | overflow
  | divisionByZero
  /-- Bytes are no characters in the declared encoding. -/
  | undecodable
  /-- A text breaks a rule of its encoding as a whole. -/
  | unreadable
  | unknownEncoding
  | missingKey
  | indexOutside
  | isDirectory
  /-- A path, or a name in it, is longer than paths can be. -/
  | pathTooLong
  deriving Inhabited

instance : MonadLift (Except ValueFault) (Except Failure) where
  monadLift x := x.mapError .value

end Keyset
