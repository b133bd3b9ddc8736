import Keyset.Cursor.Kind
import Keyset.Cursor.Timestamp
import Keyset.Cursor.Token
import Keyset.Error.Report
import Keyset.Log
import Keyset.Value.Equal

/-!
# Keyset — the cursor codec

Turns the value of a cursor field into a cursor text and back. Dates travel as
whole milliseconds; values of every other kind as their plain text. With a
secret, cursors are signed and only good signatures are accepted.

Texts are strings of Unicode scalar values. Each of them has a UTF-8 form, so that
neither signing a text nor checking a signed one can fail for its characters, and the
depth of a value keeps it neither from being written nor from being read. Strings with
lone surrogates have no UTF-8 form: where there are such strings, signing and checking
them fails, and where depth is limited, so does a value that nests too deeply. These
failures are not described here.

* `Codec.encode` — the cursor of a value.
* `Codec.decode` — the value of a cursor.
-/

namespace Keyset

/-- How cursors are written and read. -/
structure Codec where
  /-- The secret that signs cursors; without one, or with an empty one, they are plain. -/
  secret : Option String
  /-- Whether dates are read with the UTC offset. -/
  aware : Bool
  deriving Inhabited

namespace Codec

/-- The codec without a secret, reading naive dates. -/
def plain : Codec := ⟨none, false⟩

/-- The secret, unless it is absent or empty. -/
def signingSecret? (c : Codec) : Option String :=
  match c.secret with
  | some s => if s.isEmpty then none else some s
  | none => none

/-- Whether cursors are signed. -/
def signed (c : Codec) : Bool := c.signingSecret?.isSome

/-- The refusal of a cursor, or of a value that has none. -/
def refusal (cursor : Value) (kind : CursorKind) (reason : String) : EngineError :=
  .invalidCursor cursor (.str kind.name) (.str reason)

/-! ## Writing -/

/-- The text of a value before it is signed. -/
def position (kind : CursorKind) (value : Value) : Except Failure String :=
  match kind with
  | .date =>
      match Timestamp.ofValue value with
      | .ok millis => Decimal.render millis
      | .error fault => raise (refusal value kind fault.message)
  | _ => value.display

/-- The cursor of a value. -/
def encode (c : Codec) (kind : CursorKind) (value : Value) : Except Failure String := do
  let text ← position kind value
  return match c.signingSecret? with
    | some secret => Token.sign secret text
    | none => text

/-! ## Reading -/

/-- The name under which cursors are logged. -/
def logger : String := "docpager.pagination.cursor_codec"

/-- Refuse a cursor whose signature is bad. -/
def refuseSignature (cursor : Value) (kind : CursorKind) : Outcome Value := do
  Outcome.emit ⟨logger, .debug, "Rejected cursor with bad signature", [("cursor", cursor)]⟩
  Outcome.ofExcept (raise (refusal cursor kind "bad signature"))

/-- Check the bytes of a signed cursor and open its payload. -/
def openToken (secret : String) (cursor : Value) (kind : CursorKind) (token : List UInt8) :
    Outcome Value :=
  match Token.check? secret token with
  | none => refuseSignature cursor kind
  | some payload => Outcome.ofExcept ((Token.read payload).mapError .payload)

/-- The text of a cursor, after its signature is checked. A cursor that is neither
text nor bytes has no signature; if it can be searched for the separator and
holds it, it still cannot be split there. -/
def unsign (c : Codec) (cursor : Value) (kind : CursorKind) : Outcome Value :=
  match c.signingSecret? with
  | none => pure cursor
  | some secret =>
      let search (items : List Value) : Outcome Value :=
        if Value.hasItem items (.bytes [Token.dot]) then Outcome.ofExcept (.error .noAttribute)
        else refuseSignature cursor kind
      match cursor with
      | .str s => openToken secret cursor kind (Utf8.encode s)
      | .bytes bs => openToken secret cursor kind bs
      | .list items => search items
      | .tuple items => search items
      | .mapping entries => search (entries.map (·.1))
      | .record .. => refuseSignature cursor kind
      | _ => Outcome.ofExcept (.error .wrongType)

/-- The sign and the digits of a decimal integer: an optional minus and ASCII digits. -/
def timestampDigits? (s : String) : Option (Bool × List Char) :=
  let (negative, digits) := match s.toList with
    | '-' :: rest => (true, rest)
    | rest => (false, rest)
  if digits.isEmpty || !digits.all Char.isDigit then none else some (negative, digits)

/-- The date that a timestamp denotes. -/
def dateOfText (c : Codec) (cursor : Value) (text : Value) : Except Failure Value :=
  let refuse {α : Type} (reason : String) : Except Failure α := raise (refusal cursor .date reason)
  match text with
  | .str s =>
      match timestampDigits? s with
      | none => refuse "not a timestamp"
      | some (negative, digits) =>
          if ValueFault.digitLimit < digits.length then
            .error (.value (.readLimit digits.length))
          else
            let n : Int := Double.natOfDigits digits
            match Timestamp.toDateTime? (if negative then -n else n) c.aware with
            | some t => .ok (.datetime t)
            | none => refuse "timestamp out of range"
  | _ => refuse "not a timestamp"

/-- The value of a cursor. -/
def decode (c : Codec) (kind : CursorKind) (cursor : Value) : Outcome Value := do
  let text ← unsign c cursor kind
  match kind with
  | .date => Outcome.ofExcept (dateOfText c cursor text)
  | _ => return text

end Codec

end Keyset
