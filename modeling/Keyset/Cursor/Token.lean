import Keyset.Bytes.Base64
import Keyset.Bytes.Deflate
import Keyset.Bytes.Hmac
import Keyset.Error.Basic
import Keyset.Json.Basic
import Keyset.Text.Utf8

/-!
# Keyset — signed tokens

A signed cursor is a payload, a dot, and the payload's signature. The payload is
the cursor as a JSON string, compressed if that saves more than a byte (then it
starts with a dot itself), in URL-safe Base64; the signature is a keyed digest.

* `Token.sign` — the token of a text under a secret.
* `Token.check?` — the payload of a token whose signature is good.
* `Token.read` — the value that a payload holds.
-/

namespace Keyset.Token

/-! ## Keys and signatures -/

/-- The byte between payload and signature. -/
def dot : UInt8 := 46

/-- The key that signs cursors, derived from a secret. -/
def key (secret : String) : List UInt8 :=
  Sha1.digest (Utf8.encode "docpager.cursor" ++ Utf8.encode "signer" ++ Utf8.encode secret)

/-- The signature of a payload. -/
def signature (secret : String) (payload : List UInt8) : List UInt8 :=
  Hmac.digest (key secret) payload

/-! ## Writing -/

/-- The payload that holds a text. -/
def payload (text : String) : List UInt8 :=
  let json := Utf8.encode (Json.quote text)
  let compressed := Deflate.compress json
  if compressed.length < json.length - 1 then dot :: Base64.encode compressed
  else Base64.encode json

/-- The text of ASCII bytes. -/
def asciiText (bs : List UInt8) : String := String.ofList (bs.map fun b => Char.ofNat b.toNat)

/-- The token of a text. -/
def sign (secret : String) (text : String) : String :=
  let p := payload text
  asciiText (p ++ dot :: Base64.encode (signature secret p))

/-! ## Reading -/

/-- The bytes before and after the last dot. -/
def splitLast : List UInt8 → Option (List UInt8 × List UInt8)
  | [] => none
  | b :: rest =>
      match splitLast rest with
      | some (front, back) => some (b :: front, back)
      | none => if b = dot then some ([], rest) else none

/-- The payload of a token whose signature is good. -/
def check? (secret : String) (token : List UInt8) : Option (List UInt8) := do
  let (front, back) ← splitLast token
  let given ← Base64.decode? back
  if given = signature secret front then some front else none

/-- The JSON text of a payload. -/
def unpack : List UInt8 → Except PayloadFault (List UInt8)
  | b :: rest =>
      if b = dot then
        match Base64.decode? rest with
        | none => .error .encoding
        | some packed =>
            match Inflate.decompress? packed with
            | none => .error .compression
            | some json => .ok json
      else
        match Base64.decode? (b :: rest) with
        | none => .error .encoding
        | some json => .ok json
  | [] => .ok []

/-- The value that a payload holds. -/
def read (payload : List UInt8) : Except PayloadFault Value := do
  let json ← unpack payload
  match (Utf8.decode? json).bind Json.read? with
  | some v => .ok v
  | none => .error .content

end Keyset.Token
