import Keyset.Bytes.Sha1

/-!
# Keyset — keyed digests

The keyed-hash message authentication code over SHA-1.

* `Hmac.digest` — the code of a message under a key.
-/

namespace Keyset.Hmac

/-- A key of one block: a longer one is hashed, a shorter one filled with zeros. -/
def blockKey (key : List UInt8) : List UInt8 :=
  let key := if 64 < key.length then Sha1.digest key else key
  key ++ List.replicate (64 - key.length) 0

/-- The authentication code of a message under a key. -/
def digest (key message : List UInt8) : List UInt8 :=
  let k := blockKey key
  let inner := Sha1.digest (k.map (· ^^^ 0x36) ++ message)
  Sha1.digest (k.map (· ^^^ 0x5c) ++ inner)

end Keyset.Hmac
