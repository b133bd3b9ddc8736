import Keyset.Value.Basic

/-!
# Keyset — mapping keys

Which values may be keys of a mapping, when two keys are the same, and the
operations on mappings that depend on it. Numbers are the same key when they are
numerically equal, whatever their type, so `true`, `1` and `1.0` are one key.

* `Value.hashable` — the values that may be keys: no list, mapping or record inside.
* `Value.sameKey` — equality of keys.
* `Entries.get?`, `Entries.put` — look-up and update; an update keeps the position
  and the spelling of a key that is present.
-/

namespace Keyset

namespace Value

mutual
/-- Whether a value may be a key. -/
def hashable : Value → Bool
  | .list _ => false
  | .mapping _ => false
  | .record .. => false
  | .tuple items => allHashable items
  | _ => true

/-- Whether all values of a list may be keys. -/
def allHashable : List Value → Bool
  | [] => true
  | v :: rest => hashable v && allHashable rest
end

/-- Whether two dates with times are equal: aware ones as instants, naive ones as
readings; an aware one equals no naive one. -/
def sameDateTime (a b : DateTime) : Bool :=
  a.offset.isSome == b.offset.isSome && a.epochMicros == b.epochMicros

/-- The integer that a number or truth value is equal to. -/
def asInteger? : Value → Option Int
  | .bool b => some (if b then 1 else 0)
  | .int n => some n
  | .float x => x.toInt?
  | _ => none

mutual
/-- Equality of keys. -/
def sameKey : Value → Value → Bool
  | .null, .null => true
  | .float x, .float y => x.numEq y
  | .str s, .str t => s == t
  | .bytes s, .bytes t => s == t
  | .datetime a, .datetime b => sameDateTime a b
  | .date a, .date b => a == b
  | .tuple as, .tuple bs => sameKeys as bs
  | a, b =>
      match a.asInteger?, b.asInteger? with
      | some m, some n => m == n
      | _, _ => false

/-- Equality of key lists, position by position. -/
def sameKeys : List Value → List Value → Bool
  | [], [] => true
  | a :: as, b :: bs => sameKey a b && sameKeys as bs
  | _, _ => false
end

end Value

/-! ## Entries of a mapping -/

namespace Entries

/-- The value under a key. -/
def get? (entries : List (Value × Value)) (key : Value) : Option Value :=
  (entries.find? fun e => e.1.sameKey key).map (·.2)

/-- The value under a text key. -/
def field? (entries : List (Value × Value)) (name : String) : Option Value :=
  get? entries (.str name)

/-- Whether a text key is present. -/
def hasField (entries : List (Value × Value)) (name : String) : Bool :=
  (field? entries name).isSome

/-- Put a value under a key: in place of the present one, or at the end. -/
def put (entries : List (Value × Value)) (key value : Value) : List (Value × Value) :=
  match entries with
  | [] => [(key, value)]
  | e :: rest => if e.1.sameKey key then (e.1, value) :: rest else e :: put rest key value

/-- The mapping that writing the entries in order builds. -/
def build (entries : List (Value × Value)) : List (Value × Value) :=
  entries.foldl (fun acc e => put acc e.1 e.2) []

/-- Remove a text key. -/
def erase (entries : List (Value × Value)) (name : String) : List (Value × Value) :=
  entries.filter fun e => !e.1.sameKey (.str name)

/-- The fields of a mapping whose keys are all texts. -/
def textFields? (entries : List (Value × Value)) : Option (List (String × Value)) :=
  entries.mapM fun e => match e.1 with
    | .str s => some (s, e.2)
    | _ => none

end Entries

end Keyset
