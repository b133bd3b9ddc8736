import Keyset.Value.Key

/-!
# Keyset — equality of values

When two values of any kind are equal. Lists and tuples are compared position by
position, a list never with a tuple; mappings by their keys, in any order; records of
one kind field by field. All other values are equal when they are the same key.

* `Value.equal` — equality of values.
* `Value.hasItem` — whether a value is equal to one of a list.
-/

namespace Keyset.Value

mutual
/-- Equality of values. -/
def equal : Value → Value → Bool
  | .list as, .list bs => allEqual as bs
  | .tuple as, .tuple bs => allEqual as bs
  | .mapping es, .mapping fs => es.length == fs.length && entriesEqual es fs
  | .record k es, .record l fs => k == l && fieldsEqual es fs
  | a, b => a.sameKey b

/-- Equality of lists, position by position. -/
def allEqual : List Value → List Value → Bool
  | [], [] => true
  | a :: as, b :: bs => equal a b && allEqual as bs
  | _, _ => false

/-- Whether all entries are also entries of another mapping. -/
def entriesEqual : List (Value × Value) → List (Value × Value) → Bool
  | [], _ => true
  | (k, v) :: rest, fs =>
      (match Entries.get? fs k with
        | some w => equal v w
        | none => false) && entriesEqual rest fs

/-- Equality of fields, position by position. -/
def fieldsEqual : List (String × Value) → List (String × Value) → Bool
  | [], [] => true
  | (n, v) :: rest, (m, w) :: others => n == m && equal v w && fieldsEqual rest others
  | _, _ => false
end

/-- Whether a value is equal to one of a list. -/
def hasItem (items : List Value) (v : Value) : Bool := items.any fun item => item.equal v

end Keyset.Value
