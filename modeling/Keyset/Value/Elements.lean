import Keyset.Error.Basic

/-!
# Keyset — elements of values

What a value consists of when it is gone through: lists their items, mappings
their keys, texts their characters, bytes their numbers, records their fields.
-/

namespace Keyset.Value

/-- The elements of a value, in order. -/
def elements : Value → Except Failure (List Value)
  | .list items => .ok items
  | .tuple items => .ok items
  | .mapping entries => .ok (entries.map (·.1))
  | .str s => .ok (s.toList.map fun c => .str (String.ofList [c]))
  | .bytes bs => .ok (bs.map fun b => .int b.toNat)
  | .record _ fields => .ok (fields.map fun f => .tuple [.str f.1, f.2])
  | _ => .error .wrongType

end Keyset.Value
