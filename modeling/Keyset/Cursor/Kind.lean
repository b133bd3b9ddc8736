import Keyset.Value.Text

/-!
# Keyset — cursor kinds

The declared type of a cursor field. The codec knows dates and texts by name;
every other name is kept, and its values pass through as text.
-/

namespace Keyset

/-- The declared type of a cursor field. -/
inductive CursorKind where
  | date
  | string
  | other (name : String)
  deriving DecidableEq, Repr, Inhabited

namespace CursorKind

/-- The name of a kind. -/
def name : CursorKind → String
  | .date => "Date"
  | .string => "String"
  | .other s => s

/-- Whether the codec knows the kind by name. -/
def isKnown : CursorKind → Bool
  | .other _ => false
  | _ => true

/-- The kind with a name. -/
def ofName (s : String) : CursorKind :=
  if s = "Date" then .date else if s = "String" then .string else .other s

/-- The kind that a value declares: by its name, or by its plain text. -/
def ofValue : Value → Except ValueFault CursorKind
  | .str s => .ok (ofName s)
  | v => do return .other (← v.display)

end CursorKind

end Keyset
