import Keyset.Number.Literal
import Keyset.Text.Casing
import Keyset.Value.Basic

/-!
# Keyset — annotations of settings

The annotation of a setting says how a text is converted; values that are no text
are kept. A text becomes an integer or a truth value, and stays a text under any
other annotation.

* `Annotation.convert` — a value under an annotation.
* `Annotation.ofText` — the annotation that a type expression writes.
-/

namespace Keyset

/-- The declared type of a setting. -/
inductive Annotation where
  | boolean
  | integer
  /-- The type of null. -/
  | nothing
  /-- A choice of types; texts are converted to the first that is not null's. -/
  | choice (first : Annotation)
  /-- Any other type; texts stay as they are. -/
  | other
  deriving DecidableEq, Repr, Inhabited

namespace Annotation

/-! ## Conversion -/

/-- The texts that mean true, in lower case. -/
def trueWords : List String := ["true", "1", "yes", "on"]

/-- A text under an annotation. -/
def convertText (s : String) : Annotation → Except ValueFault Value
  | .boolean => .ok (.bool (trueWords.contains (Text.lowerAscii s)))
  | .integer => do return .int (← Literal.integer s)
  | .choice first => convertText s first
  | .nothing => .ok (.str s)
  | .other => .ok (.str s)

/-- A value under an annotation. -/
def convert (a : Annotation) : Value → Except ValueFault Value
  | .str s => a.convertText s
  | v => .ok v

/-! ## Type expressions -/

/-- Split at the commas outside brackets; `depth` counts the open ones. -/
def splitArguments (depth : Nat) : List Char → List (List Char)
  | [] => [[]]
  | c :: rest =>
      if c = ',' ∧ depth = 0 then [] :: splitArguments depth rest
      else
        let depth := if c = '[' then depth + 1 else if c = ']' then depth - 1 else depth
        match splitArguments depth rest with
        | [] => [[c]]
        | part :: parts => (c :: part) :: parts

/-- A choice of types. Nested choices are one choice, and a choice of one type is
that type. -/
def ofMembers (members : List Annotation) : Annotation :=
  let flat := members.map fun m => match m with
    | .choice first => first
    | m => m
  match flat.filter (· ≠ .nothing), members with
  | _, [only] => only
  | [], _ => .nothing
  | first :: _, _ => .choice first

/-- The annotation of a type expression nested at most `fuel` deep. -/
def parse : Nat → List Char → Annotation
  | 0, _ => .other
  | fuel + 1, cs =>
      let cs := cs.filter (· ≠ ' ')
      let name := cs.takeWhile (· ≠ '[')
      let arguments := (cs.drop (name.length + 1)).dropLast
      let name := if "typing.".toList.isPrefixOf name then name.drop 7 else name
      match String.ofList name with
      | "bool" => .boolean
      | "int" => .integer
      | "None" => .nothing
      | "NoneType" => .nothing
      | "Optional" => ofMembers [parse fuel arguments, .nothing]
      | "Union" => ofMembers ((splitArguments 0 arguments).map (parse fuel))
      | _ => .other

/-- The annotation of a type expression. -/
def ofText (s : String) : Annotation := parse (s.length + 1) s.toList

end Annotation

end Keyset
