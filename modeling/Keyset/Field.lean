import Keyset.Error.Report
import Keyset.Value.Equal

/-!
# Keyset — field names and paths

A field name goes into queries as a document key, so names that could act as an
operator or reach into an object's internals are refused. A name with dots is a
path into nested mappings.

* `Field.nameFault?` — what is unsafe about a name.
* `Field.validate` — a value as a safe field name.
* `Field.resolve` — the value at a path of a document.
-/

namespace Keyset.Field

/-! ## Safe names -/

/-- What makes a name unsafe. -/
inductive NameFault where
  | empty
  | operatorLike
  | reservedWord
  deriving DecidableEq, Repr

/-- The reason given for a refused name. -/
def NameFault.reason : NameFault → String
  | .empty => "empty field name"
  | .operatorLike => "operator-like name"
  | .reservedWord => "reserved word"

/-- Whether a text occurs inside another. -/
def occursIn (word : List Char) : List Char → Bool
  | [] => word.isEmpty
  | c :: rest => word.isPrefixOf (c :: rest) || occursIn word rest

/-- The names that are refused as a whole. -/
def reservedNames : List String := ["constructor", "prototype"]

/-- The text that no name may contain. -/
def reservedToken : String := "__proto__"

/-- What is unsafe about a name, if anything is. -/
def nameFault? (name : String) : Option NameFault :=
  let cs := name.toList
  if cs.isEmpty then some .empty
  else if cs.head? == some '$' || cs.contains '\x00' then some .operatorLike
  else if reservedNames.contains name || occursIn reservedToken.toList cs then some .reservedWord
  else none

/-- The refusal of a name. -/
def refusal (field : String) (fault : NameFault) : EngineError :=
  .reservedField (.str field) (.object [("reason", .str fault.reason)])

/-- A safe name, unchanged. A value that is no text is refused like the empty name. -/
def validate : Value → Except Failure String
  | .str name =>
      match nameFault? name with
      | none => .ok name
      | some fault => raise (refusal name fault)
  | v => do
      let text ← v.display
      raise (refusal text .empty)

/-! ## Paths -/

/-- The parts of a path between its dots. -/
def pathParts : List Char → List (List Char)
  | [] => [[]]
  | c :: rest =>
      if c = '.' then [] :: pathParts rest
      else match pathParts rest with
        | [] => [[c]]
        | part :: parts => (c :: part) :: parts

/-- Descend one mapping per part; absent parts and values that are no mapping
end in null. -/
def descend : List String → Value → Value
  | [], v => v
  | part :: parts, .mapping entries =>
      match Entries.field? entries part with
      | some v => descend parts v
      | none => .null
  | _ :: _, _ => .null

/-- The parts of a field name. -/
def parts (field : String) : List String := (pathParts field.toList).map String.ofList

/-- The element of a sequence at an index, negative ones counting from the end. -/
def element (items : List Value) (index : Int) : Except Failure Value :=
  let i := if index < 0 then index + items.length else index
  if i < 0 then .error .indexOutside
  else match items[i.toNat]? with
    | some v => .ok v
    | none => .error .indexOutside

/-- What a sequence that holds the field as an element has under it: only an
integer is an index. -/
def indexed (items : List Value) (field : Value) : Except Failure Value :=
  match index? field with
  | some n => element items n
  | none => .error .wrongType
where
  /-- The index that a value is. -/
  index? : Value → Option Int
    | .int n => some n
    | .bool b => some (if b then 1 else 0)
    | _ => none

/-- Split a field that is no key of the document: a text into its parts. -/
def walk (document : Value) : Value → Except Failure Value
  | .str name => .ok (descend (parts name) document)
  | .bytes _ => .error .wrongType
  | _ => .error .noAttribute

/-- Look for a field among elements that cannot be reached by a name. -/
def search (document : Value) (items : List Value) (field : Value) : Except Failure Value :=
  if Value.hasItem items field then indexed items field else walk document field

/-- The value at a field of a document: under the whole field if that is a key,
else at the end of the path. Only a mapping is indexed by a name; a list holds a field
that is equal to an item, bytes hold numbers, and a record, which has no index, pairs of
name and value. A value without elements cannot be searched at all. -/
def resolve (document field : Value) : Except Failure Value :=
  match document with
  | .mapping entries =>
      if !field.hashable then .error .wrongType
      else match Entries.get? entries field with
        | some v => .ok v
        | none => walk document field
  | .str s =>
      match field with
      | .str name => if occursIn name.toList s.toList then .error .wrongType else .ok .null
      | _ => .error .wrongType
  | .bytes bs =>
      match indexed.index? field with
      | some n =>
          if 0 ≤ n ∧ n < 256 then search document (bs.map fun b => .int b.toNat) field
          else .error (.value .byteRange)
      | none => .error .wrongType
  | .list items | .tuple items => search document items field
  | .record _ fields =>
      if Value.hasItem (fields.map fun f => .tuple [.str f.1, f.2]) field then .error .wrongType
      else walk document field
  | _ => .error .wrongType

end Keyset.Field
