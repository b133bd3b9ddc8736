import Keyset.Error.Report
import Keyset.Schema.Request

/-!
# Keyset — facet documents

An executor answers a pipeline with one facet document: the documents of the page
under `current`, and counting branches with one record or none.

* `Aggregate.documents` — the documents of the page.
* `Aggregate.counts` — the counters of a page.

A result of another shape is an error of the executor.
-/

namespace Keyset.Aggregate

/-- The error of an unusable result. -/
def invalid {α : Type} (reason : String) (details : List (String × Value)) : Except Failure α :=
  raise (.invalidAggregate (.str reason) (.object details))

/-- The name of a branch in a message. -/
def branchName (branch : String) : String := "facet branch " ++ Text.quote branch

/-- The entries of a result, which must be a mapping. -/
def entries : Value → Except Failure (List (Value × Value))
  | .mapping es => .ok es
  | v => invalid "expected a single facet document" [("received", .str v.typeName)]

/-- The documents of the page; an absent or empty branch has none. -/
def documents (result : Value) : Except Failure (List Value) := do
  let es ← entries result
  match (Entries.field? es "current").getD .null with
  | .list items => return items
  | v => if v.truthy then invalid (branchName "current" ++ " is not a list") [] else return []

/-- The counter in a counting record; an absent or empty one is 0. -/
def counterOf (branch : String) (record : List (Value × Value)) : Except Failure Int :=
  match (Entries.field? record "counter").getD .null with
  | .int n => .ok n
  | v =>
      if v.truthy then do
        let text ← v.display
        invalid (branchName branch ++ " has a non-integer counter")
          [("branch", .str branch), ("counter", .str text)]
      else .ok 0

/-- The counter of a branch; an absent or empty branch counts 0. -/
def counter (es : List (Value × Value)) (branch : String) : Except Failure Int :=
  let v := (Entries.field? es branch).getD .null
  if !v.truthy then .ok 0
  else match v with
    | .list (.mapping record :: _) => counterOf branch record
    | _ => invalid (branchName branch ++ " is not a list of count records")
        [("branch", .str branch)]

/-- The counters of a result. -/
def counts (result : Value) : Except Failure Counts := do
  let items ← documents result
  let es ← entries result
  let total ← counter es "total"
  let cursored ← counter es "cursored"
  return ⟨total, cursored, items.length⟩

end Keyset.Aggregate
