import Keyset.Proofs.Outcome
import Keyset.Proofs.Schema.Request
import Keyset.Repository

/-!
# Keyset — an ideal document store

What the stages of a pipeline mean, on a store that holds a fixed list of documents.
A filter keeps the documents that satisfy it, a sort is stable, a limit keeps a
prefix, counting gives one record or, for no documents, none, and every branch of a
facet starts from the same documents. What a filter expression selects and what the
stages of a caller do is left open.

* `ValueOrder` — how the store compares values; dates by their instants.
* `Store` — documents and the meaning of expressions; `Store.execute` runs a pipeline.
* `Store.matching`, `Store.sorted` — the documents that a pipeline pages through.
* `Store.through` — what the stages of a caller leave, those without content left out.
* `Store.prepared` — the documents that the branches of a pipeline share.
* `run_page`, `execute_prepared` — the facet document of a page.
* `HoldsDate` — the documents whose cursor is read back.
-/

namespace Keyset

/-! ## Comparing values -/

/-- An order of values, as a store sorts by it: any two values are comparable, ties are
possible, and dates with times are ordered by their instants. A range condition
compares only values that belong together; two dates always do. -/
structure ValueOrder where
  le : Value → Value → Bool
  belongsWith : Value → Value → Bool
  total : ∀ v w, (le v w || le w v) = true
  trans : ∀ u v w, le u v = true → le v w = true → le u w = true
  le_datetime : ∀ t u : DateTime,
    le (.datetime t) (.datetime u) = decide (t.epochMicros ≤ u.epochMicros)
  belongsWith_datetime : ∀ t u : DateTime, belongsWith (.datetime t) (.datetime u) = true

namespace ValueOrder

variable (o : ValueOrder)

/-- Whether a value comes no later than another in the direction of a query. -/
def notAfter (order : SortOrder) (v w : Value) : Bool :=
  match order with
  | .asc => o.le v w
  | .desc => o.le w v

theorem notAfter_total (order : SortOrder) (v w : Value) :
    (o.notAfter order v w || o.notAfter order w v) = true := by
  cases order with
  | asc => exact o.total v w
  | desc => exact o.total w v

theorem notAfter_refl (order : SortOrder) (v : Value) : o.notAfter order v v = true := by
  simpa using o.notAfter_total order v v

theorem notAfter_trans (order : SortOrder) {u v w : Value} (huv : o.notAfter order u v = true)
    (hvw : o.notAfter order v w = true) : o.notAfter order u w = true := by
  cases order with
  | asc => exact o.trans u v w huv hvw
  | desc => exact o.trans w v u hvw huv

/-- Two dates with times that come no later than each other are one instant. -/
theorem epochMicros_eq_of_notAfter {order : SortOrder} {t u : DateTime}
    (htu : o.notAfter order (.datetime t) (.datetime u) = true)
    (hut : o.notAfter order (.datetime u) (.datetime t) = true) :
    t.epochMicros = u.epochMicros := by
  cases order <;>
  · rw [notAfter, o.le_datetime, decide_eq_true_eq] at htu hut
    omega

/-- The instant of a date with a time; no other value has one. -/
def instant? : Value → Option Int
  | .datetime t => some t.epochMicros
  | _ => none

/-- The order that tells only dates with times apart; all other values come first. -/
def byInstant : ValueOrder where
  le v w :=
    match instant? v, instant? w with
    | none, _ => true
    | some _, none => false
    | some a, some b => a ≤ b
  belongsWith v w := (instant? v).isSome == (instant? w).isSome
  total v w := by cases instant? v <;> cases instant? w <;> simp; omega
  trans u v w := by
    cases instant? u <;> cases instant? v <;> cases instant? w <;> simp
    omega
  le_datetime _ _ := rfl
  belongsWith_datetime _ _ := rfl

end ValueOrder

/-! ## Stages -/

/-- The value that a store finds at a field of a document; null if there is none. -/
def valueAt (field document : Value) : Value :=
  match field with
  | .str name => Field.descend (Field.parts name) document
  | _ => .null

/-- Whether a value satisfies a comparison with a bound. -/
def Bound.holds (o : ValueOrder) (v w : Value) : Bound → Bool
  | .gt => !o.le v w
  | .gte => o.le w v
  | .lt => !o.le w v
  | .lte => o.le v w

/-- Whether a document lies in a range. -/
def Range.admits (o : ValueOrder) (r : Range) (document : Value) : Bool :=
  o.belongsWith (valueAt r.field document) r.value &&
    r.bound.holds o (valueAt r.field document) r.value

/-- The record of a count; there is none for no documents. -/
def countRecords (documents : List Value) : List Value :=
  if documents.isEmpty then []
  else [.object [("_id", .int 1), ("counter", .int documents.length)]]

/-- What a branch stage makes of documents. -/
def BranchStage.run (o : ValueOrder) (documents : List Value) : BranchStage → List Value
  | .range r => documents.filter (r.admits o)
  | .limit n => documents.take n.toNat
  | .count => countRecords documents

/-- Documents sorted by a field, equal ones in the order that they had. -/
def ValueOrder.sort (o : ValueOrder) (field : Value) (order : SortOrder)
    (documents : List Value) : List Value :=
  documents.mergeSort fun d e => o.notAfter order (valueAt field d) (valueAt field e)

/-- Sorted documents come in the order that they are sorted by. -/
theorem ValueOrder.pairwise_sort (o : ValueOrder) (field : Value) (order : SortOrder)
    (documents : List Value) : (o.sort field order documents).Pairwise fun d e =>
      o.notAfter order (valueAt field d) (valueAt field e) = true := by
  apply List.pairwise_mergeSort
  · intro a b c hab hbc
    exact o.notAfter_trans order hab hbc
  · intro a b
    exact o.notAfter_total order _ _

/-- A store: its documents, how it compares values, which documents an expression
selects, and what a stage of the caller does. -/
structure Store where
  documents : List Value
  order : ValueOrder
  selects : Value → Value → Bool
  custom : Value → List Value → List Value

namespace Store

/-- What a stage makes of documents. -/
def runStage (s : Store) (documents : List Value) : Stage → List Value
  | .filter expression => documents.filter (s.selects expression)
  | .custom stage => s.custom stage documents
  | .sort field order => s.order.sort field order documents
  | .facet branches =>
      [.object (branches.map fun b => (b.1, .list (b.2.foldl (BranchStage.run s.order) documents)))]

/-- The documents that a pipeline ends in. -/
def run (s : Store) (p : Pipeline) : List Value := p.foldl s.runStage s.documents

/-- The answer to a pipeline: its first document, or an empty one. -/
def execute (s : Store) (p : Pipeline) : Except Failure Value :=
  .ok ((s.run p).head?.getD (.mapping []))

/-! ## Pages -/

/-- The documents that an expression selects; an empty one selects all. -/
def matching (s : Store) (expression : Value) : List Value :=
  if expression.truthy then s.documents.filter (s.selects expression) else s.documents

/-- The selected documents in the order of a query. -/
def sorted (s : Store) (expression field : Value) (order : SortOrder) : List Value :=
  s.order.sort field order (s.matching expression)

/-- The documents in a range; all without one. -/
def inRange (s : Store) (range : Option Range) (documents : List Value) : List Value :=
  match range with
  | none => documents
  | some r => documents.filter (r.admits s.order)

/-- The facet document of a page: its documents, the count of all, and with a range the
count of the documents in it. -/
def facet (s : Store) (documents : List Value) (range : Option Range) (limit : Int) :
    List (String × Value) :=
  [("current", .list ((s.inRange range documents).take limit.toNat)),
    ("total", .list (countRecords documents))] ++
  match range with
  | none => []
  | some _ => [("cursored", .list (countRecords (s.inRange range documents)))]

/-- The documents that the stages of a caller leave, one stage after the other. A stage
without content is none. -/
def through (s : Store) : List Value → List Value → List Value
  | [], documents => documents
  | stage :: rest, documents =>
      s.through rest (if stage.truthy then s.custom stage documents else documents)

/-- The documents that reach the branches of a pipeline: selected by the filter, passed
through the stages of the caller, and sorted by a field. -/
def prepared (s : Store) (expression : Value) (stages : List Value) (field : Value)
    (order : SortOrder) : List Value :=
  s.order.sort field order (s.through stages (s.matching expression))

/-- The stages that a pipeline keeps do what all stages of the caller do. -/
theorem foldl_clean (s : Store) (stages documents : List Value) :
    ((Pipeline.clean stages).map .custom).foldl s.runStage documents =
      s.through stages documents := by
  induction stages generalizing documents with
  | nil => rfl
  | cons stage rest ih =>
    rw [through, ← ih, Pipeline.clean, List.filter_cons]
    -- a stage without content is neither kept nor run
    split <;> rfl

/-- A pipeline ends in one facet document, whose branches share their documents. -/
theorem run_page (s : Store) (expression field : Value) (stages : List Value) (order : SortOrder)
    (range : Option Range) (limit : Int) :
    s.run (Pipeline.filterStage expression ++ (Pipeline.clean stages).map .custom ++
        [.sort field order, .facet (Pipeline.branches range limit)]) =
      [.object (s.facet (s.prepared expression stages field order) range limit)] := by
  -- a filter stage that is left out selects all documents
  have hfilter : (Pipeline.filterStage expression).foldl s.runStage s.documents =
      s.matching expression := by
    unfold Pipeline.filterStage matching
    split <;> rfl
  rw [run, List.foldl_append, List.foldl_append, hfilter, foldl_clean]
  cases range <;> rfl

/-- **What a page's pipeline gives**: all branches see the selected documents, as the stages of
the caller leave them, sorted. -/
theorem execute_prepared (s : Store) (expression field : Value) (stages : List Value)
    (order : SortOrder) (range : Option Range) (limit : Int) :
    s.execute (Pipeline.filterStage expression ++ (Pipeline.clean stages).map .custom ++
        [.sort field order, .facet (Pipeline.branches range limit)]) =
      .ok (.object (s.facet (s.prepared expression stages field order) range limit)) := by
  rw [execute, run_page]
  rfl

/-- Without stages of the caller these are the selected documents, sorted. -/
theorem execute_page (s : Store) (expression field : Value) (order : SortOrder)
    (range : Option Range) (limit : Int) :
    s.execute (Pipeline.filterStage expression ++
        [.sort field order, .facet (Pipeline.branches range limit)]) =
      .ok (.object (s.facet (s.sorted expression field order) range limit)) := by
  have hexecute := s.execute_prepared expression field [] order range limit
  rw [Pipeline.clean, List.filter_nil, List.map_nil, List.append_nil] at hexecute
  exact hexecute

variable {s : Store} {expression field : Value} {order : SortOrder}

theorem mem_sorted {d : Value} :
    d ∈ s.sorted expression field order ↔ d ∈ s.matching expression := List.mem_mergeSort

theorem perm_sorted (s : Store) :
    (s.sorted expression field order).Perm (s.matching expression) := List.mergeSort_perm _ _

@[simp] theorem length_sorted :
    (s.sorted expression field order).length = (s.matching expression).length :=
  List.length_mergeSort _

/-- The documents of a query come in its order. -/
theorem pairwise_sorted (s : Store) (expression field : Value) (order : SortOrder) :
    (s.sorted expression field order).Pairwise fun d e =>
      s.order.notAfter order (valueAt field d) (valueAt field e) = true :=
  s.order.pairwise_sort field order _

/-! ## Answers -/

/-- The counter of a branch that counts documents is their number. -/
theorem counter_countRecords {branches : List (String × Value)} {branch : String}
    {documents : List Value}
    (h : Value.field? branches branch = some (.list (countRecords documents))) :
    Aggregate.counter (branches.map fun b => (.str b.1, b.2)) branch = .ok documents.length := by
  rw [Aggregate.counter, Entries.field?_object, h]
  cases documents <;> rfl

variable {documents : List Value} {range : Option Range} {limit : Int}

theorem documents_facet : Aggregate.documents (.object (s.facet documents range limit)) =
    .ok ((s.inRange range documents).take limit.toNat) := by
  cases range <;> rfl

/-- The counters of a page are the numbers of all documents, of those in the range and
of those on the page. Without a range nothing is counted in it. -/
theorem counts_facet : Aggregate.counts (.object (s.facet documents range limit)) =
    .ok ⟨documents.length, (if range.isSome then (s.inRange range documents).length else 0 : Nat),
      ((s.inRange range documents).take limit.toNat).length⟩ := by
  -- both counters count what their branch holds
  have htotal : Aggregate.counter
      ((s.facet documents range limit).map fun b => (.str b.1, b.2)) "total" =
      .ok documents.length := counter_countRecords rfl
  have hcursored : Aggregate.counter
      ((s.facet documents range limit).map fun b => (.str b.1, b.2)) "cursored" =
      .ok (if range.isSome then (s.inRange range documents).length else 0 : Nat) := by
    cases range with
    | none => rfl
    | some r => exact counter_countRecords rfl
  rw [Aggregate.counts, documents_facet]
  simp only [Aggregate.entries, Value.object, except_ok_bind, htotal, hcursored, except_pure]

end Store

/-! ## Dated documents -/

/-- A document that holds, under a key, a naive date and time without parts of a
millisecond. -/
structure HoldsDate (field : String) (document : Value) (t : DateTime) : Prop where
  entry : ∃ entries, document = .mapping entries ∧
    Entries.field? entries field = some (.datetime t)
  naive : t.offset = none
  whole : t.epochMicros % 1000 = 0

/-- A name without dots is a path of one part. -/
theorem Field.parts_of_undotted {name : String} (h : '.' ∉ name.toList) :
    Field.parts name = [name] := by
  -- induction on the characters: none of them ends the part
  have hpath : ∀ cs : List Char, '.' ∉ cs → Field.pathParts cs = [cs] := by
    intro cs
    induction cs with
    | nil => intro _; rfl
    | cons c rest ih =>
      intro hcs
      rw [List.mem_cons, not_or] at hcs
      rw [Field.pathParts, if_neg (Ne.symm hcs.1), ih hcs.2]
  rw [Field.parts, hpath _ h, List.map_singleton, String.ofList_toList]

namespace HoldsDate

variable {field : String} {document : Value} {t : DateTime} (h : HoldsDate field document t)

include h

theorem valueAt_eq (hUndotted : '.' ∉ field.toList) :
    valueAt (.str field) document = .datetime t := by
  obtain ⟨entries, rfl, hentry⟩ := h.entry
  simp only [valueAt, Field.parts_of_undotted hUndotted, Field.descend, hentry]

theorem resolve_eq : Field.resolve document (.str field) = .ok (.datetime t) := by
  obtain ⟨entries, rfl, hentry⟩ := h.entry
  rw [Entries.field?] at hentry
  simp only [Field.resolve, Value.hashable, hentry]
  rfl

end HoldsDate

end Keyset
