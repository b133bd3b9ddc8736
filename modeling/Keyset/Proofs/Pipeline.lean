import Keyset.Proofs.Store
import Mathlib

/-!
# Keyset — what a built pipeline means

A pipeline is built from a filter, the stages of a caller, a cursor and a page size. On an
ideal store it ends in one facet document, and all of its branches look at the same
documents: those that the filter selects, as the caller's stages leave them, sorted. The
cursor splits these documents in two sides; a page is cut off from one of them.

* `Cursor.Reads` — a cursor is absent, or it is read as a value.
* `ValueOrder.onSide` — the two sides of a cursor.
* `Store.run_build` — what building and running a pipeline gives.
-/

namespace Keyset

/-! ## Building -/

theorem SortOrder.ofValue_text (order : SortOrder) : ofValue (.str order.text) = .ok order := by
  cases order <;> rfl

/-- What a cursor is read as: nothing if there is none, else the value that it decodes to. -/
def Cursor.Reads (codec : Codec) (cursor : Cursor) : Option Value → Prop
  | none => cursor.value.truthy = false
  | some v => cursor.value.truthy = true ∧ (codec.decode cursor.kind cursor.value).result = .ok v

namespace Pipeline

/-- The range of a cursor on a field with a name. -/
theorem result_cursorRange {codec : Codec} {cursor : Cursor} {bound : Option Value}
    (hReads : cursor.Reads codec bound) (hField : cursor.field.hashable = true)
    (order : SortOrder) (reverse : Bool) :
    (cursorRange codec cursor (.str order.text) reverse).result =
      .ok (bound.map fun v => ⟨cursor.field, Bound.ofOrder order reverse, v⟩) := by
  cases bound with
  | none =>
    have habsent : cursor.value.truthy = false := hReads
    simp only [cursorRange, habsent, Bool.not_false, if_true, Outcome.result_pure, Option.map_none]
  | some v =>
    obtain ⟨hpresent, hdecode⟩ := hReads
    have hrange : Range.ofCursor cursor.field v order reverse =
        .ok ⟨cursor.field, Bound.ofOrder order reverse, v⟩ := by
      rw [Range.ofCursor, if_pos hField]
    simp only [cursorRange, hpresent, Bool.not_true, Bool.false_eq_true, if_false,
      Outcome.result_bind, hdecode, except_ok_bind, Outcome.result_liftM,
      SortOrder.ofValue_text, hrange, Outcome.result_pure, Option.map_some]

/-- Stages that are supplied as a list, or not at all. -/
theorem supplied_ofOption (stages : Option (List Value)) :
    supplied (.ofOption .list stages) = .ok ((clean (stages.getD [])).map .custom) := by
  cases stages with
  | none => rfl
  | some items => cases items <;> rfl

/-- The field that a pipeline sorts by: its own if it has one, else that of the cursor. -/
def sortField (own cursor : Value) : Value := if own.truthy then own else cursor

/-- A pipeline, once its parts are known. -/
theorem result_build {codec : Codec} {expression stages own : Value} {cursor : Cursor}
    {order : SortOrder} {limit : Int} {reverse : Bool} {range : Option Range} {custom : List Stage}
    (hLimit : 0 < limit) (hField : (sortField own cursor.field).hashable = true)
    (hRange : (cursorRange codec cursor (.str order.text) reverse).result = .ok range)
    (hStages : supplied stages = .ok custom) :
    (build codec expression cursor (.str order.text) (.int limit) stages reverse own).result =
      .ok (filterStage expression ++ custom ++
        [.sort (sortField own cursor.field) order, .facet (branches range limit)]) := by
  have hsort : sortStage (sortField own cursor.field) order =
      .ok (.sort (sortField own cursor.field) order) := by
    rw [sortStage, if_pos hField]
  rw [sortField] at hsort
  -- every step of the way succeeds, and what is logged in between makes no difference
  simp only [build, Outcome.result_bind, Outcome.result_liftM, Outcome.result_emit,
    Outcome.result_pure, Limit.validate, if_pos hLimit, hRange, hStages, SortOrder.ofValue_text,
    hsort, except_ok_bind, sortField]

end Pipeline

/-! ## Sides of a cursor -/

/-- Whether a document lies on a side of a cursor: on the consumed one if it comes no later
than the cursor in the order of the query, on the unread one if it comes later. A value
that does not belong with the cursor's is on neither side. -/
def ValueOrder.onSide (o : ValueOrder) (field : Value) (order : SortOrder) (consumed : Bool)
    (v document : Value) : Bool :=
  o.belongsWith (valueAt field document) v &&
    o.notAfter order (valueAt field document) v == consumed

/-- The range of a cursor holds one of its sides. -/
theorem Range.admits_ofOrder (o : ValueOrder) (field v : Value) (order : SortOrder)
    (reverse : Bool) (d : Value) :
    Range.admits o ⟨field, Bound.ofOrder order reverse, v⟩ d = o.onSide field order reverse v d := by
  cases order <;> cases reverse <;>
    simp [Range.admits, Bound.ofOrder, Bound.holds, ValueOrder.onSide, ValueOrder.notAfter]

namespace Store

/-- The documents on the side of a cursor that a pipeline looks at; all without a cursor. -/
def onSide (s : Store) (field : Value) (order : SortOrder) (reverse : Bool) (bound : Option Value)
    (documents : List Value) : List Value :=
  match bound with
  | none => documents
  | some v => documents.filter (s.order.onSide field order reverse v)

/-- **What a built pipeline means.** It ends in one facet document. Its counts and its page
are taken from the same documents: all of them for the total, those on the chosen side of
the cursor for the page, which is cut off at the limit, and for the count of that side;
without a cursor the page is cut off from all, and no side is counted. -/
theorem run_build (s : Store) (codec : Codec) (expression : Value) (stages : Option (List Value))
    (field : String) (kind : CursorKind) (value : Value) (bound : Option Value)
    (order : SortOrder) (reverse : Bool) (limit : Int) (own : Option String)
    (hReads : Cursor.Reads codec ⟨.str field, kind, value⟩ bound) (hLimit : 1 ≤ limit)
    (hOwn : own ≠ some "") :
    let documents := s.prepared expression (stages.getD []) (.str (own.getD field)) order
    ∃ p, (Pipeline.build codec expression ⟨.str field, kind, value⟩ (.str order.text)
        (.int limit) (.ofOption .list stages) reverse (.ofOption .str own)).result = .ok p ∧
      s.run p = [.object (
        [("current", .list ((s.onSide (.str field) order reverse bound documents).take
            limit.toNat)),
          ("total", .list (countRecords documents))] ++
        if bound.isSome then
          [("cursored", .list (countRecords (s.onSide (.str field) order reverse bound documents)))]
        else [])] := by
  intro documents
  have hsortField : Pipeline.sortField (.ofOption .str own) (.str field) = .str (own.getD field) := by
    cases own with
    | none => rfl
    | some name =>
      have hne : name ≠ "" := fun h => hOwn (congrArg some h)
      simp [Pipeline.sortField, Value.ofOption, Value.truthy, hne]
  have hhashable : (Pipeline.sortField (.ofOption .str own) (.str field)).hashable = true := by
    rw [hsortField]
    rfl
  have hpositive : 0 < limit := by omega
  have hbuild := @Pipeline.result_build codec expression (.ofOption .list stages) (.ofOption .str own)
    _ order limit reverse _ _ hpositive hhashable
    (Pipeline.result_cursorRange hReads rfl order reverse) (Pipeline.supplied_ofOption stages)
  refine ⟨_, hbuild, ?_⟩
  rw [run_page, hsortField]
  cases bound with
  | none => rfl
  | some v =>
    -- the range in both branches is the chosen side of the cursor
    have hside (documents : List Value) : s.inRange
        (some ⟨.str field, Bound.ofOrder order reverse, v⟩) documents =
        s.onSide (.str field) order reverse (some v) documents :=
      List.filter_congr fun d _ => Range.admits_ofOrder s.order (.str field) v order reverse d
    simp only [Option.map_some, facet, hside, Option.isSome_some, if_true]
    rfl

/-- The document of a day of January 2025. -/
def dayDocument (n : Nat) (h : Date.IsCivil 2025 1 n) : Value :=
  .object [("day", .datetime (.ofDate ⟨2025, 1, n, h⟩)), ("rank", .int 1)]

/-- Three days of one rank. Stages of the caller turn the documents around, or take the first
one to the end; any other stage leaves none. -/
def threeDays : Store where
  documents := [dayDocument 1 (by decide), dayDocument 2 (by decide), dayDocument 3 (by decide)]
  order := .byInstant
  selects := fun _ document => document.truthy
  custom := fun stage documents =>
    match stage with
    | .mapping [(.str "$reverse", _)] => documents.reverse
    | .mapping [(.str "$rotate", _)] => documents.rotate 1
    | _ => []

/-- The consumed side of the second day, seen from the end, with two stages of the caller whose
order makes a difference, an absent and an empty one that would leave nothing, and a sort field
of which all documents hold the same value. The third day is the first one on that side, since
the stages leave the days as the first, the third and the second. -/
theorem run_build_threeDays :
    Cursor.Reads .plain ⟨.str "day", .date, .str "1735776000000"⟩
      (some (.datetime (.ofDate ⟨2025, 1, 2, by decide⟩))) ∧
    (1 : Int) ≤ 1 ∧ some "rank" ≠ some "" ∧
    ∃ p, (Pipeline.build .plain .null ⟨.str "day", .date, .str "1735776000000"⟩ (.str "DESC")
        (.int 1) (.list [.null, .object [("$rotate", .int 1)], .object [],
          .object [("$reverse", .bool true)]]) true (.str "rank")).result = .ok p ∧
      threeDays.run p = [.object
        [("current", .list [dayDocument 3 (by decide)]),
          ("total", .list [.object [("_id", .int 1), ("counter", .int 3)]]),
          ("cursored", .list [.object [("_id", .int 1), ("counter", .int 2)]])]] := by
  have hreads : Cursor.Reads .plain ⟨.str "day", .date, .str "1735776000000"⟩
      (some (.datetime (.ofDate ⟨2025, 1, 2, by decide⟩))) := ⟨rfl, by cbv⟩
  obtain ⟨p, hbuild, hrun⟩ := threeDays.run_build .plain .null
    (some [.null, .object [("$rotate", .int 1)], .object [], .object [("$reverse", .bool true)]])
    "day" .date (.str "1735776000000") (some (.datetime (.ofDate ⟨2025, 1, 2, by decide⟩))) .desc
    true 1 (some "rank") hreads (by decide) (by decide)
  refine ⟨hreads, by decide, by decide, p, hbuild, hrun.trans ?_⟩
  cbv

end Store

end Keyset
