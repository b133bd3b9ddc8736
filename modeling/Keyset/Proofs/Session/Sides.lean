import Keyset.Proofs.Session

/-!
# Keyset — the two sides of a cursor

A pipeline looks at the documents after its cursor, and a reversed one at the documents up to the
cursor. Where all documents have a value that compares with the cursor's, each of them is on one
side: the counts of the two pipelines add up, and what the metadata takes for the number of
consumed documents is the count of the reversed pipeline.

The reversed pipeline cuts its page off where the unread one does, at the start of its documents.
It therefore shows the first consumed documents, which are the ones just before the cursor only
as long as they fit on one page.

* `Session.answer` — what a store answers to a pipeline of a session.
* `Session.shared` — the documents that both pipelines start from, and `Session.side` those of
  them on one side.
* `Session.sides_add_up` — what the two pipelines of a session count.
* `Session.page_consumed` — what the reversed pipeline shows.
-/

namespace Keyset

/-- A document with a value that compares with the cursor's is consumed or unread. -/
theorem ValueOrder.onSide_consumed (o : ValueOrder) {field v d : Value} (order : SortOrder)
    (h : o.belongsWith (valueAt field d) v = true) :
    o.onSide field order true v d = !o.onSide field order false v d := by
  simp only [onSide, h, Bool.true_and]
  cases o.notAfter order (valueAt field d) v <;> rfl

/-- The documents in the range of a side are those on it. -/
theorem Store.inRange_ofOrder (s : Store) (field v : Value) (order : SortOrder) (reverse : Bool)
    (documents : List Value) :
    s.inRange (some ⟨field, Bound.ofOrder order reverse, v⟩) documents =
      s.onSide field order reverse (some v) documents :=
  List.filter_congr fun d _ => Range.admits_ofOrder s.order field v order reverse d

/-- The sides of a cursor make up the documents. -/
theorem Store.length_onSide (s : Store) {field v : Value} (order : SortOrder)
    {documents : List Value} (h : ∀ d ∈ documents, s.order.belongsWith (valueAt field d) v = true) :
    (s.onSide field order false (some v) documents).length +
      (s.onSide field order true (some v) documents).length = documents.length := by
  have hconsumed : s.onSide field order true (some v) documents =
      documents.filter fun d => !s.order.onSide field order false v d :=
    List.filter_congr fun d hd => s.order.onSide_consumed order (h d hd)
  rw [hconsumed]
  exact (List.length_eq_length_filter_add _).symm

/-- The first elements of a list without repetitions are the last ones only if they are all. -/
theorem take_eq_rtake_iff {α : Type} {l : List α} (h : l.Nodup) {n : Nat} (hPositive : 0 < n) :
    l.take n = l.rtake n ↔ l.length ≤ n := by
  constructor
  · intro heq
    by_contra hlong
    -- the element at the start of both would be in the list twice
    have hfirst : (l.take n)[0]? = (l.rtake n)[0]? := by rw [heq]
    rw [List.getElem?_take_of_lt hPositive, List.rtake, List.getElem?_drop, Nat.add_zero] at hfirst
    have hindex : 0 = l.length - n := (List.getElem?_inj (by omega) h).mp hfirst
    omega
  · -- neither end is cut off
    intro hshort
    rw [List.take_of_length_le hshort, List.rtake, Nat.sub_eq_zero_of_le hshort, List.drop_zero]

namespace Session

/-- A session whose cursor is read as a value has one. -/
theorem isSome_cursor {s : Session} {v : Value}
    (h : Cursor.Reads s.codec s.position (some v)) : s.cursor.isSome = true := by
  have hpresent := h.1
  rw [position] at hpresent
  cases hcursor : s.cursor with
  | none =>
    rw [hcursor] at hpresent
    cases hpresent
  | some c => rfl

/-! ## Answers -/

/-- What a store answers to a pipeline of a session. -/
def answer (s : Session) (store : Store) (stages : Value) (reverse : Bool) :
    Except Failure Value := do
  let p ← (s.pipeline stages reverse).result
  store.execute p

/-- The documents that the pipelines of a session share: selected, as the stages of the caller
leave them, and sorted. -/
def shared (s : Session) (store : Store) (expression : Value) (stages : Option (List Value)) :
    List Value :=
  store.prepared expression (stages.getD []) (.str s.field) s.order

/-- Those of them on a side of a cursor: the consumed one if reversed, else the unread one. -/
def side (s : Session) (store : Store) (expression : Value) (stages : Option (List Value))
    (reverse : Bool) (v : Value) : List Value :=
  store.onSide (.str s.field) s.order reverse (some v) (s.shared store expression stages)

variable {s : Session} {expression v : Value} (store : Store) (stages : Option (List Value))

/-- The sides of a cursor come in the order of the session. -/
theorem pairwise_side (reverse : Bool) : (s.side store expression stages reverse v).Pairwise
    fun d e => store.order.notAfter s.order (valueAt (.str s.field) d)
      (valueAt (.str s.field) e) = true :=
  (store.order.pairwise_sort _ _ _).filter _

section

variable (hCompiled : s.compiled = .ok expression) (hLimit : 0 < s.limit)
  (hReads : Cursor.Reads s.codec s.position (some v))

include hCompiled hLimit hReads

/-- The answer on a side of the cursor. -/
theorem answer_eq (reverse : Bool) :
    s.answer store (.ofOption .list stages) reverse =
      .ok (.object (store.facet (s.shared store expression stages)
        (some ⟨.str s.field, Bound.ofOrder s.order reverse, v⟩) s.limit)) := by
  rw [answer, result_pipelineOn hCompiled hLimit hReads, except_ok_bind]
  exact store.execute_prepared ..

theorem counts_answer (reverse : Bool) :
    s.answer store (.ofOption .list stages) reverse >>= Aggregate.counts =
      .ok ⟨(s.shared store expression stages).length,
        (s.side store expression stages reverse v).length,
        ((s.side store expression stages reverse v).take s.limit.toNat).length⟩ := by
  rw [answer_eq store stages hCompiled hLimit hReads, except_ok_bind, Store.counts_facet,
    Store.inRange_ofOrder]
  rfl

theorem documents_answer (reverse : Bool) :
    s.answer store (.ofOption .list stages) reverse >>= Aggregate.documents =
      .ok ((s.side store expression stages reverse v).take s.limit.toNat) := by
  rw [answer_eq store stages hCompiled hLimit hReads, except_ok_bind, Store.documents_facet,
    Store.inRange_ofOrder]
  rfl

/-! ## Both sides -/

/-- **The sides of a cursor add up.** Let all documents that the pipelines share have a value that
compares with the cursor's. Each of them is then in exactly one of the ranges of the two pipelines.
What the two count on their sides adds up to the total of either, and the number of consumed
documents that the metadata takes from the counts of the unread side is what the reversed
pipeline counts. The metadata says that there is a previous page exactly if the reversed pipeline
shows some document; there is metadata as long as doubles reach. -/
theorem sides_add_up
    (hComparable : ∀ d ∈ s.shared store expression stages,
      store.order.belongsWith (valueAt (.str s.field) d) v = true) :
    (∃ range : Bool → Range,
      (∀ reverse, (Pipeline.cursorRange s.codec s.position (.str s.order.text) reverse).result =
        .ok (some (range reverse))) ∧
      ∀ d ∈ s.shared store expression stages,
        Xor ((range false).admits store.order d = true)
          ((range true).admits store.order d = true)) ∧
    ∃ ahead behind page,
      s.answer store (.ofOption .list stages) false >>= Aggregate.counts = .ok ahead ∧
      s.answer store (.ofOption .list stages) true >>= Aggregate.counts = .ok behind ∧
      s.answer store (.ofOption .list stages) true >>= Aggregate.documents = .ok page ∧
      ahead.total = (s.shared store expression stages).length ∧ behind.total = ahead.total ∧
      ahead.cursored + behind.cursored = ahead.total ∧
      (Number.int ahead.total).sub (.int ahead.cursored) = .ok (.int behind.cursored) ∧
      (∀ info, (s.metadata ahead).result = .ok info →
        (info.hasPreviousPage = true ↔ page ≠ [])) ∧
      (ahead.total ≤ 2 ^ 1000 → ∃ info, (s.metadata ahead).result = .ok info) := by
  constructor
  · -- the ranges differ in their bound only, and one bound is the negation of the other
    refine ⟨fun reverse => ⟨.str s.field, Bound.ofOrder s.order reverse, v⟩,
      fun reverse => Pipeline.result_cursorRange hReads rfl s.order reverse, fun d hd => ?_⟩
    have hsides := store.order.onSide_consumed s.order (hComparable d hd)
    rw [Range.admits_ofOrder, Range.admits_ofOrder, hsides, Bool.not_eq_true',
      ← Bool.not_eq_true, xor_not_right]
  · -- both counters are over a whole side, whatever the limit cuts off
    have hlength : (s.side store expression stages false v).length +
        (s.side store expression stages true v).length =
          (s.shared store expression stages).length := store.length_onSide s.order hComparable
    have hahead := counts_answer store stages hCompiled hLimit hReads false
    have hbehind := counts_answer store stages hCompiled hLimit hReads true
    have hpage := documents_answer store stages hCompiled hLimit hReads true
    set documents := s.shared store expression stages
    set unread := s.side store expression stages false v
    set consumed := s.side store expression stages true v
    have hmetadata : (s.metadata ⟨documents.length, unread.length,
        (unread.take s.limit.toNat).length⟩).result = Metrics.compute (.int documents.length)
          (.int unread.length) (.int (unread.take s.limit.toNat).length) s.limit s.order := by
      rw [result_metadata, isSome_cursor hReads, if_pos rfl]
    refine ⟨_, _, _, hahead, hbehind, hpage, rfl, rfl, ?_, ?_, ?_, ?_⟩
    · -- `total` and `cursored` are the lengths of the lists named above
      change (unread.length : Int) + consumed.length = documents.length
      omega
    · change Except.ok (Number.int (documents.length - unread.length)) = _
      rw [show (documents.length : Int) - unread.length = consumed.length by omega]
    · intro info hinfo
      rw [hmetadata] at hinfo
      -- a page size is positive, so that a page is empty only if its side is
      rw [(Metrics.neighbours_of_compute hinfo).2, decide_eq_true_iff, Ne, List.take_eq_nil_iff,
        ← List.length_eq_zero_iff]
      omega
    · -- the page numbers are rounded as doubles, which have a greatest one
      intro htotal
      change (documents.length : Int) ≤ 2 ^ 1000 at htotal
      obtain ⟨info, hinfo, -⟩ := @Metrics.exists_compute_int documents.length unread.length s.limit
        hLimit (unread.take s.limit.toNat).length (by omega) (by omega) htotal s.order
      exact ⟨info, hmetadata.trans hinfo⟩

end

/-! ## A session at a day -/

/-- A session of one document at the cursor of a day. -/
def atDay (order : SortOrder) (cursor : String) : Session where
  config := {}
  request :=
    match order with
    | .asc => { first := some 1, after := some cursor }
    | .desc => { last := some 1, before := some cursor }
  order
  limit := 1
  field := "day"
  kind := .date
  cursor := some cursor

/-- The expression of a session without filters of its own. -/
def undeleted : Value := Compiler.conjunction [.equals (.str "deletedAt") .null]

theorem compiled_atDay (order : SortOrder) (cursor : String) :
    (atDay order cursor).compiled = .ok undeleted := by
  cases order <;> rfl

/-- The sides of the second day, seen from the end: the day itself is consumed. -/
theorem sides_add_up_secondDay :
    (atDay .desc "1735776000000").compiled = .ok undeleted ∧ (0 : Int) < 1 ∧
    Cursor.Reads (atDay .desc "1735776000000").codec (atDay .desc "1735776000000").position
      (some (.datetime (.ofDate ⟨2025, 1, 2, by decide⟩))) ∧
    (∀ d ∈ (atDay .desc "1735776000000").shared Store.threeDays undeleted none,
      Store.threeDays.order.belongsWith (valueAt (.str "day") d)
        (.datetime (.ofDate ⟨2025, 1, 2, by decide⟩)) = true) ∧
    ∃ ahead behind page,
      (atDay .desc "1735776000000").answer Store.threeDays .null false >>= Aggregate.counts =
        .ok ahead ∧
      (atDay .desc "1735776000000").answer Store.threeDays .null true >>= Aggregate.counts =
        .ok behind ∧
      (atDay .desc "1735776000000").answer Store.threeDays .null true >>= Aggregate.documents =
        .ok page ∧
      ahead.total = 3 ∧ ahead.cursored + behind.cursored = 3 ∧
      ∃ info, ((atDay .desc "1735776000000").metadata ahead).result = .ok info ∧
        (info.hasPreviousPage = true ↔ page ≠ []) := by
  have hreads : Cursor.Reads (atDay .desc "1735776000000").codec
      (atDay .desc "1735776000000").position
      (some (.datetime (.ofDate ⟨2025, 1, 2, by decide⟩))) := ⟨rfl, by cbv⟩
  have hshared : (atDay .desc "1735776000000").shared Store.threeDays undeleted none =
      [Store.dayDocument 3 (by decide), Store.dayDocument 2 (by decide),
        Store.dayDocument 1 (by decide)] := by cbv
  have hcomparable : ∀ d ∈ (atDay .desc "1735776000000").shared Store.threeDays undeleted none,
      Store.threeDays.order.belongsWith (valueAt (.str "day") d)
        (.datetime (.ofDate ⟨2025, 1, 2, by decide⟩)) = true := by
    rw [hshared]
    simp only [List.forall_mem_cons, List.not_mem_nil, false_imp_iff, implies_true, and_true]
    exact ⟨by cbv, by cbv, by cbv⟩
  obtain ⟨-, ahead, behind, page, hahead, hbehind, hpage, htotal, -, hsum, -, hprevious, hinfo⟩ :=
    sides_add_up Store.threeDays none (compiled_atDay .desc _) (by decide) hreads hcomparable
  rw [hshared] at htotal
  -- three documents are few enough, without computing the power
  have hsmall : ahead.total ≤ 2 ^ 1000 := by
    have hpow : (2 : Int) ^ 2 ≤ 2 ^ 1000 := pow_le_pow_right₀ (by decide) (by decide)
    rw [htotal]
    exact le_trans (by decide) hpow
  obtain ⟨info, hinfo⟩ := hinfo hsmall
  exact ⟨compiled_atDay .desc _, by decide, hreads, hcomparable, ahead, behind, page, hahead,
    hbehind, hpage, htotal, hsum.trans htotal, info, hinfo, hprevious info hinfo⟩

/-! ## The consumed side -/

section

variable (hCompiled : s.compiled = .ok expression) (hLimit : 0 < s.limit)
  (hReads : Cursor.Reads s.codec s.position (some v))

include hCompiled hLimit hReads

/-- **What a reversed pipeline shows**, of documents with different values at the cursor field:
the first consumed documents in the order of the session, as many as the page size allows. These
are the last ones, those just before the cursor, exactly if the page has room for all of them. -/
theorem page_consumed
    (hDistinct : ((s.shared store expression stages).map (valueAt (.str s.field))).Nodup) :
    ∃ page, s.answer store (.ofOption .list stages) true >>= Aggregate.documents = .ok page ∧
      (page.Pairwise fun d e => store.order.notAfter s.order (valueAt (.str s.field) d)
        (valueAt (.str s.field) e) = true) ∧
      page = (s.side store expression stages true v).take s.limit.toNat ∧
      (page = (s.side store expression stages true v).rtake s.limit.toNat ↔
        (s.side store expression stages true v).length ≤ s.limit.toNat) := by
  have hnodup : (s.side store expression stages true v).Nodup := hDistinct.of_map.filter _
  -- a filtered list keeps the order of the sort stage, and a prefix of it does
  exact ⟨_, documents_answer store stages hCompiled hLimit hReads true,
    (pairwise_side store stages true).take, rfl, take_eq_rtake_iff hnodup (by omega)⟩

end

/-- The cursor of the third day, after which nothing comes going forward. -/
theorem reads_thirdDay : Cursor.Reads (atDay .asc "1735862400000").codec
    (atDay .asc "1735862400000").position (some (.datetime (.ofDate ⟨2025, 1, 3, by decide⟩))) :=
  ⟨rfl, by cbv⟩

theorem nodup_thirdDay :
    (((atDay .asc "1735862400000").shared Store.threeDays undeleted none).map
      (valueAt (.str "day"))).Nodup := by
  have hdates : ((atDay .asc "1735862400000").shared Store.threeDays undeleted none).map
      (valueAt (.str "day")) =
      [DateTime.ofDate ⟨2025, 1, 1, by decide⟩, .ofDate ⟨2025, 1, 2, by decide⟩,
        .ofDate ⟨2025, 1, 3, by decide⟩].map Value.datetime := by cbv
  -- days are told apart by `decide`, values are not
  rw [hdates]
  exact List.Nodup.map (fun t u h => Value.datetime.inj h) (by decide)

/-- All three days are consumed. -/
theorem side_thirdDay :
    (atDay .asc "1735862400000").side Store.threeDays undeleted none true
      (.datetime (.ofDate ⟨2025, 1, 3, by decide⟩)) =
    [Store.dayDocument 1 (by decide), Store.dayDocument 2 (by decide),
      Store.dayDocument 3 (by decide)] := by cbv

/-- One of the three days is shown, the first one; it is not the one at the cursor. -/
theorem page_consumed_thirdDay :
    (atDay .asc "1735862400000").compiled = .ok undeleted ∧ (0 : Int) < 1 ∧
    Cursor.Reads (atDay .asc "1735862400000").codec (atDay .asc "1735862400000").position
      (some (.datetime (.ofDate ⟨2025, 1, 3, by decide⟩))) ∧
    (((atDay .asc "1735862400000").shared Store.threeDays undeleted none).map
      (valueAt (.str "day"))).Nodup ∧
    ∃ page, (atDay .asc "1735862400000").answer Store.threeDays .null true >>=
        Aggregate.documents = .ok page ∧
      page = [Store.dayDocument 1 (by decide)] ∧
      page ≠ [Store.dayDocument 1 (by decide), Store.dayDocument 2 (by decide),
        Store.dayDocument 3 (by decide)].rtake 1 := by
  obtain ⟨page, hpage, -, hfirst, hlast⟩ := page_consumed Store.threeDays none
    (compiled_atDay .asc _) (by decide) reads_thirdDay nodup_thirdDay
  rw [side_thirdDay] at hfirst hlast
  refine ⟨compiled_atDay .asc _, by decide, reads_thirdDay, nodup_thirdDay, page, hpage, hfirst, ?_⟩
  exact fun h => absurd (hlast.mp h) (by decide)

/-- A reversed pipeline does not always show the documents just before the cursor: after three days,
one on a page, it shows the first. -/
theorem not_always_preceding :
    ¬ ∀ (s : Session) (store : Store) (expression v : Value), s.compiled = .ok expression →
      0 < s.limit → Cursor.Reads s.codec s.position (some v) →
      ((s.shared store expression none).map (valueAt (.str s.field))).Nodup →
      s.answer store .null true >>= Aggregate.documents =
        .ok ((s.side store expression none true v).rtake s.limit.toNat) := by
  intro h
  have hpage := h (atDay .asc "1735862400000") Store.threeDays undeleted _ (compiled_atDay .asc _)
    (by decide) reads_thirdDay nodup_thirdDay
  have hanswer := documents_answer Store.threeDays none (compiled_atDay .asc "1735862400000")
    (by decide) reads_thirdDay true
  -- the first document would be the last one
  have hshort : ((atDay .asc "1735862400000").side Store.threeDays undeleted none true
      (.datetime (.ofDate ⟨2025, 1, 3, by decide⟩))).length ≤ 1 :=
    (take_eq_rtake_iff (nodup_thirdDay.of_map.filter _) (by decide)).mp
      (Except.ok.inj (hanswer.symm.trans hpage))
  rw [side_thirdDay] at hshort
  exact absurd hshort (by decide)

end Session

end Keyset
