import Keyset.Proofs.Query.Fetch

/-!
# Keyset — walks

A client walks through a query page by page: it starts without a cursor and asks for the
page at the end cursor of the one before, as long as there is a next page.

A page's bound is the date at which the page before it ended; a walk over documents with
dates only meets such bounds, and each step is one from a bound to the next.

* `Query.Walk` — the walks of a query; `Walk.unique` — a cursor begins at most one.
* `Query.PagesByDate.exists_page` — every bound has a page.
* `Query.PagesByDate.exists_next` — a page with a next page ends at the next bound.
-/

namespace Keyset.Query

variable {q : Query}

/-- The pages that a client sees from a cursor on, following end cursors as long as there
is a next page. -/
inductive Walk (q : Query) : Option String → List Page → Prop
  | last {cursor : Option String} {page : Page} (hFetch : q.fetch cursor = .ok page)
      (hNext : page.pageInfo.hasNextPage = false) : Walk q cursor [page]
  | next {cursor : Option String} {page : Page} {pages : List Page}
      (hFetch : q.fetch cursor = .ok page) (hNext : page.pageInfo.hasNextPage = true)
      (hRest : Walk q page.endCursor pages) : Walk q cursor (page :: pages)

/-- A cursor begins at most one walk. -/
theorem Walk.unique {cursor : Option String} {pages pages' : List Page}
    (h : q.Walk cursor pages) (h' : q.Walk cursor pages') : pages = pages' := by
  -- both walks fetch the same page, which decides how they go on
  induction h generalizing pages' with
  | last hFetch hNext =>
    cases h' with
    | last hFetch' _ => rw [Except.ok.inj (hFetch.symm.trans hFetch')]
    | next hFetch' hNext' _ =>
      obtain rfl := Except.ok.inj (hFetch.symm.trans hFetch')
      rw [hNext] at hNext'
      cases hNext'
  | next hFetch hNext _ ih =>
    cases h' with
    | last hFetch' hNext' =>
      obtain rfl := Except.ok.inj (hFetch.symm.trans hFetch')
      rw [hNext] at hNext'
      cases hNext'
    | next hFetch' _ hRest' =>
      obtain rfl := Except.ok.inj (hFetch.symm.trans hFetch')
      rw [ih hRest']

/-! ## Steps -/

/-- A document that comes after one behind a bound is behind the bound, too. -/
theorem isAfter_of_isAfter {bound : Option DateTime} {d e : Value}
    (he : q.isAfter bound e = true)
    (hd : q.store.order.notAfter q.order (valueAt (.str q.field) d) (valueAt (.str q.field) e) =
      false) : q.isAfter bound d = true := by
  cases bound with
  | none => rfl
  | some t =>
    rw [isAfter, Bool.not_eq_true'] at he ⊢
    by_contra hnot
    rw [Bool.not_eq_false] at hnot
    -- the bound would be between the two documents
    have hbound := q.store.order.notAfter_total q.order (valueAt (.str q.field) e) (.datetime t)
    rw [he, Bool.false_or] at hbound
    rw [q.store.order.notAfter_trans q.order hnot hbound] at hd
    cases hd

theorem length_nodes {bound : Option DateTime} :
    (q.nodes bound).length = min q.limit.toNat (q.remaining bound).length := List.length_take

namespace PagesByDate

variable (h : q.PagesByDate) {bound : Option DateTime}

include h

/-- Every bound has a page, and there is a next page if not all documents fit on it. -/
theorem exists_page (hBound : q.IsBound bound) :
    ∃ info, q.fetch (bound.map q.codec.cursorOf) = .ok (q.page bound info) ∧
      info.hasNextPage = decide (q.limit.toNat < (q.remaining bound).length) := by
  -- the counters stay in the range where page numbers can be formed
  have htotal : (q.results.length : ℤ) ≤ 2 ^ 1000 := by
    rw [results, Store.length_sorted]
    exact_mod_cast h.length_le
  have hremaining : ((q.remaining bound).length : ℤ) ≤ q.results.length := by
    exact_mod_cast List.length_filter_le _ _
  obtain ⟨info, hinfo, hnext⟩ := Metrics.exists_compute_int h.limit_pos (q.nodes bound).length
    hremaining (by omega) htotal q.order
  refine ⟨info, ?_, ?_⟩
  · rw [h.fetch_eq hBound, metadata, hinfo]
    rfl
  · rw [hnext, length_nodes, decide_eq_decide]
    omega

/-- **A step of a walk.** A page with a next page ends at the date of its last document,
and what is after that date is what comes after the document. -/
theorem exists_next (hLong : q.limit.toNat < (q.remaining bound).length) :
    ∃ e t, (q.nodes bound).getLast? = some e ∧ q.lastDate bound = some t ∧
      HoldsDate q.field e t ∧ q.IsBound (some t) ∧
      ∀ d, q.isAfter (some t) d = (!q.store.order.notAfter q.order (valueAt (.str q.field) d)
        (valueAt (.str q.field) e) && q.isAfter bound d) := by
  -- the page size is positive, so there is a last document on the page
  have hne : q.nodes bound ≠ [] := by
    have := h.limit_pos
    rw [← List.length_pos_iff, length_nodes]
    omega
  have hlast := List.getLast?_eq_getLast_of_ne_nil hne
  generalize (q.nodes bound).getLast hne = e at hlast
  have hremaining : e ∈ q.remaining bound := List.mem_of_mem_take (List.mem_of_getLast? hlast)
  obtain ⟨hresult, hafter⟩ := List.mem_filter.mp hremaining
  obtain ⟨t, ht, hdate⟩ := h.exists_holdsDate hresult
  refine ⟨e, t, hlast, by rw [lastDate, hlast, Option.bind_some, hdate], ht, ?_, fun d => ?_⟩
  · rintro u ⟨⟩
    exact ⟨e, hresult, ht⟩
  · rw [ht.valueAt_eq h.undotted, isAfter]
    -- after the end of the page implies after the bound
    cases hd : q.store.order.notAfter q.order (valueAt (.str q.field) d) (.datetime t) with
    | true => rfl
    | false =>
      rw [← ht.valueAt_eq h.undotted] at hd
      rw [isAfter_of_isAfter hafter hd]
      rfl

end PagesByDate

end Keyset.Query
