import Keyset.Proofs.Walk.Complete

/-!
# Keyset — the metadata along a walk

Without ties a walk takes the results in blocks of the page size, and the metadata of
its pages is what a client expects: pages are numbered in the order of the documents'
dates, from the first to the last going forward and from the last to the first going
backward.

* `Query.pageCount` — the number of pages that the results fill.
* `Query.infoAt` — the metadata of the page with a number in the walk.
* `Query.PagesByDate.metadata_eq` — it is what the counters of that page give.
* `Query.PagesByDate.walk_metadata` — a walk shows it page after page.
-/

namespace Keyset.Query

/-- The number of pages that the selected documents fill. -/
def pageCount (q : Query) : Nat :=
  ((q.store.matching q.expression).length + q.limit.toNat - 1) / q.limit.toNat

/-- The metadata of the page with a number in the walk, counted from 1. -/
def infoAt (q : Query) (k : Nat) : PageInfo where
  hasNextPage := k < q.pageCount
  hasPreviousPage := 1 < k
  totalPage := q.pageCount
  totalResults := (q.store.matching q.expression).length
  currentPage :=
    match q.order with
    | .asc => k
    | .desc => q.pageCount - k + 1

/-! ## Arithmetic -/

section Pages

variable (total : Nat) {size : Nat} (hSize : 0 < size)

include hSize

/-- The page with a number begins inside a total if and only if it is one of its pages. -/
theorem lt_pages_iff (k : Nat) : k < (total + size - 1) / size ↔ k * size < total := by
  rw [Nat.lt_iff_add_one_le, Nat.le_div_iff_mul_le hSize, Nat.add_mul]
  omega

theorem pagesFor_natCast :
    Metrics.pagesFor total size = ((total + size - 1) / size : Nat) := by
  set pages := (total + size - 1) / size with hpages
  -- rounding up is the least number of pages that hold all
  have hlow : pages * size ≤ total + size - 1 := Nat.div_mul_le_self _ _
  have hhigh : total ≤ pages * size := by
    have := (lt_pages_iff total hSize pages).not.mp (by omega)
    omega
  have hquotient : -(total : Int) / size = -pages := by
    rw [Int.ediv_eq_iff_of_pos (by exact_mod_cast hSize)]
    constructor <;> push_cast [neg_mul] <;> norm_cast <;> omega
  rw [Metrics.pagesFor, hquotient, neg_neg]

end Pages

variable {q : Query}

namespace PagesByDate

variable (h : q.PagesByDate) {bound : Option DateTime}

include h

/-- **The metadata of a page.** Where the pages before have taken their fill, the counters
give the metadata of the page's number. -/
theorem metadata_eq {k : Nat} (hCount : (q.store.matching q.expression).length < 2 ^ 52)
    (hRemaining : q.remaining bound = q.results.drop (k * q.limit.toNat))
    (hStart : k * q.limit.toNat < (q.store.matching q.expression).length) :
    q.metadata bound = .ok (q.infoAt (k + 1)) := by
  have hlimit := h.limit_pos
  have hsize : 0 < q.limit.toNat := by omega
  have hresults : q.results.length = (q.store.matching q.expression).length := Store.length_sorted
  have hremaining : (q.remaining bound).length =
      (q.store.matching q.expression).length - k * q.limit.toNat := by
    rw [hRemaining, List.length_drop, hresults]
  have hlimitNat : q.limit = (q.limit.toNat : Int) := by omega
  rw [metadata, length_nodes, hremaining, hresults, hlimitNat, Int.toNat_natCast]
  have hnext := lt_pages_iff (q.store.matching q.expression).length hsize (k + 1)
  have hcount := pagesFor_natCast (q.store.matching q.expression).length hsize
  have hfirst : 0 < k * q.limit.toNat ↔ 0 < k := Nat.mul_pos_iff_of_pos_right hsize
  have hpage : ((k * q.limit.toNat : Nat) : Int) / q.limit.toNat = k := by
    rw [Nat.cast_mul, Int.mul_ediv_cancel _ (by omega)]
  rw [Nat.add_mul, Nat.one_mul] at hnext
  -- from here on only the three numbers matter
  generalize hn : q.limit.toNat = n at *
  generalize hN : (q.store.matching q.expression).length = total at *
  generalize k * n = before at *
  have hbefore : (total : Int) - (total - before : Nat) = before := by omega
  rw [Metrics.compute_int (by omega) _ (by omega) (by omega) (by exact_mod_cast hCount)]
  congr 1
  simp only [Metrics.pageInfo, infoAt, pageCount, hn, hN, PageInfo.mk.injEq, decide_eq_decide,
    hcount, hbefore, hpage]
  -- the next page, the previous page, and the number counted from either end
  refine ⟨?_, ?_, trivial, trivial, ?_⟩
  · rw [hnext]
    omega
  · omega
  · cases q.order with
    | asc => simp
    | desc =>
      push_cast
      omega

/-! ## Walks without ties -/

section Distinct

variable (hDistinct : ((q.store.matching q.expression).map (valueAt (.str q.field))).Nodup)

include hDistinct

/-- Without ties no document comes no later than one before it. -/
theorem pairwise_strict : q.results.Pairwise fun d e =>
    q.store.order.notAfter q.order (valueAt (.str q.field) e) (valueAt (.str q.field) d) =
      false := by
  have hnodup : (q.results.map (valueAt (.str q.field))).Nodup :=
    (q.store.perm_sorted.map _).nodup_iff.mpr hDistinct
  have hsorted := q.store.pairwise_sorted q.expression (.str q.field) q.order
  refine (hsorted.and (List.pairwise_map.mp hnodup)).imp_of_mem fun hd he hde => ?_
  rw [← Bool.not_eq_true]
  exact fun hed => hde.2 (h.valueAt_eq_of_notAfter hd he hde.1 hed)

/-- Without ties, what comes after a page are the documents behind it. -/
theorem exists_remaining_next (hLong : q.limit.toNat < (q.remaining bound).length) :
    ∃ t, q.lastDate bound = some t ∧ q.IsBound (some t) ∧
      q.remaining (some t) = (q.remaining bound).drop q.limit.toNat := by
  obtain ⟨e, t, hlast, hdate, -, hBound, hafter⟩ := h.exists_next hLong
  refine ⟨t, hdate, hBound, ?_⟩
  have hsorted := q.store.pairwise_sorted q.expression (.str q.field) q.order
  -- no document ties with the end of the page, so the rest begins right behind it
  have hdrop := filter_after_of_strict hlast
    ((h.pairwise_strict hDistinct).sublist List.filter_sublist)
    (hsorted.sublist List.filter_sublist) fun d => q.store.order.notAfter_refl q.order _
  rw [← hdrop, remaining, remaining, List.filter_filter]
  exact List.filter_congr fun d _ => hafter d

/-- A walk shows the metadata of the pages from its start on. -/
theorem map_pageInfo_of_walk (hCount : (q.store.matching q.expression).length < 2 ^ 52)
    {cursor : Option String} {pages : List Page} (hWalk : q.Walk cursor pages)
    (hCursor : cursor = bound.map q.codec.cursorOf) (hBound : q.IsBound bound) {k : Nat}
    (hRemaining : q.remaining bound = q.results.drop (k * q.limit.toNat))
    (hStart : k * q.limit.toNat < (q.store.matching q.expression).length) :
    pages.map (·.pageInfo) = (List.range' (k + 1) (q.pageCount - k)).map q.infoAt := by
  have hsize : 0 < q.limit.toNat := by
    have := h.limit_pos
    omega
  -- each page is the one after its bound, with the metadata of its number
  have hfetch {bound : Option DateTime} {k : Nat} (hBound : q.IsBound bound)
      (hRemaining : q.remaining bound = q.results.drop (k * q.limit.toNat))
      (hStart : k * q.limit.toNat < (q.store.matching q.expression).length) :
      q.fetch (bound.map q.codec.cursorOf) = .ok (q.page bound (q.infoAt (k + 1))) := by
    rw [h.fetch_eq hBound, h.metadata_eq hCount hRemaining hStart]
    rfl
  -- induction on the walk: every page moves the bound one page size further
  induction hWalk generalizing bound k with
  | last hFetch hNext =>
    obtain rfl := Except.ok.inj (hFetch.symm.trans (hCursor ▸ hfetch hBound hRemaining hStart))
    have hlast : ¬ k + 1 < q.pageCount := of_decide_eq_false hNext
    have hinside : k < q.pageCount := (lt_pages_iff _ hsize k).mpr hStart
    rw [show q.pageCount - k = 1 by omega]
    rfl
  | next hFetch hNext _ ih =>
    obtain rfl := Except.ok.inj (hFetch.symm.trans (hCursor ▸ hfetch hBound hRemaining hStart))
    have hmore : k + 1 < q.pageCount := of_decide_eq_true hNext
    have hStart' := (lt_pages_iff _ hsize (k + 1)).mp hmore
    have hLong : q.limit.toNat < (q.remaining bound).length := by
      rw [hRemaining, List.length_drop, results, Store.length_sorted]
      rw [Nat.add_mul] at hStart'
      omega
    obtain ⟨t, hdate, hBound', hdrop⟩ := h.exists_remaining_next hDistinct hLong
    rw [hRemaining, List.drop_drop, ← Nat.succ_mul] at hdrop
    rw [List.map_cons, ih (by rw [endCursor_page, hdate]) hBound' hdrop hStart',
      show q.pageCount - k = q.pageCount - (k + 1) + 1 by omega, List.range'_succ, List.map_cons]
    rfl

/-- **The metadata of a walk.** Without ties and below `2 ^ 52` documents, the walk from the
start has as many pages as the documents fill, and its pages have the metadata of their
numbers, counted from 1. -/
theorem walk_metadata (hCount : (q.store.matching q.expression).length < 2 ^ 52)
    (hSome : 0 < (q.store.matching q.expression).length) :
    ∃ pages, q.Walk none pages ∧ (∀ pages', q.Walk none pages' → pages' = pages) ∧
      pages.length = q.pageCount ∧
      pages.map (·.pageInfo) = (List.range' 1 q.pageCount).map q.infoAt := by
  obtain ⟨pages, hpages⟩ := h.exists_walk
  have hremaining : q.remaining none = q.results.drop (0 * q.limit.toNat) := by
    rw [remaining_none, Nat.zero_mul, List.drop_zero]
  have hinfo := h.map_pageInfo_of_walk hDistinct hCount hpages rfl isBound_none hremaining
    (by omega)
  refine ⟨pages, hpages, fun pages' hpages' => hpages'.unique hpages, ?_, hinfo⟩
  have hlength := congrArg List.length hinfo
  rwa [List.length_map, List.length_map, List.length_range'] at hlength

end Distinct

end PagesByDate

/-- Three documents of different days, in pages of two, from the last day on. -/
def distinctQuery : Query :=
  overDates [⟨2024, 2, 2, by decide⟩, ⟨2024, 2, 1, by decide⟩, ⟨2024, 2, 3, by decide⟩] .desc 2

theorem walk_metadata_distinctQuery : distinctQuery.PagesByDate ∧
    ∃ pages, distinctQuery.Walk none pages ∧
      (∀ pages', distinctQuery.Walk none pages' → pages' = pages) ∧
      pages.length = distinctQuery.pageCount ∧
      pages.map (·.pageInfo) = (List.range' 1 distinctQuery.pageCount).map distinctQuery.infoAt := by
  have hpages : distinctQuery.PagesByDate := pagesByDate_overDates (by decide) .desc (by decide)
  have hlength : (distinctQuery.store.matching distinctQuery.expression).length = 3 := by
    rw [distinctQuery, matching_overDates]
    rfl
  refine ⟨hpages, hpages.walk_metadata (nodup_overDates (by decide) _ _) ?_ ?_⟩
  · rw [hlength]
    decide
  · rw [hlength]
    decide

end Keyset.Query
