import Keyset.Page.Metrics
import Keyset.Proofs.Number.Rounding
import Keyset.Proofs.Outcome

/-!
# Keyset — page metadata for integer counters

The counters of a page are integers, and the only thing that can go wrong with them
is the conversion to a double on the way to a page number.

* `Metrics.pageInfo` — the metadata by exact arithmetic.
* `Metrics.compute_int` — below `2 ^ 52` documents, this is what is computed.
* `Metrics.exists_compute_int` — as long as doubles reach there is some metadata, and
  the two neighbours of the page are right in it.
* `Metrics.neighbours_of_compute` — there is a next page in it if documents are left, and a
  previous one if documents are consumed.
* `Metrics.compute_int_cases`, `Metrics.exists_compute_of_le` — counters that do not fit together
  have metadata as well, unless a page number is out of the range of doubles.
-/

namespace Keyset

/-- A page size that passes its check is positive, and stays what it is. -/
theorem Limit.validate_eq_ok {size n : Int} (h : validate (.int size) = .ok n) :
    n = size ∧ 0 < size := by
  rw [validate] at h
  split at h
  · next hpos => exact ⟨(Except.ok.inj h).symm, hpos⟩
  · exact absurd h (raise_ne_ok _ _)

namespace Metrics

/-- The least number of pages of a size that hold so many documents. -/
def pagesFor (total size : Int) : Int := -(-total / size)

/-- The metadata of a page by exact arithmetic: the page number counts the pages before
the first unread document, from the end in a descending query. -/
def pageInfo (total cursored current size : Int) (order : SortOrder) : PageInfo where
  hasNextPage := current < cursored
  hasPreviousPage := cursored < total
  totalPage := pagesFor total size
  totalResults := total
  currentPage :=
    match order with
    | .asc => (total - cursored) / size + 1
    | .desc => pagesFor total size - (total - cursored) / size

section

variable {total cursored size : Int} (hSize : 0 < size)

include hSize

theorem validate_size : Limit.validate (.int size) = .ok size := by
  rw [Limit.validate, if_pos hSize]

theorem floorDiv_int : (Number.int total).floorDiv (.int size) = .ok (.int (total / size)) := by
  rw [Number.floorDiv, if_neg hSize.ne', Int.fdiv_eq_ediv_of_nonneg _ hSize.le]

theorem ceilDiv_int : (Number.int total).ceilDiv (.int size) = .ok (.int (pagesFor total size)) := by
  rw [Number.ceilDiv, Number.neg, floorDiv_int hSize]
  rfl

/-- There are no more pages than documents. -/
theorem pagesFor_le (hTotal : 0 ≤ total) : 0 ≤ pagesFor total size ∧ pagesFor total size ≤ total := by
  -- dividing by a positive size does not increase the magnitude
  have hlow : -total ≤ -total / size := by
    rw [Int.le_ediv_iff_mul_le hSize]
    nlinarith
  have hhigh : -total / size ≤ 0 := Int.ediv_nonpos_of_nonpos_of_neg (by omega) hSize
  rw [pagesFor]
  omega

/-- The case that no page is counted is no exception. -/
theorem pageCount_int (hTotal : 0 ≤ total) :
    pageCount (.int total) size = (Number.int (pagesFor total size)).roundHalfUp := by
  unfold pageCount
  by_cases hpos : 0 < total
  · rw [Number.isPositive, if_pos (decide_eq_true hpos), ceilDiv_int hSize, except_ok_bind]
  · obtain rfl : total = 0 := by omega
    rw [Number.isPositive, decide_eq_false hpos, if_neg Bool.false_ne_true, pagesFor, Int.neg_zero,
      Int.zero_ediv, Int.neg_zero, Number.roundHalfUp_int (by decide)]

/-- The case that nothing comes before the page is no exception. -/
theorem pageAfter_int (hTotal : 0 ≤ total) :
    pageAfter (.int total) size = (Number.int (total / size + 1)).roundHalfUp := by
  unfold pageAfter
  by_cases hpos : 0 < total
  · rw [Number.isPositive, if_pos (decide_eq_true hpos), floorDiv_int hSize, except_ok_bind,
      Number.add, Number.lift, except_ok_bind]
  · obtain rfl : total = 0 := by omega
    rw [Number.isPositive, decide_eq_false hpos, if_neg Bool.false_ne_true, Int.zero_ediv,
      Int.zero_add, Number.roundHalfUp_int (by decide)]

/-- The metadata of any integer counters, up to the page numbers. -/
theorem compute_int_eq (total cursored current : Int) (order : SortOrder) :
    compute (.int total) (.int cursored) (.int current) size order = do
      let pages ← pageCount (.int total) size
      let page ← pageAfter (.int (total - cursored)) size
      let currentPage ← match order with
        | .asc => Except.ok page
        | .desc => (Number.int (pages - page + 1)).roundHalfUp
      return ⟨(Number.int (total - (current + (total - cursored)))).isPositive,
        (Number.int (total - cursored)).isPositive, pages, total, currentPage⟩ := by
  cases order <;>
    simp only [compute, validate_size hSize, Number.sub, Number.add, Number.lift, totalResults,
      except_ok_bind]

/-- The metadata of integer counters, once the page numbers are rounded. -/
theorem compute_of_round {current pages page : Int} (hCursored : cursored ≤ total)
    (hTotal : 0 ≤ total) (order : SortOrder)
    (hPages : (Number.int (pagesFor total size)).roundHalfUp = .ok pages)
    (hPage : (Number.int ((total - cursored) / size + 1)).roundHalfUp = .ok page) :
    compute (.int total) (.int cursored) (.int current) size order =
      (match order with
        | .asc => Except.ok page
        | .desc => (Number.int (pages - page + 1)).roundHalfUp) >>= fun currentPage =>
          .ok ⟨current < cursored, cursored < total, pages, total, currentPage⟩ := by
  -- the number of documents consumed cancels out
  have hunread : decide (0 < total - (current + (total - cursored))) =
      decide (current < cursored) := by
    rw [decide_eq_decide]
    omega
  have hprevious : decide (0 < total - cursored) = decide (cursored < total) := by
    rw [decide_eq_decide]
    omega
  rw [compute_int_eq hSize, pageCount_int hSize hTotal, hPages, except_ok_bind,
    pageAfter_int hSize (show 0 ≤ total - cursored by omega), hPage, except_ok_bind]
  simp only [Number.isPositive, hunread, hprevious]
  cases order <;> rfl

/-- **Page metadata is exact** below `2 ^ 52` documents, although page numbers pass
through doubles. -/
theorem compute_int (current : Int) (hCursored : cursored ≤ total) (hNonneg : 0 ≤ cursored)
    (hTotal : total < 2 ^ 52) (order : SortOrder) :
    compute (.int total) (.int cursored) (.int current) size order =
      .ok (pageInfo total cursored current size order) := by
  have hpages := pagesFor_le hSize (show 0 ≤ total by omega)
  have hprevious : 0 ≤ (total - cursored) / size := Int.ediv_nonneg (by omega) hSize.le
  have hpage : (total - cursored) / size ≤ total - cursored := Int.ediv_le_self _ (by omega)
  rw [compute_of_round hSize hCursored (by omega) order (Number.roundHalfUp_int (by omega))
    (Number.roundHalfUp_int (by omega))]
  cases order with
  | asc => rfl
  | desc =>
    -- the number from the end passes through a double once more
    have hnumber : pagesFor total size - ((total - cursored) / size + 1) + 1 =
        pagesFor total size - (total - cursored) / size := by omega
    rw [Number.roundHalfUp_int (by omega), except_ok_bind, hnumber]
    rfl

/-- The metadata of any number of documents that doubles reach. The page numbers may be
rounded, but whether there is a page before and after is not. -/
theorem exists_compute_int (current : Int) (hCursored : cursored ≤ total) (hNonneg : 0 ≤ cursored)
    (hTotal : total ≤ 2 ^ 1000) (order : SortOrder) :
    ∃ info, compute (.int total) (.int cursored) (.int current) size order = .ok info ∧
      info.hasNextPage = decide (current < cursored) := by
  have hpages := pagesFor_le hSize (show 0 ≤ total by omega)
  have hprevious : 0 ≤ (total - cursored) / size := Int.ediv_nonneg (by omega) hSize.le
  have hpage : (total - cursored) / size ≤ total - cursored := Int.ediv_le_self _ (by omega)
  -- every rounding may add a few bits, and the range has room for them
  obtain ⟨pages, hPages, hPagesBound⟩ :=
    Number.exists_roundHalfUp_int (n := pagesFor total size) 1000 (by omega) (by omega)
  obtain ⟨page, hPage, hPageBound⟩ :=
    Number.exists_roundHalfUp_int (n := (total - cursored) / size + 1) 1001 (by omega) (by omega)
  rw [compute_of_round hSize hCursored (by omega) order hPages hPage]
  cases order with
  | asc => exact ⟨_, rfl, rfl⟩
  | desc =>
    obtain ⟨number, hNumber, -⟩ :=
      Number.exists_roundHalfUp_int (n := pages - page + 1) 1006 (by omega) (by omega)
    rw [hNumber, except_ok_bind]
    exact ⟨_, rfl, rfl⟩

end

/-- Whether there are pages around a page does not depend on page numbers: metadata that is
computed at all says that there is a next page exactly if documents are left after the page, and
a previous one exactly if documents are consumed before it. -/
theorem neighbours_of_compute {total cursored current size : Int} {order : SortOrder}
    {info : PageInfo} (h : compute (.int total) (.int cursored) (.int current) size order = .ok info) :
    info.hasNextPage = decide (current < cursored) ∧
      info.hasPreviousPage = decide (cursored < total) := by
  rw [compute] at h
  obtain ⟨limit, -, h⟩ := except_bind_eq_ok.mp h
  simp only [Number.sub, Number.add, Number.lift, except_ok_bind] at h
  obtain ⟨pages, -, h⟩ := except_bind_eq_ok.mp h
  obtain ⟨page, -, h⟩ := except_bind_eq_ok.mp h
  -- only the page number tells the two directions apart
  have hunread : (Number.int (total - (current + (total - cursored)))).isPositive =
      decide (current < cursored) := by
    rw [Number.isPositive, decide_eq_decide]
    omega
  have hprevious : (Number.int (total - cursored)).isPositive = decide (cursored < total) := by
    rw [Number.isPositive, decide_eq_decide]
    omega
  cases order with
  | asc =>
    obtain ⟨results, -, h⟩ := except_bind_eq_ok.mp h
    obtain rfl := Except.ok.inj h
    exact ⟨hunread, hprevious⟩
  | desc =>
    obtain ⟨number, -, h⟩ := except_bind_eq_ok.mp h
    obtain ⟨results, -, h⟩ := except_bind_eq_ok.mp h
    obtain rfl := Except.ok.inj h
    exact ⟨hunread, hprevious⟩

/-! ## Counters that do not fit together -/

section

variable {size : Int} (hSize : 0 < size)

include hSize

theorem pageCount_int_cases (total : Int) :
    (∃ pages, pageCount (.int total) size = .ok pages) ∨
      pageCount (.int total) size = .error .overflow := by
  unfold pageCount
  split
  · rw [ceilDiv_int hSize, except_ok_bind]
    exact Number.roundHalfUp_int_cases _
  · exact Or.inl ⟨0, rfl⟩

theorem pageAfter_int_cases (previous : Int) :
    (∃ page, pageAfter (.int previous) size = .ok page) ∨
      pageAfter (.int previous) size = .error .overflow := by
  unfold pageAfter
  split
  · rw [floorDiv_int hSize, except_ok_bind, Number.add, Number.lift, except_ok_bind]
    exact Number.roundHalfUp_int_cases _
  · exact Or.inl ⟨1, rfl⟩

/-- Integer counters have metadata, however they fit together, unless a page number is out of
the range of doubles. -/
theorem compute_int_cases (total cursored current : Int) (order : SortOrder) :
    (∃ info, compute (.int total) (.int cursored) (.int current) size order = .ok info) ∨
      compute (.int total) (.int cursored) (.int current) size order = .error .overflow := by
  rw [compute_int_eq hSize]
  -- each of the numbers in turn is rounded or out of range
  obtain ⟨pages, hpages⟩ | hpages := pageCount_int_cases hSize total
  · obtain ⟨page, hpage⟩ | hpage := pageAfter_int_cases hSize (total - cursored)
    · rw [hpages, except_ok_bind, hpage, except_ok_bind]
      cases order with
      | asc => exact Or.inl ⟨_, rfl⟩
      | desc =>
        obtain ⟨number, hnumber⟩ | hnumber := Number.roundHalfUp_int_cases (pages - page + 1)
        · exact Or.inl ⟨_, by rw [hnumber]; rfl⟩
        · exact Or.inr (by rw [hnumber]; rfl)
    · exact Or.inr (by rw [hpages, except_ok_bind, hpage]; rfl)
  · exact Or.inr (by rw [hpages]; rfl)

/-- No counters of up to a thousand bits are out of range. -/
theorem exists_compute_of_le {total cursored : Int} (current : Int)
    (hTotal : total.natAbs ≤ 2 ^ 1000) (hCursored : cursored.natAbs ≤ 2 ^ 1000)
    (order : SortOrder) :
    ∃ info, compute (.int total) (.int cursored) (.int current) size order = .ok info := by
  -- far from the range of doubles each rounded number is at most sixteen times its bound
  obtain ⟨pages, hpages, hpagesBound⟩ :
      ∃ pages, pageCount (.int total) size = .ok pages ∧ pages.natAbs ≤ 2 ^ (1000 + 4) := by
    unfold pageCount
    split
    · next hpos =>
      have hpages := pagesFor_le hSize (of_decide_eq_true hpos).le
      rw [ceilDiv_int hSize, except_ok_bind]
      exact Number.exists_roundHalfUp_int 1000 (by omega) (by omega)
    · exact ⟨0, rfl, by omega⟩
  obtain ⟨page, hpage, hpageBound⟩ :
      ∃ page, pageAfter (.int (total - cursored)) size = .ok page ∧ page.natAbs ≤ 2 ^ (1002 + 4) := by
    unfold pageAfter
    split
    · next hpos =>
      have hprevious : 0 < total - cursored := of_decide_eq_true hpos
      have hnonneg : 0 ≤ (total - cursored) / size := Int.ediv_nonneg (by omega) hSize.le
      have hle : (total - cursored) / size ≤ total - cursored := Int.ediv_le_self _ (by omega)
      rw [floorDiv_int hSize, except_ok_bind, Number.add, Number.lift, except_ok_bind]
      exact Number.exists_roundHalfUp_int 1002 (by omega) (by omega)
    · exact ⟨1, rfl, by omega⟩
  rw [compute_int_eq hSize, hpages, except_ok_bind, hpage, except_ok_bind]
  cases order with
  | asc => exact ⟨_, rfl⟩
  | desc =>
    -- counted from the end, the number is a difference of the two, and is rounded once more
    obtain ⟨number, hnumber, -⟩ :=
      Number.exists_roundHalfUp_int (n := pages - page + 1) 1007 (by omega) (by omega)
    exact ⟨_, by rw [hnumber]; rfl⟩

end

end Metrics

end Keyset
