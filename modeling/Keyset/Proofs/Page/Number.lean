import Keyset.Proofs.Page.Metrics

/-!
# Keyset — page numbers

The number of a page counts the pages before the first unread document. A query that has read
all its documents has no such document, and its page number is then the one after the last page
if the last page is full.

* `Metrics.pagesFor_le_iff` — so many pages hold all documents.
* `Metrics.Holds` — the page that a document is on; `pageNumbers_of_compute` says that the
  metadata of a page counts pages in this way.
* `Metrics.Drained` — all documents are read, and they fill their pages.
* `Metrics.pageBefore_lt_pagesFor_iff` — where the page number does not pass the last page.
* `Metrics.currentPage_of_compute` — which page numbers are in range, and what they are if not.
-/

namespace Keyset.Metrics

/-- The page number of some metadata is that of a page; the first page is always there. -/
def InRange (info : PageInfo) : Prop :=
  1 ≤ info.currentPage ∧ info.currentPage ≤ max info.totalPage 1

/-- No document is unread, and those that there are fill their pages. -/
def Drained (total cursored size : Int) : Prop := cursored = 0 ∧ size ∣ total

section

variable {total cursored size : Int} (hSize : 0 < size)

include hSize

/-- So many pages are enough exactly if they have room for all documents. -/
theorem pagesFor_le_iff {pages : Int} : pagesFor total size ≤ pages ↔ total ≤ pages * size := by
  have hroom : -pages ≤ -total / size ↔ -pages * size ≤ -total := Int.le_ediv_iff_mul_le hSize
  rw [Int.neg_mul] at hroom
  rw [pagesFor]
  omega

/-- The pages before the first unread document are fewer than there are, unless the documents are
drained. -/
theorem pageBefore_lt_pagesFor_iff (hCursored : cursored ≤ total) (hNonneg : 0 ≤ cursored) :
    (total - cursored) / size < pagesFor total size ↔ ¬ Drained total cursored size := by
  rw [← not_le, pagesFor_le_iff hSize, not_iff_not]
  have hread : (total - cursored) / size * size ≤ total - cursored :=
    Int.ediv_mul_le _ hSize.ne'
  constructor
  · intro hfull
    -- full pages hold what is read only, so that everything is
    obtain rfl : cursored = 0 := by omega
    rw [Int.sub_zero] at hread hfull
    exact ⟨rfl, (total / size), by rw [Int.mul_comm]; omega⟩
  · rintro ⟨rfl, hdvd⟩
    rw [Int.sub_zero, Int.ediv_mul_cancel hdvd]

/-- The page number of drained documents is the one after the last page. -/
theorem pageBefore_of_drained (h : Drained total cursored size) :
    (total - cursored) / size = pagesFor total size := by
  obtain ⟨rfl, pages, rfl⟩ := h
  rw [Int.sub_zero, pagesFor, Int.mul_ediv_cancel_left _ hSize.ne', ← Int.mul_neg,
    Int.mul_ediv_cancel_left _ hSize.ne', Int.neg_neg]

/-- **Where page numbers are in range.** Below `2 ^ 52` documents there is always metadata, and
its page number is that of a page unless the documents are drained. If they are, the number is
one too high going forward, where there are any documents at all, and one too low going
backward. -/
theorem currentPage_of_compute (hCursored : cursored ≤ total) (hNonneg : 0 ≤ cursored)
    (hTotal : total < 2 ^ 52) (current : Int) (order : SortOrder) :
    ∃ info, compute (.int total) (.int cursored) (.int current) size order = .ok info ∧
      (InRange info ↔ ¬ (Drained total cursored size ∧ (order = .desc ∨ 0 < total))) ∧
      (Drained total cursored size →
        info.currentPage = match order with
          | .asc => info.totalPage + 1
          | .desc => 0) := by
  refine ⟨_, compute_int hSize current hCursored hNonneg hTotal order, ?_, ?_⟩
  · have hlast := pageBefore_lt_pagesFor_iff hSize hCursored hNonneg
    have hbefore : 0 ≤ (total - cursored) / size := Int.ediv_nonneg (by omega) hSize.le
    -- there are pages as soon as there are documents
    have hpages : pagesFor total size ≤ 0 ↔ total ≤ 0 * size := pagesFor_le_iff hSize
    rw [Int.zero_mul] at hpages
    by_cases hdrained : Drained total cursored size
    · have heq := pageBefore_of_drained hSize hdrained
      cases order <;> simp [InRange, pageInfo, hdrained] <;> omega
    · have hlt := hlast.mpr hdrained
      cases order <;> simp [InRange, pageInfo, hdrained] <;> omega
  · intro hdrained
    have heq := pageBefore_of_drained hSize hdrained
    cases order <;> simp [pageInfo, heq]

end

/-- Going backward over four documents two at a time, the last page is the first that is read,
and nothing is left on the page that would come before the first. -/
theorem currentPage_of_compute_four :
    (∃ info, compute (.int 4) (.int 4) (.int 2) 2 .desc = .ok info ∧ InRange info) ∧
    ∃ info, compute (.int 4) (.int 0) (.int 0) 2 .desc = .ok info ∧ info.currentPage = 0 := by
  have hsize : (0 : Int) < 2 := by decide
  have htotal : (4 : Int) < 2 ^ 52 := by decide
  have hnonneg : (0 : Int) ≤ 4 := by decide
  constructor
  · obtain ⟨info, hinfo, hrange, -⟩ :=
      currentPage_of_compute hsize (le_refl 4) hnonneg htotal 2 .desc
    refine ⟨info, hinfo, hrange.mpr ?_⟩
    simp [Drained]
  · obtain ⟨info, hinfo, -, hnumber⟩ :=
      currentPage_of_compute hsize hnonneg (le_refl 0) htotal 0 .desc
    exact ⟨info, hinfo, hnumber ⟨rfl, by decide⟩⟩

/-- Not all page numbers are in range: after the last of four documents, two at a time, the number
is that of a third page. -/
theorem not_always_inRange :
    ¬ ∀ (total cursored current size : Int) (order : SortOrder), 0 ≤ current → current ≤ cursored →
      cursored ≤ total → total < 2 ^ 52 → 1 ≤ size →
      ∃ info, compute (.int total) (.int cursored) (.int current) size order = .ok info ∧
        InRange info := by
  intro h
  obtain ⟨info, hinfo, hrange⟩ := h 4 0 0 2 .asc (by decide) (by decide) (by decide) (by decide)
    (by decide)
  have hthird : compute (.int 4) (.int 0) (.int 0) 2 .asc = .ok ⟨false, true, 2, 4, 3⟩ := by
    exact compute_int (by decide) 0 (by decide) (by decide) (by decide) .asc
  rw [hthird] at hinfo
  obtain rfl := Except.ok.inj hinfo
  exact absurd hrange.2 (by decide)

/-! ## Pages of documents -/

/-- A page holds the document at a place in the order of a query, where places count from 0 and
pages from 1. -/
def Holds (size place page : Int) : Prop :=
  1 ≤ page ∧ (page - 1) * size ≤ place ∧ place < page * size

section

variable {total cursored size : Int} (hSize : 0 < size)

include hSize

/-- The number of pages is the least that has room for all documents. -/
theorem isLeast_pagesFor (hTotal : 0 ≤ total) :
    IsLeast {pages : Int | 0 ≤ pages ∧ total ≤ pages * size} (pagesFor total size) := by
  constructor
  · exact ⟨(pagesFor_le hSize hTotal).1, (pagesFor_le_iff hSize).mp le_rfl⟩
  · rintro pages ⟨-, hroom⟩
    exact (pagesFor_le_iff hSize).mpr hroom

/-- Every place is on one page: the one after the pages that end before it. -/
theorem holds_iff {place page : Int} (hPlace : 0 ≤ place) :
    Holds size place page ↔ page = place / size + 1 := by
  have hstart : page - 1 ≤ place / size ↔ (page - 1) * size ≤ place := Int.le_ediv_iff_mul_le hSize
  have hend : place / size < page ↔ place < page * size := Int.ediv_lt_iff_lt_mul hSize
  have hbefore : 0 ≤ place / size := Int.ediv_nonneg hPlace hSize.le
  rw [Holds, ← hstart, ← hend]
  omega

/-- **What page metadata says**, below `2 ^ 52` documents. It counts the least number of pages
that have room for all documents. Going forward, the page is the only one that holds the place
of the first unread document; going backward, it has the number of that page from the end. There
is a page before it if something is consumed, and one after it if there are unread documents that
it does not show. The doubles that all three page numbers pass through change none of them. -/
theorem pageNumbers_of_compute (hNonneg : 0 ≤ cursored) (hCursored : cursored ≤ total)
    (hTotal : total < 2 ^ 52) (current : Int) (order : SortOrder) :
    ∃ info page, compute (.int total) (.int cursored) (.int current) size order = .ok info ∧
      IsLeast {pages : Int | 0 ≤ pages ∧ total ≤ pages * size} info.totalPage ∧
      (∀ p, Holds size (total - cursored) p ↔ p = page) ∧
      (info.currentPage = match order with
        | .asc => page
        | .desc => info.totalPage + 1 - page) ∧
      (info.hasPreviousPage = true ↔ cursored < total) ∧
      (info.hasNextPage = true ↔ current < cursored) ∧ info.totalResults = total ∧
      ∀ n ∈ [info.totalPage, page, info.currentPage], (Number.int n).roundHalfUp = .ok n := by
  have hpages := pagesFor_le hSize (show 0 ≤ total by omega)
  have hbefore : 0 ≤ (total - cursored) / size := Int.ediv_nonneg (by omega) hSize.le
  have hbehind : (total - cursored) / size ≤ total - cursored := Int.ediv_le_self _ (by omega)
  refine ⟨pageInfo total cursored current size order, (total - cursored) / size + 1,
    compute_int hSize current hCursored hNonneg hTotal order, isLeast_pagesFor hSize (by omega),
    ?_, ?_, decide_eq_true_iff, decide_eq_true_iff, rfl, ?_⟩
  · -- the first unread document comes after the ones that are consumed
    intro p
    exact holds_iff hSize (by omega)
  · cases order with
    | asc => rfl
    | desc =>
      dsimp only [pageInfo]
      omega
  · -- page numbers do not exceed the number of documents by more than one
    intro n hn
    apply Number.roundHalfUp_int
    cases order <;> simp [pageInfo] at hn <;> omega

end

/-- Of the greatest number of documents that is covered, three on a page, going backward all but one
are consumed: that one is on page 1. -/
theorem pageNumbers_of_compute_largest :
    (0 : Int) < 3 ∧ (0 : Int) ≤ 1 ∧ (1 : Int) ≤ 4503599627370495 ∧
    (4503599627370495 : Int) < 2 ^ 52 ∧
    ∃ info, compute (.int 4503599627370495) (.int 1) (.int 1) 3 .desc = .ok info ∧
      info.totalPage = 1501199875790165 ∧ info.currentPage = 1 ∧
      info.hasPreviousPage = true ∧ info.hasNextPage = false ∧
      Holds 3 4503599627370494 1501199875790165 := by
  obtain ⟨info, page, hinfo, hpages, hholds, hnumber, hprevious, hnext, -, -⟩ :=
    @pageNumbers_of_compute 4503599627370495 1 3 (by decide) (by decide) (by decide) (by decide) 1
      .desc
  have htotal : info.totalPage = 1501199875790165 := by
    have hroom := hpages.1.2
    have hleast : info.totalPage ≤ 1501199875790165 := hpages.2 ⟨by decide, by decide⟩
    omega
  have hlast : Holds 3 4503599627370494 1501199875790165 := ⟨by decide, by decide, by decide⟩
  have hpage : 1501199875790165 = page := (hholds 1501199875790165).mp hlast
  refine ⟨by decide, by decide, by decide, by decide, info, hinfo, htotal, ?_, ?_, ?_, hlast⟩
  · rw [hnumber, htotal, ← hpage]
    rfl
  · exact hprevious.mpr (by decide)
  · rw [Bool.eq_false_iff, Ne, hnext]
    decide

end Keyset.Metrics
