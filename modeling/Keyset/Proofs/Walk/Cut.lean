import Mathlib.Data.List.Basic

/-!
# Keyset — cutting a sorted list into pages

Keyset pagination continues behind a value, not behind a position: the next page takes
from what is strictly after the last element of the page before. On a list without ties
that is the rest of the list; an element that ties with the end of a page falls out.

* `Cut` — a list cut into pages in this way.
* `filter_after` — what is after the end of a page lies behind the page.
* `Cut.flatten_sublist` — the pages together keep the order of the list.
* `Cut.notMem_flatten_iff` — which elements fall out.
* `exists_cut` — every sorted list is cut into finitely many pages.
-/

namespace Keyset

variable {α : Type} {le : α → α → Bool} {n : Nat}

/-- A list cut into pages of `n` elements, each page starting strictly after the last
element of the one before. The last page holds all that is left. -/
inductive Cut (le : α → α → Bool) (n : Nat) : List α → List (List α) → Prop
  | last {xs : List α} (hShort : xs.length ≤ n) : Cut le n xs [xs]
  | next {xs : List α} {end_ : α} {pages : List (List α)} (hLong : n < xs.length)
      (hEnd : (xs.take n).getLast? = some end_)
      (hRest : Cut le n (xs.filter fun x => !le x end_) pages) : Cut le n xs (xs.take n :: pages)

/-! ## The end of a page -/

/-- What is not on a page is behind it. -/
theorem mem_drop_of_notMem_take {xs : List α} {x : α} (hx : x ∈ xs) (h : x ∉ xs.take n) :
    x ∈ xs.drop n := by
  rw [← List.take_append_drop n xs, List.mem_append] at hx
  exact hx.resolve_left h

section Page

variable {xs : List α} {end_ : α} (hEnd : (xs.take n).getLast? = some end_)

include hEnd

/-- The last element of a page is on it. -/
theorem mem_of_getLast?_take : end_ ∈ xs.take n := List.mem_of_getLast? hEnd

/-- In a list that is sorted by a relation, a page is before its end, or ends there. -/
theorem rel_end_of_mem_take {R : α → α → Prop} (hSorted : xs.Pairwise R) {x : α}
    (hx : x ∈ xs.take n) : R x end_ ∨ x = end_ := by
  obtain ⟨front, hfront⟩ := List.getLast?_eq_some_iff.mp hEnd
  have hpage : (front ++ [end_]).Pairwise R := hfront ▸ hSorted.sublist (List.take_sublist n xs)
  rw [hfront, List.mem_append, List.mem_singleton] at hx
  rcases hx with hx | hx
  · exact Or.inl ((List.pairwise_append.mp hpage).2.2 x hx end_ (List.mem_singleton_self _))
  · exact Or.inr hx

/-- What is strictly after the end of a page lies behind the page. -/
theorem filter_after (hSorted : xs.Pairwise fun x y => le x y = true)
    (hRefl : ∀ x, le x x = true) :
    (xs.filter fun x => !le x end_) = (xs.drop n).filter fun x => !le x end_ := by
  -- nothing on the page is after its end
  have hpage : (xs.take n).filter (fun x => !le x end_) = [] := by
    rw [List.filter_eq_nil_iff]
    intro x hx
    rcases rel_end_of_mem_take hEnd hSorted hx with h | rfl
    · simp [h]
    · simp [hRefl]
  conv_lhs => rw [← List.take_append_drop n xs, List.filter_append, hpage, List.nil_append]

/-- Without ties it is the whole rest of the list. -/
theorem filter_after_of_strict (hStrict : xs.Pairwise fun x y => le y x = false)
    (hSorted : xs.Pairwise fun x y => le x y = true) (hRefl : ∀ x, le x x = true) :
    (xs.filter fun x => !le x end_) = xs.drop n := by
  rw [filter_after hEnd hSorted hRefl, List.filter_eq_self]
  intro x hx
  rw [← List.take_append_drop n xs, List.pairwise_append] at hStrict
  rw [hStrict.2.2 end_ (mem_of_getLast?_take hEnd) x hx, Bool.not_false]

/-- The elements behind a page are those with a position behind its end. -/
theorem mem_drop_iff {position : α → Nat}
    (hPosition : xs.Pairwise fun x y => position x < position y) {x : α} (hx : x ∈ xs) :
    x ∈ xs.drop n ↔ position end_ < position x := by
  constructor
  · intro hdrop
    rw [← List.take_append_drop n xs, List.pairwise_append] at hPosition
    exact hPosition.2.2 end_ (mem_of_getLast?_take hEnd) x hdrop
  · intro hlt
    refine mem_drop_of_notMem_take hx fun hpage => ?_
    rcases rel_end_of_mem_take hEnd hPosition hpage with h | rfl <;> omega

/-- An element is neither on a page nor among some that are strictly after its end: either it
ties with the end, or it is after the end and not one of those. -/
theorem notMem_take_append_iff {position : α → Nat}
    (hPosition : xs.Pairwise fun x y => position x < position y)
    (hAfter : xs.filter (fun x => !le x end_) ⊆ xs.drop n) {rest : List α}
    (hRest : rest ⊆ xs.filter fun x => !le x end_) {x : α} (hx : x ∈ xs) :
    x ∉ xs.take n ++ rest ↔ (position end_ < position x ∧ le x end_ = true) ∨
      (x ∈ xs.filter fun x => !le x end_) ∧ x ∉ rest := by
  -- no page reaches beyond its end
  have hbehind : position end_ < position x → x ∉ xs.take n := by
    intro hlt hpage
    rcases rel_end_of_mem_take hEnd hPosition hpage with h | rfl <;> omega
  rw [List.mem_append, not_or]
  constructor
  · rintro ⟨hpage, hrest⟩
    have hdrop : x ∈ xs.drop n := mem_drop_of_notMem_take hx hpage
    by_cases hle : le x end_ = true
    · exact Or.inl ⟨(mem_drop_iff hEnd hPosition hx).mp hdrop, hle⟩
    · exact Or.inr ⟨List.mem_filter.mpr ⟨hx, by simpa using hle⟩, hrest⟩
  · rintro (⟨hlt, hle⟩ | ⟨hfilter, hrest⟩)
    · -- what ties with the end is not strictly after it
      refine ⟨hbehind hlt, fun hrest => ?_⟩
      have := (List.mem_filter.mp (hRest hrest)).2
      rw [hle] at this
      cases this
    · exact ⟨hbehind ((mem_drop_iff hEnd hPosition hx).mp (hAfter hfilter)), hrest⟩

end Page

/-! ## What the pages hold -/

namespace Cut

variable {xs : List α} {pages : List (List α)}

/-- The pages hold elements of the list, in their order and each once. -/
theorem flatten_sublist (h : Cut le n xs pages) (hSorted : xs.Pairwise fun x y => le x y = true)
    (hRefl : ∀ x, le x x = true) : pages.flatten.Sublist xs := by
  induction h with
  | last => rw [List.flatten_singleton]
  | @next xs end_ pages hLong hEnd hRest ih =>
    -- the other pages hold what is behind the first one
    have hrest := ih (hSorted.sublist List.filter_sublist)
    rw [filter_after hEnd hSorted hRefl] at hrest
    rw [List.flatten_cons]
    conv_rhs => rw [← List.take_append_drop n xs]
    exact (List.Sublist.refl _).append (hrest.trans List.filter_sublist)

/-- **What falls out of a cut list** are the elements behind the end of a page that are
not strictly after it. Positions tell which of two elements is behind the other. -/
theorem notMem_flatten_iff (h : Cut le n xs pages)
    (hSorted : xs.Pairwise fun x y => le x y = true) (hRefl : ∀ x, le x x = true)
    {position : α → Nat} (hPosition : xs.Pairwise fun x y => position x < position y) {x : α}
    (hx : x ∈ xs) :
    x ∉ pages.flatten ↔ ∃ page ∈ pages, ∃ end_, page.getLast? = some end_ ∧
      position end_ < position x ∧ le x end_ = true := by
  -- induction on the pages: an element ties with the end of the first page, or falls out of the
  -- list that the other pages are cut from
  induction h generalizing x with
  | @last xs hShort =>
    -- the last page ends at the end of the list, and nothing is behind that
    have hnone : ¬ ∃ end_, xs.getLast? = some end_ ∧ position end_ < position x ∧
        le x end_ = true := by
      rintro ⟨end_, hEnd, hlt, -⟩
      rw [← List.take_of_length_le hShort] at hEnd hx
      rcases rel_end_of_mem_take hEnd hPosition hx with h | rfl <;> omega
    simpa [hx] using hnone
  | @next xs end_ pages hLong hEnd hRest ih =>
    have hafter : xs.filter (fun x => !le x end_) ⊆ xs.drop n := by
      rw [filter_after hEnd hSorted hRefl]
      exact List.filter_subset_self _
    have hsub := (hRest.flatten_sublist (hSorted.sublist List.filter_sublist) hRefl).subset
    rw [List.flatten_cons, notMem_take_append_iff hEnd hPosition hafter hsub hx]
    simp only [List.mem_cons, or_and_right, exists_or, exists_eq_left, hEnd, Option.some.injEq,
      exists_eq_left']
    -- where the end of the first page does not tie, both sides speak of the other pages
    refine or_congr_right' fun hfirst => ?_
    by_cases hfilter : x ∈ xs.filter fun x => !le x end_
    · rw [← ih (hSorted.sublist List.filter_sublist) (hPosition.sublist List.filter_sublist) hfilter]
      exact and_iff_right hfilter
    · refine iff_of_false (fun h => hfilter h.1) ?_
      rintro ⟨page, hpage, e, he, hlt, -⟩
      -- the end of another page is behind the first page, and `x` is further behind
      have hrest : e ∈ pages.flatten := List.mem_flatten_of_mem hpage (List.mem_of_getLast? he)
      have hbehind := (mem_drop_iff hEnd hPosition
        (List.mem_of_mem_filter (hsub hrest))).mp (hafter (hsub hrest))
      refine hfirst ⟨by omega, ?_⟩
      by_contra hle
      exact hfilter (List.mem_filter.mpr ⟨hx, by simpa using hle⟩)

end Cut

/-- Every sorted list is cut into finitely many pages. -/
theorem exists_cut (hRefl : ∀ x, le x x = true) (hSize : 0 < n) (xs : List α) :
    ∃ pages, Cut le n xs pages := by
  -- the end of a page is not after itself, so what is left gets shorter
  induction hlength : xs.length using Nat.strongRecOn generalizing xs with
  | ind length ih =>
    rcases Nat.lt_or_ge n xs.length with hLong | hShort
    · have hne : xs.take n ≠ [] := by
        rw [Ne, List.take_eq_nil_iff]
        rintro (rfl | rfl)
        · omega
        · rw [List.length_nil] at hLong
          omega
      have hEnd := List.getLast?_eq_getLast_of_ne_nil hne
      have hmem : (xs.take n).getLast hne ∈ xs := List.mem_of_mem_take (mem_of_getLast?_take hEnd)
      have hlt : (xs.filter fun x => !le x ((xs.take n).getLast hne)).length < xs.length := by
        refine Nat.lt_of_le_of_ne (List.length_filter_le _ _) fun h => ?_
        have := List.length_filter_eq_length_iff.mp h _ hmem
        rw [hRefl] at this
        cases this
      obtain ⟨pages, hpages⟩ := ih _ (hlength ▸ hlt) _ rfl
      exact ⟨_, .next hLong hEnd hpages⟩
    · exact ⟨_, .last hShort⟩

end Keyset
