import Keyset.Proofs.Walk.Basic
import Keyset.Proofs.Walk.Cut

/-!
# Keyset — what a walk returns

A walk over documents with dates ends, returns documents in the order of the query and
none twice. It need not return all: the next page starts strictly after the last date, so
documents that share the date of the end of a page and did not fit on it are skipped.
`walk_complete` says that these are the only ones.

Documents are told apart by their positions in the order of the query. A walk returns
them as `Cut` cuts the list of positioned documents.

* `Query.entries` — the documents after a bound, with their positions.
* `Query.PagesByDate.exists_cut_of_walk`, `exists_walk_of_cut` — walks and cut lists.
* `Query.Covers` — what the pages of a walk hold.
* `Query.PagesByDate.walk_complete` — the walk from the start exists and covers.
-/

namespace Keyset.Query

variable {q : Query}

/-! ## Documents with positions -/

/-- The documents after a bound, each with its position in the order of the query. -/
def entries (q : Query) (bound : Option DateTime) : List (Value × Nat) :=
  q.results.zipIdx.filter fun e => q.isAfter bound e.1

/-- Whether a document comes no later than another in the order of the query. -/
def notAfter (q : Query) (d e : Value × Nat) : Bool :=
  q.store.order.notAfter q.order (valueAt (.str q.field) d.1) (valueAt (.str q.field) e.1)

theorem entries_none : q.entries none = q.results.zipIdx :=
  List.filter_eq_self.mpr fun _ _ => rfl

/-- Without their positions these are the documents after the bound. -/
theorem map_fst_entries (bound : Option DateTime) :
    (q.entries bound).map Prod.fst = q.remaining bound := by
  have hfilter : q.entries bound = q.results.zipIdx.filter (q.isAfter bound ∘ Prod.fst) := rfl
  rw [hfilter, ← List.filter_map, List.zipIdx_map_fst, remaining]

theorem length_entries (bound : Option DateTime) :
    (q.entries bound).length = (q.remaining bound).length := by
  rw [← map_fst_entries, List.length_map]

theorem map_fst_take_entries (bound : Option DateTime) :
    ((q.entries bound).take q.limit.toNat).map Prod.fst = q.nodes bound := by
  rw [List.map_take, map_fst_entries, nodes]

theorem notAfter_refl (e : Value × Nat) : q.notAfter e e = true :=
  q.store.order.notAfter_refl q.order _

/-- Documents come in the order of the query. -/
theorem pairwise_notAfter (bound : Option DateTime) :
    (q.entries bound).Pairwise fun d e => q.notAfter d e = true := by
  have hsorted : (q.results.zipIdx.map Prod.fst).Pairwise fun d e =>
      q.store.order.notAfter q.order (valueAt (.str q.field) d) (valueAt (.str q.field) e) =
        true := by
    rw [List.zipIdx_map_fst]
    exact q.store.pairwise_sorted q.expression (.str q.field) q.order
  exact (List.pairwise_map.mp hsorted).sublist List.filter_sublist

/-- Positions increase. -/
theorem pairwise_position (bound : Option DateTime) :
    (q.entries bound).Pairwise fun d e => d.2 < e.2 := by
  have hrange : (q.results.zipIdx.map Prod.snd).Pairwise (· < ·) := by
    rw [List.zipIdx_map_snd]
    exact List.pairwise_lt_range'
  exact (List.pairwise_map.mp hrange).sublist List.filter_sublist

/-- What stands before a document in the order of the query comes no later. -/
theorem notAfter_of_position_lt {d e : Value × Nat} (hd : d ∈ q.results.zipIdx)
    (he : e ∈ q.results.zipIdx) (hlt : d.2 < e.2) : q.notAfter d e = true := by
  obtain ⟨hdLength, hdValue⟩ := List.getElem?_eq_some_iff.mp (List.mem_zipIdx_iff_getElem?.mp hd)
  obtain ⟨heLength, heValue⟩ := List.getElem?_eq_some_iff.mp (List.mem_zipIdx_iff_getElem?.mp he)
  have hsorted := List.pairwise_iff_getElem.mp
    (q.store.pairwise_sorted q.expression (.str q.field) q.order) d.2 e.2 hdLength heLength hlt
  rw [notAfter, ← hdValue, ← heValue]
  exact hsorted

namespace PagesByDate

variable (h : q.PagesByDate) {bound : Option DateTime}

include h

/-- A page with a next page ends at a document, and what follows are the documents
strictly after that one. -/
theorem exists_entries_next (hLong : q.limit.toNat < (q.entries bound).length) :
    ∃ e t, ((q.entries bound).take q.limit.toNat).getLast? = some e ∧
      q.lastDate bound = some t ∧ q.IsBound (some t) ∧
      q.entries (some t) = (q.entries bound).filter fun d => !q.notAfter d e := by
  rw [length_entries] at hLong
  obtain ⟨d, t, hlast, hdate, -, hBound, hafter⟩ := h.exists_next hLong
  rw [← map_fst_take_entries, List.getLast?_map, Option.map_eq_some_iff] at hlast
  obtain ⟨e, he, rfl⟩ := hlast
  refine ⟨e, t, he, hdate, hBound, ?_⟩
  rw [entries, entries, List.filter_filter]
  exact List.filter_congr fun d _ => hafter d.1

/-! ## Walks cut the documents -/

/-- The pages of a walk are a cut of the documents that it starts with. -/
theorem exists_cut_of_walk {cursor : Option String} {pages : List Page}
    (hWalk : q.Walk cursor pages) (hCursor : cursor = bound.map q.codec.cursorOf)
    (hBound : q.IsBound bound) :
    ∃ blocks, Cut q.notAfter q.limit.toNat (q.entries bound) blocks ∧
      pages.map (fun p => p.edges.map (·.node)) = blocks.map (·.map Prod.fst) := by
  -- induction on the walk; the bound of a page is where the page before it ended
  induction hWalk generalizing bound with
  | last hFetch hNext =>
    obtain ⟨info, hpage, hnext⟩ := h.exists_page hBound
    obtain rfl := Except.ok.inj (hFetch.symm.trans (hCursor ▸ hpage))
    have hShort : (q.entries bound).length ≤ q.limit.toNat := by
      have hfalse : info.hasNextPage = false := hNext
      rw [hnext, decide_eq_false_iff_not, ← length_entries] at hfalse
      omega
    refine ⟨[q.entries bound], .last hShort, ?_⟩
    rw [List.map_singleton, List.map_singleton, nodes_page, ← map_fst_take_entries,
      List.take_of_length_le hShort]
  | next hFetch hNext _ ih =>
    obtain ⟨info, hpage, hnext⟩ := h.exists_page hBound
    obtain rfl := Except.ok.inj (hFetch.symm.trans (hCursor ▸ hpage))
    have hLong : q.limit.toNat < (q.entries bound).length := by
      have htrue : info.hasNextPage = true := hNext
      rwa [hnext, decide_eq_true_eq, ← length_entries] at htrue
    obtain ⟨e, t, he, hdate, hBound', hentries⟩ := h.exists_entries_next hLong
    obtain ⟨blocks, hblocks, hnodes⟩ := ih (by rw [endCursor_page, hdate]) hBound'
    rw [hentries] at hblocks
    refine ⟨_ :: blocks, .next hLong he hblocks, ?_⟩
    rw [List.map_cons, List.map_cons, nodes_page, map_fst_take_entries, hnodes]

/-- Every cut of the documents after a bound is walked. -/
theorem exists_walk_of_cut {blocks : List (List (Value × Nat))}
    (hCut : Cut q.notAfter q.limit.toNat (q.entries bound) blocks) (hBound : q.IsBound bound) :
    ∃ pages, q.Walk (bound.map q.codec.cursorOf) pages := by
  generalize hxs : q.entries bound = xs at hCut
  -- induction on the cut, which tells for each page whether it is the last
  induction hCut generalizing bound with
  | last hShort =>
    subst hxs
    obtain ⟨info, hpage, hnext⟩ := h.exists_page hBound
    refine ⟨_, .last hpage ?_⟩
    rw [length_entries] at hShort
    rw [page, Page.ofEdges, hnext]
    exact decide_eq_false (by omega)
  | next hLong hEnd _ ih =>
    subst hxs
    obtain ⟨e, t, he, hdate, hBound', hentries⟩ := h.exists_entries_next hLong
    obtain rfl := Option.some.inj (he.symm.trans hEnd)
    obtain ⟨pages, hpages⟩ := ih hBound' hentries
    obtain ⟨info, hpage, hnext⟩ := h.exists_page hBound
    refine ⟨q.page bound info :: pages, .next hpage ?_ ?_⟩
    · rw [length_entries] at hLong
      rw [page, Page.ofEdges, hnext]
      exact decide_eq_true hLong
    · rw [endCursor_page, hdate]
      exact hpages

/-! ## Ties -/

/-- Two dates that come no later than each other are the same. -/
theorem valueAt_eq_of_notAfter {d e : Value} (hd : d ∈ q.results) (he : e ∈ q.results)
    (hde : q.store.order.notAfter q.order (valueAt (.str q.field) d) (valueAt (.str q.field) e) =
      true)
    (hed : q.store.order.notAfter q.order (valueAt (.str q.field) e) (valueAt (.str q.field) d) =
      true) :
    valueAt (.str q.field) d = valueAt (.str q.field) e := by
  obtain ⟨t, ht, -⟩ := h.exists_holdsDate hd
  obtain ⟨u, hu, -⟩ := h.exists_holdsDate he
  rw [ht.valueAt_eq h.undotted, hu.valueAt_eq h.undotted] at hde hed ⊢
  rw [DateTime.eq_of_epochMicros_eq ht.naive hu.naive
    (q.store.order.epochMicros_eq_of_notAfter hde hed)]

end PagesByDate

/-! ## Complete walks -/

/-- What the pages of a walk hold: the documents of the query with their positions. -/
structure Covers (q : Query) (pages : List Page) (blocks : List (List (Value × Nat))) : Prop where
  /-- The blocks are the documents of the pages, with their positions. -/
  nodes_eq : pages.map (fun p => p.edges.map (·.node)) = blocks.map (·.map Prod.fst)
  /-- Only results are returned, in their order. -/
  sublist : blocks.flatten.Sublist q.results.zipIdx
  /-- No document is returned twice. -/
  nodup : blocks.flatten.Nodup
  /-- The pages together are in the order of the query. -/
  sorted : blocks.flatten.Pairwise fun d e => q.notAfter d e = true
  /-- A result is missing if and only if it is behind the end of a page and holds the same
  date as the document there. -/
  missing_iff : ∀ e ∈ q.results.zipIdx, e ∉ blocks.flatten ↔
    ∃ block ∈ blocks, ∃ last, block.getLast? = some last ∧ last.2 < e.2 ∧
      valueAt (.str q.field) last.1 = valueAt (.str q.field) e.1

/-- The walk that starts without a cursor ends. -/
theorem PagesByDate.exists_walk (h : q.PagesByDate) : ∃ pages, q.Walk none pages := by
  have hSize : 0 < q.limit.toNat := by
    have := h.limit_pos
    omega
  obtain ⟨cut, hcut⟩ := exists_cut notAfter_refl hSize (q.entries none)
  exact h.exists_walk_of_cut hcut isBound_none

/-- **Walks are complete up to ties.** The walk that starts without a cursor ends after
finitely many pages. It returns results in the order of the query and none twice, and
misses exactly those that share the date of the end of a page and stand behind it. -/
theorem PagesByDate.walk_complete (h : q.PagesByDate) :
    ∃ pages, q.Walk none pages ∧ (∀ pages', q.Walk none pages' → pages' = pages) ∧
      ∃ blocks, q.Covers pages blocks := by
  obtain ⟨pages, hpages⟩ := h.exists_walk
  obtain ⟨blocks, hblocks, hnodes⟩ := h.exists_cut_of_walk hpages rfl isBound_none
  have hsorted := pairwise_notAfter (q := q) none
  have hposition := pairwise_position (q := q) none
  rw [entries_none] at hblocks hsorted hposition
  have hsublist := hblocks.flatten_sublist hsorted notAfter_refl
  refine ⟨pages, hpages, fun pages' hpages' => hpages'.unique hpages, blocks, hnodes, hsublist,
    (hposition.sublist hsublist).imp fun hlt heq => ?_, hsorted.sublist hsublist, fun e he => ?_⟩
  · subst heq
    omega
  rw [hblocks.notMem_flatten_iff hsorted notAfter_refl hposition he]
  -- a tie with the end of a page is an equal date, as the document stands behind it
  refine exists_congr fun block => and_congr_right fun hblock => exists_congr fun last =>
    and_congr_right fun hlast => and_congr_right fun hlt => ?_
  have hmem : last ∈ q.results.zipIdx :=
    hsublist.subset (List.mem_flatten_of_mem hblock (List.mem_of_getLast? hlast))
  constructor
  · intro hle
    exact h.valueAt_eq_of_notAfter (List.fst_mem_of_mem_zipIdx hmem)
      (List.fst_mem_of_mem_zipIdx he) (notAfter_of_position_lt hmem he hlt) hle
  · intro heq
    rw [notAfter, heq]
    exact q.store.order.notAfter_refl q.order _

/-- Two documents of one day and one of the next, in pages of one document. -/
def tiedQuery : Query :=
  overDates [⟨2024, 1, 1, by decide⟩, ⟨2024, 1, 1, by decide⟩, ⟨2024, 1, 2, by decide⟩] .asc 1

theorem walk_complete_tiedQuery : tiedQuery.PagesByDate ∧
    ∃ pages, tiedQuery.Walk none pages ∧ (∀ pages', tiedQuery.Walk none pages' → pages' = pages) ∧
      ∃ blocks, tiedQuery.Covers pages blocks := by
  have hpages : tiedQuery.PagesByDate := pagesByDate_overDates (by decide) .asc (by decide)
  exact ⟨hpages, hpages.walk_complete⟩

end Keyset.Query
