import Keyset.Bytes.CodeLengths
import Mathlib

/-!
# Keyset — joining trees

The trees of an optimal code are joined in pairs until one is left. What matters for the
lengths of words is not which pairs are taken but that every node is joined once: undoing
the joins from the last to the first splits the root into exactly the leaves.

* `Forest.roots` — the roots in the heap; `settle_perm` — settling keeps them.
* `Forest.Valid` — the roots are different nodes.
* `Splits` — a list of nodes becomes another one by splitting nodes into pairs.
* `Forest.exists_joins` — joining is undone by splitting.
-/

namespace Keyset.CodeLengths

namespace Forest

/-! ## Heap -/

/-- The roots in the heap; its first place is unused. -/
def roots (f : Forest) : List Nat := f.heap.toList.tail

/-- A value that moves to an earlier place leaves room for another one in its own. -/
theorem set_set_perm {l : List Nat} {j k : Nat} (node : Nat) (hLt : k < j) (hLength : j < l.length) :
    ((l.set k (l[j]?.getD 0)).set j node).Perm (l.set k node) := by
  obtain ⟨x, hx⟩ : ∃ x, l[j]? = some x := ⟨_, List.getElem?_eq_getElem hLength⟩
  obtain ⟨y, hy⟩ : ∃ y, l[k]? = some y := ⟨_, List.getElem?_eq_getElem (by omega)⟩
  have hnode := (l.set k x).getD_set_perm_cons j node
  have hchild := l.getD_set_perm_cons k x
  have htarget := l.getD_set_perm_cons k node
  rw [List.getElem?_set_ne (by omega), hx, Option.getD_some] at hnode
  rw [hy, Option.getD_some] at hchild htarget
  rw [hx, Option.getD_some]
  -- with the two displaced values in front, both sides are the same list
  refine List.Perm.cons_inv (a := x) (List.Perm.cons_inv (a := y) ?_)
  calc (y :: x :: (l.set k x).set j node).Perm (y :: node :: l.set k x) := hnode.cons y
    List.Perm _ (node :: y :: l.set k x) := List.Perm.swap ..
    List.Perm _ (node :: x :: l) := hchild.cons node
    List.Perm _ (x :: node :: l) := List.Perm.swap ..
    List.Perm _ (x :: y :: l.set k node) := htarget.symm.cons x
    List.Perm _ (y :: x :: l.set k node) := List.Perm.swap ..

/-- Sinking a node puts it in its place and moves others to where it was looked for. -/
theorem sink_perm (f : Forest) (node : Nat) (fuel : Nat) {k : Nat} {heap : Array Nat}
    (hPos : 1 ≤ k) (hSize : k < heap.size) :
    (f.sink node fuel k heap).toList.Perm (heap.toList.set k node) ∧
      (f.sink node fuel k heap).toList[0]? = heap.toList[0]? := by
  have hfirst (heap : Array Nat) {k : Nat} (hPos : 1 ≤ k) (x : Nat) :
      (heap.setIfInBounds k x).toList[0]? = heap.toList[0]? := by
    rw [Array.toList_setIfInBounds, List.getElem?_set_ne (by omega)]
  have hstop (heap : Array Nat) {k : Nat} (hPos : 1 ≤ k) :
      (heap.setIfInBounds k node).toList.Perm (heap.toList.set k node) ∧
        (heap.setIfInBounds k node).toList[0]? = heap.toList[0]? := by
    refine ⟨?_, hfirst heap hPos node⟩
    rw [Array.toList_setIfInBounds]
  induction fuel generalizing k heap with
  | zero => exact hstop heap hPos
  | succ fuel ih =>
    rw [sink]
    dsimp only
    split
    · exact hstop heap hPos
    · next hchild =>
      -- whichever child comes first is a later place of the heap
      generalize hj : (if (decide (2 * k + 1 < heap.size) &&
        f.before (heap[2 * k + 1]?.getD 0) (heap[2 * k]?.getD 0)) = true then 2 * k + 1
        else 2 * k) = j
      have hplace : k < j ∧ j < heap.size := by
        rw [← hj]
        split
        · next h =>
          rw [Bool.and_eq_true, decide_eq_true_iff] at h
          omega
        · omega
      split
      · exact hstop heap hPos
      · have hsize : j < (heap.setIfInBounds k (heap[j]?.getD 0)).size := by
          rw [Array.size_setIfInBounds]
          exact hplace.2
        obtain ⟨hperm, hkept⟩ := ih (show 1 ≤ j by omega) hsize
        refine ⟨hperm.trans ?_, hkept.trans (hfirst heap hPos _)⟩
        -- the child and the node have changed places
        rw [Array.toList_setIfInBounds, ← Array.getElem?_toList]
        exact set_set_perm node hplace.1 (by rw [Array.length_toList]; exact hplace.2)

/-- **Settling keeps the roots.** -/
theorem settle_perm (f : Forest) {k : Nat} (hPos : 1 ≤ k) (hSize : k < f.heap.size) :
    (f.settle k).roots.Perm f.roots := by
  obtain ⟨hperm, hfirst⟩ := f.sink_perm (f.heap[k]?.getD 0) f.heap.size hPos hSize
  have hsame : f.heap.toList.set k (f.heap[k]?.getD 0) = f.heap.toList := by
    rw [Array.getElem?_eq_getElem hSize, Option.getD_some]
    exact List.set_getElem_self ..
  rw [hsame] at hperm
  change (f.sink (f.heap[k]?.getD 0) f.heap.size k f.heap).toList.tail.Perm f.heap.toList.tail
  -- the unused place stays in front
  cases hsunk : (f.sink (f.heap[k]?.getD 0) f.heap.size k f.heap).toList with
  | nil =>
    rw [hsunk] at hperm
    rw [hperm.nil_eq]
  | cons x xs =>
    rw [hsunk] at hperm hfirst
    cases hheap : f.heap.toList with
    | nil =>
      rw [hheap] at hperm
      exact absurd hperm.symm.nil_eq (by simp)
    | cons y ys =>
      rw [hheap] at hperm hfirst
      obtain rfl := Option.some.inj hfirst
      exact hperm.cons_inv

theorem size_settle (f : Forest) {k : Nat} (hPos : 1 ≤ k) (hSize : k < f.heap.size) :
    (f.settle k).heap.size = f.heap.size := by
  obtain ⟨hperm, -⟩ := f.sink_perm (f.heap[k]?.getD 0) f.heap.size hPos hSize
  have hlength := hperm.length_eq
  rwa [List.length_set, Array.length_toList, Array.length_toList] at hlength

/-! ## Joining -/

/-- The first root. -/
def first (f : Forest) : Nat := f.heap[1]?.getD 0

/-- The last root takes the place of the first one. -/
def popped (f : Forest) : Forest :=
  { f with heap := f.heap.pop.setIfInBounds 1 (f.heap[f.heap.size - 1]?.getD 0) }

/-- Take the first root out of the heap. -/
def removed (f : Forest) : Forest := f.popped.settle 1

/-- A parent of the first two roots takes their place. -/
def grafted (f : Forest) : Forest :=
  let n := f.first
  let g := f.removed
  let m := g.first
  let node := g.frequency.size
  let frequency := g.frequency[n]?.getD 0 + g.frequency[m]?.getD 0
  let height := max (g.height[n]?.getD 0) (g.height[m]?.getD 0) + 1
  { heap := g.heap.setIfInBounds 1 node
    frequency := g.frequency.push frequency
    height := g.height.push height
    parent := ((g.parent.push 0).setIfInBounds n node).setIfInBounds m node }

/-- Join the first two roots. -/
def joined (f : Forest) : Forest := f.grafted.settle 1

theorem join_succ (f : Forest) (fuel : Nat) (order : List Nat) (h : ¬ f.heap.size ≤ 2) :
    join (fuel + 1) f order = join fuel f.joined (f.removed.first :: f.first :: order) := by
  rw [join, if_neg h]
  rfl

variable {f : Forest}

/-- A heap of several roots, by its first one. -/
theorem exists_heap_eq (h : 2 < f.heap.size) :
    ∃ unused rest, f.heap.toList = unused :: f.first :: rest ∧ rest ≠ [] := by
  have hlength : 2 < f.heap.toList.length := by rwa [Array.length_toList]
  have hfirst : f.heap.toList[1]?.getD 0 = f.first := by rw [Array.getElem?_toList, first]
  match hheap : f.heap.toList, hlength, hfirst with
  | unused :: n :: m :: rest, _, hfirst =>
    obtain rfl : n = f.first := hfirst
    exact ⟨unused, m :: rest, rfl, List.cons_ne_nil _ _⟩

theorem popped_heap {unused : Nat} {rest : List Nat}
    (hHeap : f.heap.toList = unused :: f.first :: rest) (hRest : rest ≠ []) :
    f.popped.heap.toList = unused :: rest.getLast hRest :: rest.dropLast := by
  have hlast : f.heap[f.heap.size - 1]?.getD 0 = rest.getLast hRest := by
    rw [← Array.getElem?_toList, ← Array.length_toList, ← List.getLast?_eq_getElem?, hHeap,
      List.getLast?_cons_cons, List.getLast?_cons_of_ne_nil hRest,
      List.getLast?_eq_some_getLast hRest, Option.getD_some]
  rw [popped, hlast, Array.toList_setIfInBounds, Array.toList_pop, hHeap,
    List.dropLast_cons_of_ne_nil (List.cons_ne_nil _ _), List.dropLast_cons_of_ne_nil hRest]
  rfl

theorem size_popped (h : 2 < f.heap.size) : f.popped.heap.size + 1 = f.heap.size := by
  rw [popped, Array.size_setIfInBounds, Array.size_pop]
  omega

theorem size_removed (h : 2 < f.heap.size) : f.removed.heap.size + 1 = f.heap.size := by
  have hsize := size_popped h
  rw [removed, size_settle _ (Nat.le_refl 1) (by omega), hsize]

/-- Taking out the first root leaves the others. -/
theorem removed_perm (h : 2 < f.heap.size) : f.roots.Perm (f.first :: f.removed.roots) := by
  obtain ⟨unused, rest, hheap, hrest⟩ := exists_heap_eq h
  have hsize := size_popped h
  have hsettle := settle_perm f.popped (Nat.le_refl 1) (by omega)
  rw [roots, hheap]
  refine List.Perm.cons f.first (List.Perm.trans ?_ hsettle.symm)
  rw [roots, popped_heap hheap hrest]
  calc rest.Perm (rest.dropLast ++ [rest.getLast hrest]) := by rw [List.dropLast_append_getLast]
    List.Perm _ (rest.getLast hrest :: rest.dropLast) := List.perm_append_singleton ..

theorem size_joined (h : 2 < f.heap.size) : f.joined.heap.size + 1 = f.heap.size := by
  have hsize := size_removed h
  have hgrafted : f.grafted.heap.size = f.removed.heap.size := Array.size_setIfInBounds ..
  rw [joined, size_settle _ (Nat.le_refl 1) (by omega), hgrafted, hsize]

/-- Joining the first two roots puts their parent in the place of the second one. -/
theorem joined_perm (h : 2 < f.heap.size) : ∃ rest, f.removed.roots = f.removed.first :: rest ∧
    f.joined.roots.Perm (f.frequency.size :: rest) := by
  have hsize := size_removed h
  have hgrafted : f.grafted.heap.size = f.removed.heap.size := Array.size_setIfInBounds ..
  have hsettle := settle_perm f.grafted (Nat.le_refl 1) (by omega)
  have hlength : 1 < f.removed.heap.toList.length := by
    rw [Array.length_toList]
    omega
  have hfirst : f.removed.heap.toList[1]?.getD 0 = f.removed.first := by
    rw [Array.getElem?_toList, first]
  have hgraft : f.grafted.heap.toList = f.removed.heap.toList.set 1 f.frequency.size :=
    Array.toList_setIfInBounds ..
  match hheap : f.removed.heap.toList, hlength, hfirst with
  | unused :: n :: rest, _, hfirst =>
    obtain rfl : n = f.removed.first := hfirst
    rw [hheap] at hgraft
    refine ⟨rest, by rw [roots, hheap, List.tail_cons], hsettle.trans ?_⟩
    rw [roots, hgraft]
    rfl

/-- Joining names the parent of the two nodes that were joined, and no other. -/
theorem parent_joined (f : Forest) (i : Nat) (hi : i < f.parent.size) :
    f.joined.parent[i]? =
      if i = f.first ∨ i = f.removed.first then some f.frequency.size else f.parent[i]? := by
  change (((f.parent.push 0).setIfInBounds f.first f.frequency.size).setIfInBounds
    f.removed.first f.frequency.size)[i]? = _
  have hsize : i < (f.parent.push 0).size := by
    rw [Array.size_push]
    omega
  rw [Array.getElem?_setIfInBounds, Array.getElem?_setIfInBounds, Array.size_setIfInBounds,
    Array.getElem?_push, if_neg (show i ≠ f.parent.size by omega)]
  by_cases hm : f.removed.first = i
  · subst hm
    rw [if_pos rfl, if_pos hsize, if_pos (Or.inr rfl)]
  · rw [if_neg hm]
    by_cases hn : f.first = i
    · subst hn
      rw [if_pos rfl, if_pos hsize, if_pos (Or.inl rfl)]
    · rw [if_neg hn, if_neg (by rintro (h | h) <;> omega)]

theorem size_parent_joined (f : Forest) : f.joined.parent.size = f.parent.size + 1 := by
  change (((f.parent.push 0).setIfInBounds f.first f.frequency.size).setIfInBounds
    f.removed.first f.frequency.size).size = _
  rw [Array.size_setIfInBounds, Array.size_setIfInBounds, Array.size_push]

theorem size_frequency_joined (f : Forest) : f.joined.frequency.size = f.frequency.size + 1 :=
  Array.size_push ..

/-! ## Valid forests -/

/-- There is a root, and the roots are different nodes of the forest. -/
structure Valid (f : Forest) : Prop where
  size : 2 ≤ f.heap.size
  nodup : f.roots.Nodup
  lt : ∀ n ∈ f.roots, n < f.frequency.size
  parent : f.parent.size = f.frequency.size

/-- What is joined: two roots make way for a new node. -/
theorem Valid.joined_eq (hValid : f.Valid) (h : 2 < f.heap.size) : ∃ rest,
    f.roots.Perm (f.removed.first :: f.first :: rest) ∧
    f.joined.roots.Perm (f.frequency.size :: rest) ∧ f.joined.Valid := by
  obtain ⟨rest, hremoved, hjoined⟩ := joined_perm h
  have hroots : f.roots.Perm (f.removed.first :: f.first :: rest) := by
    have hperm := removed_perm h
    rw [hremoved] at hperm
    exact hperm.trans (List.Perm.swap ..)
  -- what is left of the roots once two are gone
  have hrest : rest.Nodup ∧ ∀ n ∈ rest, n < f.frequency.size := by
    have hnodup := hroots.nodup_iff.mp hValid.nodup
    refine ⟨(List.nodup_cons.mp (List.nodup_cons.mp hnodup).2).2, fun n hn => hValid.lt n ?_⟩
    exact hroots.mem_iff.mpr (List.mem_cons_of_mem _ (List.mem_cons_of_mem _ hn))
  refine ⟨rest, hroots, hjoined, ?size, ?nodup, ?lt, ?parent⟩
  case size =>
    have := size_joined h
    omega
  case nodup =>
    -- the new node is none of the others
    refine hjoined.nodup_iff.mpr (List.nodup_cons.mpr ⟨fun hmem => ?_, hrest.1⟩)
    exact absurd (hrest.2 _ hmem) (Nat.lt_irrefl _)
  case lt =>
    intro n hn
    rw [size_frequency_joined]
    rcases List.mem_cons.mp (hjoined.mem_iff.mp hn) with rfl | hn
    · omega
    · have := hrest.2 n hn
      omega
  case parent => rw [size_parent_joined, size_frequency_joined, hValid.parent]

end Forest

/-! ## Splitting -/

/-- Nodes become others by splitting: one of them gives way to two children. The pairs list
the children as they appear. -/
inductive Splits (parent : Nat → Nat) : List Nat → List Nat → List Nat → Prop
  | done {nodes leaves : List Nat} (hPerm : nodes.Perm leaves) : Splits parent nodes [] leaves
  | split {nodes rest pairs leaves : List Nat} {p m n : Nat} (hNodes : nodes.Perm (p :: rest))
      (hm : parent m = p ∧ m ≠ p) (hn : parent n = p ∧ n ≠ p) (hNodup : (m :: n :: rest).Nodup)
      (hRest : Splits parent (m :: n :: rest) pairs leaves) :
      Splits parent nodes (m :: n :: pairs) leaves

/-- One more node is split at the end. -/
theorem Splits.snoc {parent : Nat → Nat} {nodes pairs leaves rest : List Nat} {p m n : Nat}
    (h : Splits parent nodes pairs leaves) (hLeaves : leaves.Perm (p :: rest))
    (hm : parent m = p ∧ m ≠ p) (hn : parent n = p ∧ n ≠ p) (hNodup : (m :: n :: rest).Nodup) :
    Splits parent nodes (pairs ++ [m, n]) (m :: n :: rest) := by
  induction h with
  | done hPerm => exact .split (hPerm.trans hLeaves) hm hn hNodup (.done (.refl _))
  | split hNodes hm' hn' hNodup' _ ih => exact .split hNodes hm' hn' hNodup' (ih hLeaves)

/-- The leaves may be listed in any order. -/
theorem Splits.congr {parent : Nat → Nat} {nodes pairs leaves leaves' : List Nat}
    (h : Splits parent nodes pairs leaves) (hPerm : leaves.Perm leaves') :
    Splits parent nodes pairs leaves' := by
  induction h with
  | done hDone => exact .done (hDone.trans hPerm)
  | split hNodes hm hn hNodup _ ih => exact .split hNodes hm hn hNodup (ih hPerm)

namespace Forest

/-- What joining all roots of a forest leads to. Splitting the last root gives the roots back;
nodes that were no roots keep their parents; the last root is a new node, unless there was
one root only; and of the nodes of the forest, the list has the roots alone. -/
structure Joins (f g : Forest) (root : Nat) (pairs : List Nat) : Prop where
  splits : Splits (fun n => g.parent[n]?.getD 0) [root] pairs f.roots
  parent : ∀ i < f.parent.size, i ∉ f.roots → g.parent[i]? = f.parent[i]?
  lt : ∀ n ∈ root :: pairs, n < g.frequency.size
  isNew : if 2 < f.heap.size then f.frequency.size ≤ root else f.roots = [root]
  le : f.frequency.size ≤ g.frequency.size
  filter : ∀ size ≤ f.frequency.size,
    ((root :: pairs).filter (· < size)).Perm (f.roots.filter (· < size))

/-- A single root is not joined. -/
theorem Valid.joins_self {f : Forest} (hValid : f.Valid) (hOne : f.heap.size ≤ 2) :
    f.Joins f f.first [] := by
  have hsize : f.heap.toList.length = 2 := by
    have := hValid.size
    rw [Array.length_toList]
    omega
  have hroots : f.roots = [f.first] := by
    match hheap : f.heap.toList, hsize with
    | [unused, n], _ => rw [roots, first, hheap, ← Array.getElem?_toList, hheap]; rfl
  have hlt := hValid.lt
  rw [hroots] at hlt
  refine ⟨?_, fun _ _ _ => rfl, hlt, ?_, le_rfl, fun _ _ => ?_⟩
  · rw [hroots]
    exact .done (.refl _)
  · rwa [if_neg (by omega)]
  · rw [hroots]

section Joined

variable {f g : Forest} {root : Nat} {pairs rest : List Nat}

/-- The last root is the node that was joined first, or a newer one. -/
theorem Joins.le_root (h : f.joined.Joins g root pairs)
    (hJoined : f.joined.roots.Perm (f.frequency.size :: rest)) : f.frequency.size ≤ root := by
  have hroot := h.isNew
  split at hroot
  · rw [size_frequency_joined] at hroot
    omega
  · rw [hroot] at hJoined
    have := List.mem_singleton.mp (hJoined.mem_iff.mpr (List.mem_cons_self ..))
    omega

/-- Nodes that are no roots any more once two roots are joined keep the parents that they have
then. -/
theorem Joins.parent_eq (h : f.joined.Joins g root pairs) (hValid : f.Valid)
    (hJoined : f.joined.roots.Perm (f.frequency.size :: rest)) {n : Nat}
    (hn : n < f.frequency.size) (hRest : n ∉ rest) : g.parent[n]? = f.joined.parent[n]? := by
  refine h.parent n (by rw [size_parent_joined, hValid.parent]; omega) fun hroot => ?_
  rcases List.mem_cons.mp (hJoined.mem_iff.mp hroot) with rfl | hroot
  · exact absurd hn (Nat.lt_irrefl _)
  · exact hRest hroot

/-- The two roots that are joined become the children of the new node. -/
theorem Joins.parent_child (h : f.joined.Joins g root pairs) (hValid : f.Valid)
    (hJoined : f.joined.roots.Perm (f.frequency.size :: rest)) {n : Nat}
    (hChild : n = f.first ∨ n = f.removed.first) (hn : n < f.frequency.size) (hRest : n ∉ rest) :
    g.parent[n]?.getD 0 = f.frequency.size ∧ n ≠ f.frequency.size := by
  refine ⟨?_, by omega⟩
  rw [h.parent_eq hValid hJoined hn hRest, parent_joined f n (by rw [hValid.parent]; exact hn),
    if_pos hChild, Option.getD_some]

/-- Two roots `m` and `n` give way to a node `k`. Whatever has the roots that are then left, below a
bound that `k` is not below, has the roots from before once `m` and `n` are added. -/
theorem filter_append_perm {k size m n : Nat} {roots joined nodes : List Nat}
    (hRoots : roots.Perm (m :: n :: rest)) (hJoined : joined.Perm (k :: rest)) (hSize : size ≤ k)
    (h : (nodes.filter (· < size)).Perm (joined.filter (· < size))) :
    ((nodes ++ [m, n]).filter (· < size)).Perm (roots.filter (· < size)) := by
  have hnew : (k :: rest).filter (· < size) = rest.filter (· < size) :=
    List.filter_cons_of_neg (by simpa using hSize)
  have hnodes : (nodes.filter (· < size)).Perm (rest.filter (· < size)) :=
    hnew ▸ h.trans (hJoined.filter _)
  rw [List.filter_append]
  calc List.Perm _ (rest.filter (· < size) ++ [m, n].filter (· < size)) := hnodes.append_right _
    List.Perm _ ([m, n].filter (· < size) ++ rest.filter (· < size)) := List.perm_append_comm
    _ = (m :: n :: rest).filter (· < size) := by rw [← List.filter_append]; rfl
    List.Perm _ (roots.filter (· < size)) := (hRoots.filter _).symm

/-- Joining two roots first. -/
theorem Valid.joins_joined (hValid : f.Valid) (hMany : 2 < f.heap.size)
    (h : f.joined.Joins g root pairs) : f.Joins g root (pairs ++ [f.removed.first, f.first]) := by
  obtain ⟨rest, hroots, hjoined, -⟩ := hValid.joined_eq hMany
  have hmem : ∀ n ∈ f.removed.first :: f.first :: rest, n < f.frequency.size := fun n hn =>
    hValid.lt n (hroots.mem_iff.mpr hn)
  have hnodup := hroots.nodup_iff.mp hValid.nodup
  have hle := h.le
  rw [size_frequency_joined] at hle
  refine ⟨?splits, ?parent, ?lt, ?isNew, by omega, fun size hSize => ?filter⟩
  case splits =>
    -- splitting the new node comes last
    have hnew := List.nodup_cons.mp hnodup
    have hm := h.parent_child hValid hjoined (Or.inr rfl) (hmem _ (by simp))
      fun hrest => hnew.1 (List.mem_cons_of_mem _ hrest)
    have hn := h.parent_child hValid hjoined (Or.inl rfl) (hmem _ (by simp))
      (List.nodup_cons.mp hnew.2).1
    exact (h.splits.snoc hjoined hm hn hnodup).congr hroots.symm
  case parent =>
    intro i hi hroot
    -- a node that is no root is neither of the two, and stays as it was
    have hi' := hroots.mem_iff.not.mp hroot
    rw [List.mem_cons, List.mem_cons, not_or, not_or] at hi'
    rw [h.parent_eq hValid hjoined (by rw [← hValid.parent]; exact hi) hi'.2.2,
      parent_joined f i hi, if_neg (by rintro (h | h); exacts [hi'.2.1 h, hi'.1 h])]
  case lt =>
    intro n hn
    rw [← List.cons_append, List.mem_append] at hn
    rcases hn with hn | hn
    · exact h.lt n hn
    · have := hmem n (by simp at hn ⊢; tauto)
      omega
  case isNew =>
    rw [if_pos hMany]
    exact h.le_root hjoined
  case filter =>
    rw [← List.cons_append]
    exact filter_append_perm hroots hjoined hSize
      (h.filter size (by rw [size_frequency_joined]; omega))

end Joined

/-- **Joining is undone by splitting.** The nodes are listed from the last root down, in the
order in which splitting it gives them. -/
theorem exists_joins {f : Forest} {fuel : Nat} (hValid : f.Valid) (hFuel : f.heap.size ≤ fuel + 1)
    (order : List Nat) : ∃ g root pairs, join fuel f order = (g, root :: (pairs ++ order)) ∧
      f.Joins g root pairs := by
  induction fuel generalizing f order with
  | zero =>
    have := hValid.size
    omega
  | succ fuel ih =>
    by_cases hone : f.heap.size ≤ 2
    · refine ⟨f, f.first, [], ?_, hValid.joins_self hone⟩
      rw [join, if_pos hone]
      rfl
    · obtain ⟨rest, -, -, hvalid⟩ := hValid.joined_eq (by omega)
      have hsize := size_joined (f := f) (by omega)
      obtain ⟨g, root, pairs, hjoin, hjoins⟩ :=
        ih hvalid (by omega) (f.removed.first :: f.first :: order)
      refine ⟨g, root, _, ?_, hValid.joins_joined (by omega) hjoins⟩
      rw [join_succ _ _ _ hone, hjoin, List.append_assoc]
      rfl

end Forest

end Keyset.CodeLengths
