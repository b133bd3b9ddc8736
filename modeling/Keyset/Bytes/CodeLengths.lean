/-!
# Keyset — word lengths of an optimal code

The lengths of the code words of a set of symbols with given frequencies: the
two rarest nodes are joined until one tree remains. Nodes of one frequency are
told apart by the height of their trees, and otherwise by their place in a
binary heap. Words that come out too long are shortened at the cost of others.

* `CodeLengths.ofFrequencies` — the lengths, with at least two words.
-/

namespace Keyset.CodeLengths

/-! ## Heap -/

/-- Trees under construction: the heap of their roots (its first place is
unused), and frequency, height and parent of every node. -/
structure Forest where
  heap : Array Nat
  frequency : Array Nat
  height : Array Nat
  parent : Array Nat

/-- Whether a node comes before another. -/
def Forest.before (f : Forest) (n m : Nat) : Bool :=
  let a := f.frequency[n]?.getD 0
  let b := f.frequency[m]?.getD 0
  a < b || (a == b && f.height[n]?.getD 0 ≤ f.height[m]?.getD 0)

/-- Move a node down from place `k` until no child comes before it. -/
def Forest.sink (f : Forest) (node : Nat) : Nat → Nat → Array Nat → Array Nat
  | 0, k, heap => heap.setIfInBounds k node
  | fuel + 1, k, heap =>
      let j := 2 * k
      if heap.size ≤ j then heap.setIfInBounds k node
      else
        let at' (i : Nat) : Nat := heap[i]?.getD 0
        let j := if j + 1 < heap.size && f.before (at' (j + 1)) (at' j) then j + 1 else j
        if f.before node (at' j) then heap.setIfInBounds k node
        else f.sink node fuel j (heap.setIfInBounds k (at' j))

/-- Restore the order below a place. -/
def Forest.settle (f : Forest) (k : Nat) : Forest :=
  { f with heap := f.sink (f.heap[k]?.getD 0) f.heap.size k f.heap }

/-- Join the two first roots until one is left; `order` lists the nodes as they
leave the heap, so that a parent comes after its children. -/
def Forest.join : Nat → Forest → List Nat → Forest × List Nat
  | 0, f, order => (f, order)
  | fuel + 1, f, order =>
      if f.heap.size ≤ 2 then (f, f.heap[1]?.getD 0 :: order)
      else
        let n := f.heap[1]?.getD 0
        let last := f.heap[f.heap.size - 1]?.getD 0
        -- the last root takes the place of the first one, and is settled from there
        let f := { f with heap := f.heap.pop.setIfInBounds 1 last }.settle 1
        let m := f.heap[1]?.getD 0
        let node := f.frequency.size
        let frequency := f.frequency[n]?.getD 0 + f.frequency[m]?.getD 0
        let height := max (f.height[n]?.getD 0) (f.height[m]?.getD 0) + 1
        let f : Forest :=
          { heap := f.heap.setIfInBounds 1 node
            frequency := f.frequency.push frequency
            height := f.height.push height
            parent := ((f.parent.push 0).setIfInBounds n node).setIfInBounds m node }
        Forest.join fuel (f.settle 1) (m :: n :: order)

/-! ## Lengths -/

/-- The depth of every node, cut off at `limit`, and how many were cut. Nodes are
listed from the root down. -/
def depths (limit : Nat) (parent : Array Nat) (order : List Nat) (nodes : Nat) :
    Array Nat × Nat :=
  order.tail.foldl (fun (acc : Array Nat × Nat) n =>
    let depth := acc.1[parent[n]?.getD 0]?.getD 0 + 1
    if limit < depth then (acc.1.setIfInBounds n limit, acc.2 + 1)
    else (acc.1.setIfInBounds n depth, acc.2))
    (Array.replicate nodes 0, 0)

/-- The greatest length below `bits` that some word has. -/
def longestBelow (counts : Array Nat) : Nat → Nat
  | 0 => 0
  | bits + 1 => if counts[bits]?.getD 0 ≠ 0 then bits else longestBelow counts bits

/-- Make room for the words that were cut: a word becomes one bit longer, and
takes one of the cut words as its neighbour. -/
def makeRoom (limit : Nat) : Nat → Nat → Array Nat → Array Nat
  | 0, _, counts => counts
  | fuel + 1, overflow, counts =>
      let bits := longestBelow counts limit
      let counts := counts.modify bits (· - 1)
      let counts := counts.modify (bits + 1) (· + 2)
      let counts := counts.modify limit (· - 1)
      if overflow ≤ 2 then counts else makeRoom limit fuel (overflow - 2) counts

/-- Give out the lengths anew, the greatest to the rarest symbols. -/
def reassign (counts : Array Nat) (limit : Nat) (leaves : List Nat) (lengths : Array Nat) :
    Array Nat :=
  let given := ((List.range (limit + 1)).reverse.filter (· ≠ 0)).flatMap fun bits =>
    List.replicate (counts[bits]?.getD 0) bits
  (leaves.zip given).foldl (fun acc p => acc.setIfInBounds p.1 p.2) lengths

/-- Two symbols at least need a word: the least unused ones below 2, else 0, are
counted once. -/
def atLeastTwo (frequencies : List Nat) : List Nat :=
  let used := (frequencies.zipIdx.filter (·.1 ≠ 0)).map (·.2)
  match used with
  | [] => frequencies.zipIdx.map fun p => if p.2 < 2 then 1 else p.1
  | [only] =>
      let extra := if only < 2 then only + 1 else 0
      frequencies.zipIdx.map fun p => if p.2 = extra then 1 else p.1
  | _ => frequencies

/-- The word lengths for symbols with the given frequencies, `limit` at most. -/
def ofFrequencies (limit : Nat) (frequencies : List Nat) : List Nat :=
  let frequencies := atLeastTwo frequencies
  let used := (frequencies.zipIdx.filter (·.1 ≠ 0)).map (·.2)
  let elements := frequencies.length
  let f : Forest :=
    { heap := (0 :: used).toArray
      frequency := frequencies.toArray
      height := Array.replicate elements 0
      parent := Array.replicate elements 0 }
  let f := ((List.range (used.length / 2)).reverse).foldl (fun f k => f.settle (k + 1)) f
  let (f, order) := Forest.join used.length f []
  let (depth, overflow) := depths limit f.parent order f.frequency.size
  -- the nodes below the number of symbols are the symbols themselves
  let leaves := order.filter (· < elements)
  let lengths := depth.toList.take elements
  if overflow = 0 then lengths
  else
    -- the lengths that were cut take too many words, and all are given out anew
    let counts := (leaves.map fun n => lengths[n]?.getD 0).foldl
      (fun (c : Array Nat) bits => c.modify bits (· + 1)) (Array.replicate (limit + 2) 0)
    (reassign (makeRoom limit overflow overflow counts) limit leaves.reverse
      lengths.toArray).toList

end Keyset.CodeLengths
