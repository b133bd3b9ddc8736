/-!
# Keyset — character grids

The characters of a national standard stand in a grid of rows and cells; a place counts
its cells row by row. A grid lists runs of characters that follow each other from a
place on. A few places hold a letter together with a mark.

* `Grid.index` — grids prepared for look-up, later ones over earlier ones.
* `Grid.Index.at?` — the text at a place.
-/

namespace Keyset

/-- A grid of characters: runs of them with their first places, and the places that hold
two. -/
structure Grid where
  runs : List (Nat × List String)
  pairs : List (Nat × String) := []

namespace Grid

/-- What stands in a run for a place without a character. -/
def vacant : Char := '\ufffe'

/-- The characters of a grid with their places. -/
def entries (g : Grid) : List (Nat × Char) :=
  let runEntries (run : Nat × List String) : List (Nat × Char) :=
    (run.2.flatMap String.toList).zipIdx.map fun e => (run.1 + e.2, e.1)
  (g.runs.flatMap runEntries).filter (·.2 ≠ vacant)

/-- Grids prepared for look-up. -/
structure Index where
  cells : Array Char
  pairs : List (Nat × String)

/-- Prepare grids for look-up. -/
def index (grids : List Grid) : Index :=
  let all := grids.flatMap entries
  let size := all.foldl (fun n e => max n (e.1 + 1)) 0
  { cells := all.foldl (fun cells e => cells.setIfInBounds e.1 e.2) (Array.replicate size vacant)
    pairs := grids.flatMap (·.pairs) }

/-- The text at a place. -/
def Index.at? (i : Index) (place : Nat) : Option (List Char) :=
  match i.cells[place]?.filter (· ≠ vacant) with
  | some c => some [c]
  | none => (i.pairs.lookup place).map String.toList

/-- The characters of a grid, place by place. -/
def Index.chars (i : Index) : List Char := i.cells.toList.filter (· ≠ vacant)

end Grid

end Keyset
