/-!
Cells and rectangles of cells.

Rows and columns count from zero. A range always has its top-left corner first; that is part of
its type. Its cells are listed column by column, each column from the top.
-/

namespace Spreadsheet

/-- The size of a sheet. The default is the grid of the BIFF8 file format. -/
structure Limits where
  maxRows : Nat := 65536
  maxCols : Nat := 256
  deriving DecidableEq, Repr, Inhabited

def Limits.lastRow (limits : Limits) : Nat := limits.maxRows - 1

def Limits.lastCol (limits : Limits) : Nat := limits.maxCols - 1

@[ext]
structure Cell where
  row : Nat
  col : Nat
  deriving DecidableEq, Hashable, Repr, Inhabited

/-- A coordinate moved by a signed distance, if it stays within `extent`. -/
def shiftWithin (i : Nat) (d : Int) (extent : Nat) : Option Nat :=
  let j := i + d
  if 0 ≤ j ∧ j < extent then some j.toNat else none

/-- A cell moved by signed distances, if it stays on the grid. -/
def Cell.offset? (c : Cell) (dRow dCol : Int) (limits : Limits) : Option Cell := do
  let row ← shiftWithin c.row dRow limits.maxRows
  let col ← shiftWithin c.col dCol limits.maxCols
  return ⟨row, col⟩

/-- The cells from `start` to `stop`, both included. -/
@[ext]
structure CellRange where
  start : Cell
  stop : Cell
  row_le : start.row ≤ stop.row
  col_le : start.col ≤ stop.col
  deriving DecidableEq, Repr

namespace CellRange

/-- The range with two given opposite corners, in whichever order. -/
def ofCorners (a b : Cell) : CellRange where
  start := ⟨min a.row b.row, min a.col b.col⟩
  stop := ⟨max a.row b.row, max a.col b.col⟩
  row_le := by dsimp only; omega
  col_le := by dsimp only; omega

def single (c : Cell) : CellRange := ⟨c, c, Nat.le_refl _, Nat.le_refl _⟩

instance : Inhabited CellRange := ⟨single default⟩

instance : Membership Cell CellRange where
  mem r c := r.start.row ≤ c.row ∧ c.row ≤ r.stop.row ∧ r.start.col ≤ c.col ∧ c.col ≤ r.stop.col

theorem mem_iff {r : CellRange} {c : Cell} : c ∈ r ↔
    r.start.row ≤ c.row ∧ c.row ≤ r.stop.row ∧ r.start.col ≤ c.col ∧ c.col ≤ r.stop.col := Iff.rfl

instance (c : Cell) (r : CellRange) : Decidable (c ∈ r) := decidable_of_iff' _ mem_iff

def width (r : CellRange) : Nat := r.stop.col - r.start.col + 1

def height (r : CellRange) : Nat := r.stop.row - r.start.row + 1

def cellCount (r : CellRange) : Nat := r.width * r.height

def isSingle (r : CellRange) : Bool := r.start == r.stop

@[simp] theorem isSingle_single (c : Cell) : (single c).isSingle := beq_self_eq_true c

/-- The range takes in every row of the grid. -/
def hasAllRows (r : CellRange) (limits : Limits) : Bool :=
  r.start.row = 0 && limits.maxRows ≤ r.stop.row + 1

/-- The range takes in every column of the grid. -/
def hasAllCols (r : CellRange) (limits : Limits) : Bool :=
  r.start.col = 0 && limits.maxCols ≤ r.stop.col + 1

/-- The cells common to two ranges, which are again a range unless there are none. -/
def intersect? (r s : CellRange) : Option CellRange :=
  let start : Cell := ⟨max r.start.row s.start.row, max r.start.col s.start.col⟩
  let stop : Cell := ⟨min r.stop.row s.stop.row, min r.stop.col s.stop.col⟩
  if h : start.row ≤ stop.row ∧ start.col ≤ stop.col then some ⟨start, stop, h.1, h.2⟩ else none

/-- The smallest range that covers two ranges. -/
def bounding (r s : CellRange) : CellRange where
  start := ⟨min r.start.row s.start.row, min r.start.col s.start.col⟩
  stop := ⟨max r.stop.row s.stop.row, max r.stop.col s.stop.col⟩
  row_le := by have := r.row_le; dsimp only; omega
  col_le := by have := r.col_le; dsimp only; omega

/-- The cell at position `k` of the enumeration. -/
def nth (r : CellRange) (k : Nat) : Cell :=
  ⟨r.start.row + k % r.height, r.start.col + k / r.height⟩

/-- Every cell, columns ascending and within a column rows ascending. -/
def cells (r : CellRange) : List Cell := (List.range r.cellCount).map r.nth

end CellRange

end Spreadsheet
