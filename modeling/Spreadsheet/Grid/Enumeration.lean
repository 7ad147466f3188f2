import Spreadsheet.Grid.Cell

/-!
Going through the cells of a range one by one.

An enumeration stands at a cell and goes down its column, then on to the top of the next one. Beside
that it counts, in 64 bits, how many cells are to come, so that their number is known in advance.
-/

namespace Spreadsheet.CellRange

/-- An enumeration on its way through a range. -/
structure Enumeration where
  range : CellRange
  /-- The cell that comes next, unless all have come. -/
  next : Option Cell
  /-- How many cells are to come. -/
  remaining : UInt64
  deriving DecidableEq, Repr

/-- The cell that follows another: the one below it, or else the top of the next column. -/
def following? (r : CellRange) (c : Cell) : Option Cell :=
  if c.row < r.stop.row then some ⟨c.row + 1, c.col⟩
  else if c.col < r.stop.col then some ⟨r.start.row, c.col + 1⟩
  else none

def enumeration (r : CellRange) : Enumeration := ⟨r, some r.start, .ofNat r.cellCount⟩

namespace Enumeration

/-- Answers with the next cell and goes on behind it. At the end it stays there. -/
def advance (e : Enumeration) : Option Cell × Enumeration :=
  match e.next with
  | none => (none, e)
  | some c =>
    (some c, { e with next := e.range.following? c, remaining := e.remaining - 1 })

/-- The next `n` cells, or all that are left if there are fewer, and the enumeration behind them. -/
def take : Nat → Enumeration → List Cell × Enumeration
  | 0, e => ([], e)
  | n + 1, e =>
    match e.advance with
    | (none, e) => ([], e)
    | (some c, e) => let (cs, e) := take n e; (c :: cs, e)

/-- How far the next cell is from the end: whole columns, and then cells down to the last row. -/
def distance (e : Enumeration) : Nat × Nat :=
  match e.next with
  | none => (0, 0)
  | some c => (e.range.stop.col - c.col, e.range.stop.row - c.row + 1)

theorem distance_advance {e : Enumeration} {c : Cell} (h : e.next = some c) :
    Prod.Lex (· < ·) (· < ·) e.advance.2.distance e.distance := by
  simp only [distance, advance, h, following?]
  by_cases hrow : c.row < e.range.stop.row
  · simp only [hrow, if_true]
    exact .right _ (by omega)
  by_cases hcol : c.col < e.range.stop.col
  · simp only [hrow, hcol, if_true, if_false]
    exact .left _ _ (by omega)
  · simp only [hrow, hcol, if_false, Nat.sub_eq_zero_of_le (Nat.not_lt.mp hcol)]
    exact .right _ (Nat.succ_pos _)

/-- All cells that are left. -/
def toList (e : Enumeration) : List Cell :=
  match _h : e.next with
  | none => []
  | some c => c :: e.advance.2.toList
termination_by e.distance
decreasing_by exact distance_advance _h

end Enumeration

/-- The first `n` cells of the enumeration, or all if there are fewer. -/
def firstCells (r : CellRange) (n : Nat) : List Cell := (r.enumeration.take n).1

end Spreadsheet.CellRange
