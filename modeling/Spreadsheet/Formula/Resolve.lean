import Spreadsheet.Formula.Query
import Spreadsheet.Formula.Surroundings

/-!
From reference tokens to areas, and from areas to values.

An area of whole rows or columns is cut to the cells in use. Where one value is wanted of a
reference, the formula's own row or column picks a cell of a one-dimensional area. Where many are
wanted, they are laid out as an array.
-/

namespace Spreadsheet

namespace Surroundings

/-- The area of an address on a sheet. Open dimensions end with the sheet's extent, but hold one
row or column at least. -/
def areaOn (s : Surroundings) (sheet : Nat) (a : AreaAddress) (limits : Limits) : Area :=
  let range := a.range
  let used := if a.isWhole limits then s.usedExtent sheet else none
  let lastRow := used.elim 0 (·.stop.row)
  let lastCol := used.elim 0 (·.stop.col)
  let stop : Cell :=
    ⟨if a.isWholeColumn limits then max lastRow range.start.row else range.stop.row,
     if a.isWholeRow limits then max lastCol range.start.col else range.stop.col⟩
  ⟨sheet, range.start, stop,
    by have := range.row_le; dsimp only [stop]; split <;> omega,
    by have := range.col_le; dsimp only [stop]; split <;> omega⟩

/-- One area for each sheet of a link. -/
def onSheetsOf (s : Surroundings) (link : UInt16) (area : Nat → Area) :
    Except CellError Reference := do
  match Reference.ofAreas? ((← s.sheetsOf link).map area) with
  | some r => return r
  | none => throw .reference

/-- What a token of a cell or an area refers to, seen from a formula's place. Tokens of other kinds
refer to nothing. -/
def resolve? (s : Surroundings) (limits : Limits) (here : Place) : Token → Option Operand
  | .ref _ a => some (.reference (.ofArea (.single ⟨here.sheet, a.cell⟩)))
  | .area _ a => some (.reference (.ofArea (s.areaOn here.sheet a limits)))
  | .refN _ a =>
    some (.reference (.ofArea (.single ⟨here.sheet, (a.resolve here.cell limits).cell⟩)))
  | .areaN _ a =>
    some (.reference (.ofArea (s.areaOn here.sheet (a.resolve here.cell limits) limits)))
  | .ref3d _ link a => some (operand (s.onSheetsOf link fun sheet => .single ⟨sheet, a.cell⟩))
  | .area3d _ link a => some (operand (s.onSheetsOf link fun sheet => s.areaOn sheet a limits))
  | .refErr .. | .areaErr .. | .refErr3d .. | .areaErr3d .. => some (.error .reference)
  | _ => none
where
  operand : Except CellError Reference → Operand
    | .ok r => .reference r
    | .error e => .error e

end Surroundings

/-- The cell of a reference that a formula at `here` means where one cell is wanted: the only cell,
or the one in the formula's row of a column, or the one in its column of a row. -/
def Reference.intersectionCell? (r : Reference) (here : Place) : Option Place := do
  let ⟨sheet, range⟩ ← r.singleArea?
  if range.isSingle then return ⟨sheet, range.start⟩
  else if range.width = 1 ∧ range.start.row ≤ here.cell.row ∧ here.cell.row ≤ range.stop.row then
    return ⟨sheet, here.cell.row, range.start.col⟩
  else if range.height = 1 ∧ range.start.col ≤ here.cell.col ∧ here.cell.col ≤ range.stop.col then
    return ⟨sheet, range.start.row, here.cell.col⟩
  else none

theorem Reference.intersectionCell?_single (p here : Place) :
    (ofArea (.single p)).intersectionCell? here = some p :=
  if_pos (CellRange.isSingle_single p.cell)

namespace CellRange

/-- Where the value of a cell stands among those of a range that are put row by row. -/
def slot (r : CellRange) (c : Cell) : Nat :=
  (c.row - r.start.row) * r.width + (c.col - r.start.col)

/-- Puts the value of a cell into its slot. -/
def write (r : CellRange) (laid : Array Value) (c : Cell) (v : Value) : Array Value :=
  laid.setIfInBounds (r.slot c) v

/-- Values in the order of a range's cells, column by column, put row by row. -/
def layOut (r : CellRange) (values : List Value) : Value :=
  let blanks := Array.replicate (r.height * r.width) Value.blank
  .array r.height r.width
    ((r.cells.zip values).foldl (fun laid (c, v) => r.write laid c v) blanks).toList

end CellRange

namespace Reference

/-- The value of the cell that a formula at `here` means by a reference. -/
def implicitIntersection (r : Reference) (here : Place) : Query Value :=
  match r.intersectionCell? here with
  | some p => Query.cell p
  | none => return .error .value

/-- The values of every cell of a reference, in their order. -/
def values (r : Reference) : Query (List Value) := r.cells.mapM Query.cell

/-- The values of a reference as an array, or the value of a single cell. -/
def toArray (r : Reference) (maxCells : Nat) : Query Value :=
  match r.singleArea? with
  | none => return .error .value
  | some area =>
    if area.range.isSingle then Query.cell ⟨area.sheet, area.range.start⟩
    else if maxCells < area.range.cellCount then return .error .number
    else do return area.range.layOut (← area.cells.mapM Query.cell)

theorem toArray_single (p : Place) (maxCells : Nat) :
    (ofArea (.single p)).toArray maxCells = Query.cell p :=
  if_pos (CellRange.isSingle_single p.cell)

end Reference

namespace Operand

/-- An operand where one value is wanted. -/
def scalarValue (here : Place) : Operand → Query Value
  | value v => return v
  | reference r => r.implicitIntersection here
  | missing => return .blank

/-- An operand where an array will do. -/
def arrayValue (maxCells : Nat) : Operand → Query Value
  | value v => return v
  | reference r => r.toArray maxCells
  | missing => return .blank

end Operand

end Spreadsheet
