import Spreadsheet.Grid.Cell

/-!
What a calculation depends on besides the workbook.
-/

namespace Spreadsheet

inductive CalculationMode
  /-- Every edit asks for a recalculation. -/
  | automatic
  | manual
  deriving DecidableEq, Repr, Inhabited

structure Settings where
  mode : CalculationMode := .automatic
  limits : Limits := {}
  /-- Numbers count as equal up to this fraction of the larger one. -/
  epsilon : Float := 1e-15
  /-- How deep names may refer to names. -/
  maxNameDepth : Nat := 64
  /-- Larger arrays are not built; they read as `#NUM!`. -/
  maxArrayCells : Nat := 16777216
  deriving Inhabited

end Spreadsheet
