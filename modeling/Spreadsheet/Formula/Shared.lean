import Spreadsheet.Formula.Surroundings

/-!
Formulas shared by a group of cells.

The cells of a group hold a placeholder that names the anchor of the group. The group's one formula
writes references as offsets from whichever cell uses it, except that references into other sheets
are written as the anchor sees them. `bindShared` makes the formula of one cell of it.
-/

namespace Spreadsheet

/-- The anchor that a placeholder names. Only the first token counts. -/
def placeholderAnchor? : List Token → Option Cell
  | .exp row col :: _ => some ⟨row.toNat, col.toNat⟩
  | _ => none

/-- A placeholder for an anchor; its fields have 16 bits each. -/
def placeholder (anchor : Cell) : Token := .exp anchor.row.toUInt16 anchor.col.toUInt16

/-- A token of a shared formula as the formula of `cell` has it. References into other sheets move
with the cell, and are `#REF!` where that leads off the grid. -/
def Token.bindTo (anchor cell : Cell) (limits : Limits) : Token → Token
  | refN cls a => ref cls (a.resolve cell limits)
  | areaN cls a => area cls (a.resolve cell limits)
  | ref3d cls link a => match a.shiftRelative? dRow dCol limits with
    | some a => ref3d cls link a
    | none => refErr3d cls link (.replicate 4 0)
  | area3d cls link a => match a.shiftRelative? dRow dCol limits with
    | some a => area3d cls link a
    | none => areaErr3d cls link (.replicate 8 0)
  | t => t
where
  dRow : Int := cell.row - anchor.row
  dCol : Int := cell.col - anchor.col

/-- The formula of one cell of a group. -/
def bindShared (body : List Token) (anchor cell : Cell) (limits : Limits) : List Token :=
  body.map (Token.bindTo anchor cell limits)

/-- A formula for the cells of `range`, whose offsets in other sheets count from `anchor`. -/
structure SharedFormula where
  anchor : Cell
  range : CellRange
  tokens : List Token
  deriving DecidableEq, Repr, Inhabited

/-- A formula whose result is spread over `range`. It is anchored at the start of the range. -/
structure ArrayFormula where
  range : CellRange
  tokens : List Token
  deriving DecidableEq, Repr, Inhabited

end Spreadsheet
