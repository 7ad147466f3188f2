import Spreadsheet.Grid.Address

/-!
Addresses that are stored relative to the cell of their formula.

Such an address keeps the two packed fields of the file format. A relative row is a signed 16-bit
distance and a relative column a signed 8-bit one; absolute parts are plain coordinates. Resolving
a distance wraps around the edges of the grid.
-/

namespace Spreadsheet

/-- A cell address as an offset: a row field of 16 bits and a column field of 14. -/
structure OffsetAddress where
  row : UInt16
  col : UInt16
  rowRelative : Bool
  colRelative : Bool
  deriving DecidableEq, Repr, Inhabited

namespace OffsetAddress

/-- Packs distances for relative parts and coordinates for absolute ones, keeping the bits that
the fields hold. -/
def ofParts (row col : Int) (rowRelative colRelative : Bool) : OffsetAddress where
  row := (row % 65536).toNat.toUInt16
  col := (col % if colRelative then 256 else 16384).toNat.toUInt16
  rowRelative := rowRelative
  colRelative := colRelative

/-- The signed distance in rows, if the row is relative. -/
def rowOffset? (a : OffsetAddress) : Option Int :=
  if a.rowRelative then some (Int.bmod a.row.toNat 65536) else none

/-- The signed distance in columns, if the column is relative. Only the low byte counts. -/
def colOffset? (a : OffsetAddress) : Option Int :=
  if a.colRelative then some (Int.bmod a.col.toNat 256) else none

/-- The coordinate `d` steps from `base` on an axis that closes on itself. -/
def wrap (base : Nat) (d : Int) (extent : Nat) : Nat := ((base + d) % extent).toNat

/-- The address that a formula in `origin` means. -/
def resolve (a : OffsetAddress) (origin : Cell) (limits : Limits) : Address where
  row := match a.rowOffset? with
    | some d => wrap origin.row d limits.maxRows
    | none => a.row.toNat
  col := match a.colOffset? with
    | some d => wrap origin.col d limits.maxCols
    | none => a.col.toNat
  rowRelative := a.rowRelative
  colRelative := a.colRelative

end OffsetAddress

/-- Two opposite corners of an area, both as offsets. -/
structure OffsetArea where
  first : OffsetAddress
  last : OffsetAddress
  deriving DecidableEq, Repr, Inhabited

def OffsetArea.resolve (a : OffsetArea) (origin : Cell) (limits : Limits) : AreaAddress :=
  ⟨a.first.resolve origin limits, a.last.resolve origin limits⟩

/-- The relative parts of an address moved by signed distances; nothing if one of them leaves the
grid. -/
def Address.shiftRelative? (a : Address) (dRow dCol : Int) (limits : Limits) : Option Address := do
  let row ← if a.rowRelative then shiftWithin a.row dRow limits.maxRows else some a.row
  let col ← if a.colRelative then shiftWithin a.col dCol limits.maxCols else some a.col
  return { a with row, col }

/-- Both corners of an area moved in that way. -/
def AreaAddress.shiftRelative? (a : AreaAddress) (dRow dCol : Int) (limits : Limits) :
    Option AreaAddress := do
  let first ← a.first.shiftRelative? dRow dCol limits
  let last ← a.last.shiftRelative? dRow dCol limits
  return ⟨first, last⟩

end Spreadsheet
