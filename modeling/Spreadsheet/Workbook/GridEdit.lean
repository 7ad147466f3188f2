import Spreadsheet.Workbook.FormulaRecord

/-!
Insertion and deletion of whole rows or columns.

An edit maps the coordinates along its axis: those before the edited place stay, those behind it
move, and those that are deleted or pushed off the grid have no image. From this follows what
becomes of cells, of ranges and of tokens that refer to them. A range lives as long as any of it
does; one that covers the whole axis stays as it is.
-/

namespace Spreadsheet

inductive Axis
  | rows
  | cols
  deriving DecidableEq, Repr, Inhabited

namespace Axis

def coordinate : Axis → Cell → Nat
  | rows, c => c.row
  | cols, c => c.col

def withCoordinate : Axis → Cell → Nat → Cell
  | rows, c, i => { c with row := i }
  | cols, c, i => { c with col := i }

/-- The last coordinate on the grid. -/
def last : Axis → Limits → Nat
  | rows, limits => limits.lastRow
  | cols, limits => limits.lastCol

end Axis

inductive GridChange
  | insert
  | delete
  deriving DecidableEq, Repr, Inhabited

/-- `count` rows or columns of a sheet, inserted or deleted at the coordinate `start`. -/
structure GridEdit where
  sheet : Nat
  axis : Axis
  change : GridChange
  start : Nat
  count : Nat
  /-- The last coordinate on the axis. -/
  last : Nat
  deriving DecidableEq, Repr, Inhabited

namespace GridEdit

def ofLimits (sheet : Nat) (axis : Axis) (change : GridChange) (start count : Nat)
    (limits : Limits) : GridEdit :=
  { sheet, axis, change, start, count, last := axis.last limits }

/-- Coordinates have 32 bits. -/
def maxCoordinate : Nat := 0xFFFFFFFF

/-- Where a deleted block ends. It never takes in the greatest coordinate of all. -/
def stop (e : GridEdit) : Nat := min (e.start + e.count) maxCoordinate

/-- The cells whose position the edit may change. -/
def region (e : GridEdit) (limits : Limits) : CellRange :=
  .ofCorners (e.axis.withCoordinate ⟨0, 0⟩ (min e.start (e.axis.last limits)))
    ⟨limits.lastRow, limits.lastCol⟩

/-- The new place of a coordinate. -/
def index? (e : GridEdit) (i : Nat) : Option Nat :=
  if i < e.start then some i
  else match e.change with
    | .insert => if i + e.count ≤ e.last then some (i + e.count) else none
    | .delete => if e.stop ≤ i then some (i - e.count) else none

/-- The new ends of an interval. An insertion inside it widens it, up to the edge of the grid. -/
def span? (e : GridEdit) (lo hi : Nat) : Option (Nat × Nat) :=
  match e.change with
  | .insert => do
    let lo ← e.index? lo
    return (lo, if hi < e.start then hi else min (hi + e.count) e.last)
  | .delete =>
    let lo' :=
      if lo < e.start then lo else if e.stop ≤ lo then lo - e.count else e.start
    if hi < e.start then some (lo', hi)
    else if e.stop ≤ hi then some (lo', hi - e.count)
    else if lo < e.start then some (lo', e.start - 1)
    else none

def cell? (e : GridEdit) (c : Cell) : Option Cell :=
  (e.index? (e.axis.coordinate c)).map (e.axis.withCoordinate c)

def range? (e : GridEdit) (r : CellRange) : Option CellRange := do
  let (lo, hi) ← e.span? (e.axis.coordinate r.start) (e.axis.coordinate r.stop)
  return .ofCorners (e.axis.withCoordinate r.start lo) (e.axis.withCoordinate r.stop hi)

def address? (e : GridEdit) (a : Address) : Option Address := (e.cell? a.cell).map a.withCell

/-- The range covers the whole axis of the edit. -/
def spansAxis (e : GridEdit) (r : CellRange) : Bool :=
  e.axis.coordinate r.start == 0 && e.last ≤ e.axis.coordinate r.stop

/-- The new form of an area. If it has to change, its corners are put in order; the marks stay with
the first and the last one. -/
def area? (e : GridEdit) (a : AreaAddress) : Option AreaAddress :=
  if e.spansAxis a.range then some a
  else (e.range? a.range).map fun r => ⟨a.first.withCell r.start, a.last.withCell r.stop⟩

/-- What becomes of a token that refers to the edited sheet. Tokens other than addresses and areas
stay, those with offsets among them. -/
def moveToken (e : GridEdit) : Token → Token
  | .ref cls a => match e.address? a with
    | some a => .ref cls a
    | none => .refErr cls (.replicate 4 0)
  | .area cls a => match e.area? a with
    | some a => .area cls a
    | none => .areaErr cls (.replicate 8 0)
  | .ref3d cls link a => match e.address? a with
    | some a => .ref3d cls link a
    | none => .refErr3d cls link (.replicate 4 0)
  | .area3d cls link a => match e.area? a with
    | some a => .area3d cls link a
    | none => .areaErr3d cls link (.replicate 8 0)
  | t => t

/-- The new form of a token that refers to the edited sheet, if it has to change. -/
def movedToken? (e : GridEdit) (t : Token) : Option Token :=
  let u := e.moveToken t
  if u = t then none else some u

/-- A placeholder follows its anchor. If the anchor goes, it stays as it is. -/
def movePlaceholder (e : GridEdit) : List Token → List Token
  | .exp row col :: rest => match e.cell? ⟨row.toNat, col.toNat⟩ with
    | some anchor => placeholder anchor :: rest
    | none => .exp row col :: rest
  | tokens => tokens

/-- Whether a record of the edited sheet stays in the workbook. The anchor of a group or a block
has to stay as well as some of its range. -/
def keeps (e : GridEdit) : FormulaBody → Bool
  | .cell c _ => (e.cell? c).isSome
  | .shared f => (e.cell? f.anchor).isSome && (e.range? f.range).isSome
  | .array f => (e.cell? f.range.start).isSome && (e.range? f.range).isSome

/-- A record of the edited sheet at its new place. -/
def moveBody (e : GridEdit) : FormulaBody → FormulaBody
  | .cell c tokens => .cell ((e.cell? c).getD c) (e.movePlaceholder tokens)
  | .shared f => .shared { f with
      anchor := (e.cell? f.anchor).getD f.anchor
      range := (e.range? f.range).getD f.range }
  | .array f => .array { f with range := (e.range? f.range).getD f.range }

def moveRecord (e : GridEdit) (r : FormulaRecord) : FormulaRecord :=
  { r with body := e.moveBody r.body }

end GridEdit

end Spreadsheet
