import Spreadsheet.Grid.Enumeration
import Spreadsheet.Value.Basic

/-!
References as operands of formulas.

A reference is a list of areas, of which there is one at least; the same cell may lie in several.
Its cells are those of its areas in order, each area column by column.
-/

namespace Spreadsheet

/-- A cell of some sheet. Sheets are counted from zero. -/
structure Place where
  sheet : Nat
  cell : Cell
  deriving DecidableEq, Hashable, Repr, Inhabited

/-- A rectangle on one sheet. -/
structure Area where
  sheet : Nat
  range : CellRange
  deriving DecidableEq, Repr, Inhabited

def Area.single (p : Place) : Area := ⟨p.sheet, .single p.cell⟩

def Area.cells (a : Area) : List Place := a.range.cells.map (Place.mk a.sheet)

structure Reference where
  areas : List Area
  ne_nil : areas ≠ []
  deriving DecidableEq, Repr

namespace Reference

def ofArea (a : Area) : Reference := ⟨[a], List.cons_ne_nil a []⟩

instance : Inhabited Reference := ⟨ofArea default⟩

def ofAreas? (areas : List Area) : Option Reference :=
  if h : areas ≠ [] then some ⟨areas, h⟩ else none

/-- The only area, if there is just one. -/
def singleArea? (r : Reference) : Option Area :=
  match r.areas with
  | [a] => some a
  | _ => none

/-- The only cell, if there is just one area and it is a single cell. -/
def singleCell? (r : Reference) : Option Place :=
  r.singleArea?.bind fun a => if a.range.isSingle then some ⟨a.sheet, a.range.start⟩ else none

def cellCount (r : Reference) : Nat := r.areas.foldl (fun n a => n + a.range.cellCount) 0

def cells (r : Reference) : List Place := r.areas.flatMap Area.cells

/-- The first `n` cells, without listing the others. -/
def firstCells (r : Reference) (n : Nat) : List Place :=
  (r.areas.flatMap fun a => (a.range.firstCells n).map (Place.mk a.sheet)).take n

/-- The areas of both, those of the first in front. -/
def union (r s : Reference) : Reference := ⟨r.areas ++ s.areas, by simp [r.ne_nil]⟩

/-- What each two areas of the two references have in common; `#NULL!` if that is nothing. -/
def intersect (r s : Reference) : Except CellError Reference :=
  let common := r.areas.flatMap fun a => s.areas.filterMap fun b =>
    if b.sheet = a.sheet then (a.range.intersect? b.range).map (Area.mk a.sheet) else none
  match ofAreas? common with
  | some t => .ok t
  | none => .error .null

/-- The smallest rectangle around both references, if they lie on one sheet. -/
def span (r s : Reference) : Except CellError Reference :=
  match r.areas ++ s.areas with
  | [] => .error .value
  | a :: rest =>
    if rest.all (·.sheet = a.sheet) then
      .ok (ofArea ⟨a.sheet, rest.foldl (fun range b => range.bounding b.range) a.range⟩)
    else .error .value

end Reference

/-- What operators and functions take: a value, a reference that is not yet read, or an argument
that was left out. -/
inductive Operand
  | value (v : Value)
  | reference (r : Reference)
  | missing
  deriving Inhabited

@[match_pattern] abbrev Operand.error (e : CellError) : Operand := .value (.error e)

end Spreadsheet
