import Spreadsheet.Workbook.RegionIndex

/-!
Which tokens of formulas observe which cells.

Each reference token of a stored formula is known by a handle, and observes one area at most. Areas
of whole rows or columns are never recorded: nearly every edit would touch them, and a formula
that holds one is found by looking at all formulas.

The areas are kept by their tokens, and once more in an index for each sheet. That the two agree is
part of the structure. Queries answer with handles in ascending order.
-/

namespace Spreadsheet

structure Observers (T : Type := List Entry) [RegionIndex T] where
  limits : Limits
  areas : Std.HashMap Handle Area := ∅
  /-- The indexes of the sheets on which anything is observed. -/
  sheets : Std.HashMap Nat T := ∅
  hold : RegionIndex.Hold sheets areas := by exact RegionIndex.hold_empty

namespace Observers

variable {T : Type} [RegionIndex T]

def empty (limits : Limits) : Observers T := { limits }

/-- The range takes in all rows or all columns, so its observers are not recorded. -/
def isWhole (o : Observers T) (r : CellRange) : Bool :=
  r.hasAllRows o.limits || r.hasAllCols o.limits

/-- The area that a token observes. -/
def area? (o : Observers T) (h : Handle) : Option Area := o.areas[h]?

def contains (o : Observers T) (h : Handle) : Bool := o.areas.contains h

def untrack (o : Observers T) (h : Handle) : Observers T :=
  match ha : o.areas[h]? with
  | none => o
  | some a => { o with
      areas := o.areas.erase h
      sheets := RegionIndex.eraseOn o.sheets a.sheet ⟨h, a.range⟩
      hold := o.hold.erase ha }

theorem getElem?_areas_untrack (o : Observers T) (h k : Handle) :
    (o.untrack h).areas[k]? = if h = k then none else o.areas[k]? := by
  unfold untrack
  split
  · split
    · simp_all
    · rfl
  · simp only [Std.HashMap.getElem?_erase, beq_iff_eq]

/-- Records what a token observes from now on. -/
def track (o : Observers T) (h : Handle) (a : Area) : Observers T :=
  if o.isWhole a.range then o.untrack h
  else { o.untrack h with
    areas := (o.untrack h).areas.insert h a
    sheets := RegionIndex.insertOn (o.untrack h).sheets a.sheet ⟨h, a.range⟩
    hold := (o.untrack h).hold.insert ((o.getElem?_areas_untrack h h).trans (if_pos rfl)) }

/-- Records what a token observes from now on if it observed something before. -/
def relocate (o : Observers T) (h : Handle) (a : Area) : Observers T :=
  if o.contains h then o.track h a else o

/-- The tokens whose areas meet a given one. -/
def overlapping (o : Observers T) (a : Area) : List Handle :=
  match o.sheets[a.sheet]? with
  | none => []
  | some t => Handle.sort ((RegionIndex.meeting t a.range).map Entry.handle)

/-- The tokens whose areas hold a cell. -/
def of (o : Observers T) (p : Place) : List Handle := o.overlapping (.single p)

/-- The tokens whose areas lie on a sheet. -/
def onSheet (o : Observers T) (sheet : Nat) : List Handle :=
  Handle.sort (o.areas.toList.filterMap fun (h, b) => if b.sheet = sheet then some h else none)

def size (o : Observers T) : Nat := o.areas.size

def isEmpty (o : Observers T) : Bool := o.areas.isEmpty

end Observers

end Spreadsheet
