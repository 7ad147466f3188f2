import Spreadsheet.Formula.Reference
import Spreadsheet.Token.Render

/-!
What a formula needs to know about the workbook around it: names, links to sheets and the extent of
each sheet. The values of cells are not among it, since they may have to be computed first.
-/

namespace Spreadsheet

/-- An entry of the table of sheets that references into other sheets go through. -/
inductive SheetLink
  /-- The sheets of this workbook between two numbers, in either order. -/
  | span (first last : Nat)
  | external (book sheet : String)
  /-- The sheet was deleted; its name is kept for the text of formulas. -/
  | deleted (name : Option String)
  deriving DecidableEq, Repr, Inhabited

structure DefinedName where
  name : String
  /-- The sheet it belongs to, or nothing if it belongs to the workbook. -/
  scope : Option Nat
  body : List Token
  deriving DecidableEq, Repr, Inhabited

/-- A name reached through a sheet link. Without a body it is a function of an add-in. -/
structure LinkedName where
  name : String
  body : Option (List Token)
  deriving DecidableEq, Repr, Inhabited

structure Surroundings where
  sheetCount : Nat
  sheetName : Nat → Option String
  link : UInt16 → Option SheetLink
  /-- Defined names are numbered from one. -/
  definedName : UInt16 → Option DefinedName
  /-- The names of a link are numbered from one. -/
  linkedName : UInt16 → UInt16 → Option LinkedName
  /-- The smallest range around the cells in use of a sheet. -/
  usedExtent : Nat → Option CellRange

namespace Surroundings

/-- The sheets that a link stands for. -/
def sheetsOf (s : Surroundings) (link : UInt16) : Except CellError (List Nat) :=
  match s.link link with
  | some (.span first last) =>
    let lo := min first last
    let hi := max first last
    if s.sheetCount ≤ hi then .error .reference
    else .ok ((List.range (hi - lo + 1)).map (lo + ·))
  | _ => .error .reference

theorem sheetsOf_single {s : Surroundings} {link : UInt16} {k : Nat}
    (h : s.link link = some (.span k k)) :
    s.sheetsOf link = if s.sheetCount ≤ k then .error .reference else .ok [k] := by
  simp only [sheetsOf, h, Nat.min_self, Nat.max_self, Nat.sub_self]
  rfl

/-- The name in front of references through a link. -/
def sheetLabel (s : Surroundings) (link : UInt16) : SheetLabel :=
  match s.link link with
  | some (.span first last) => match s.sheetName first, s.sheetName last with
    | some a, some b => .span a b
    | a, _ => .deleted a
  | some (.external book sheet) => .external book sheet
  | some (.deleted name) => .deleted name
  | none => .deleted none

def names (s : Surroundings) (limits : Limits) : Names where
  sheetLabel := s.sheetLabel
  definedName i := (s.definedName i).map (·.name)
  linkedName link i := (s.linkedName link i).map (·.name)
  limits := limits

end Surroundings

end Spreadsheet
