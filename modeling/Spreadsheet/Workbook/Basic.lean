import Spreadsheet.Formula.Evaluate
import Spreadsheet.Settings.Basic
import Spreadsheet.Text.Case
import Spreadsheet.Workbook.FormulaStore

/-!
Workbooks.

A workbook holds the constants of its sheets, its formulas, the table of sheet links and the names.
A cell holds a constant or a formula, whichever was set last. The results of formulas are those of
the last recalculation; until then a formula reads as blank.
-/

namespace Spreadsheet

structure Sheet where
  name : String
  constants : Std.HashMap Cell Value := ∅

structure Workbook where
  settings : Settings
  sheets : Array Sheet := #[]
  links : SheetLinks := #[]
  names : Array DefinedName := #[]
  /-- The names behind each link. -/
  linkedNames : Std.HashMap UInt16 (Array LinkedName) := ∅
  formulas : FormulaStore := .empty settings.limits
  /-- What the last recalculation found. -/
  results : Std.HashMap Place Value := ∅
  /-- An edit was made since the last recalculation; edits in manual mode do not count. -/
  dirty : Bool := false

namespace Workbook

def empty (settings : Settings) : Workbook := { settings }

def limits (w : Workbook) : Limits := w.settings.limits

/-- Notes that there was an edit. -/
def touch (w : Workbook) : Workbook :=
  { w with dirty := w.dirty || w.settings.mode == .automatic }

/-! ### Sheets and names -/

/-- Adds a sheet behind the others and answers with its number. -/
def addSheet (w : Workbook) (name : String) : Nat × Workbook :=
  (w.sheets.size, { w with sheets := w.sheets.push { name } })

/-- The first sheet of a name, in which the case of ASCII letters does not count. -/
def sheetNumber? (w : Workbook) (name : String) : Option Nat :=
  w.sheets.findIdx? fun s => Text.sameIgnoringAsciiCase s.name name

def sheetName? (w : Workbook) (sheet : Nat) : Option String := (w.sheets[sheet]?).map Sheet.name

/-- Adds a link to a sheet and answers with its number. -/
def addLink (w : Workbook) (link : SheetLink) : UInt16 × Workbook :=
  (w.links.size.toUInt16, { w with links := w.links.push link })

/-- Adds a name and answers with its number, which counts from one. -/
def addName (w : Workbook) (name : DefinedName) : UInt16 × Workbook :=
  ((w.names.size + 1).toUInt16, { w with names := w.names.push name })

/-- Adds a name behind a link and answers with its number, which counts from one. -/
def addLinkedName (w : Workbook) (link : UInt16) (name : LinkedName) : UInt16 × Workbook :=
  let names := w.linkedNames.getD link #[]
  ((names.size + 1).toUInt16, { w with linkedNames := w.linkedNames.insert link (names.push name) })

/-- The element with a number that counts from one. -/
def numbered {α : Type} (xs : Array α) (i : UInt16) : Option α :=
  if i = 0 then none else xs[i.toNat - 1]?

/-! ### What a cell holds -/

/-- The tokens that are stored in a cell, which may be a placeholder. -/
def formula? (w : Workbook) (p : Place) : Option (List Token) := do
  return (← w.formulas.get? (← w.formulas.cellFormula? p)).tokens

/-- The value of a cell: the last result of a formula, or a constant. -/
def cellValue (w : Workbook) (p : Place) : Value :=
  if (w.formulas.cellFormula? p).isSome then w.results.getD p .blank
  else ((w.sheets[p.sheet]?).bind fun s => s.constants[p.cell]?).getD .blank

/-- The places of all formulas of cells, in the order in which they were stored. -/
def formulaPlaces (w : Workbook) : List Place :=
  w.formulas.toList.filterMap fun (_, r) =>
    match r.body with
    | .cell c _ => some ⟨r.sheet, c⟩
    | _ => none

/-- Places are sorted by sheet, then by row, then by column. -/
def placeLE (p q : Place) : Bool :=
  p.sheet < q.sheet || p.sheet == q.sheet &&
    (p.cell.row < q.cell.row || p.cell.row == q.cell.row && p.cell.col ≤ q.cell.col)

/-- The places of all formulas of cells, sorted. -/
def formulaCells (w : Workbook) : List Place := w.formulaPlaces.mergeSort placeLE

/-- The smallest range around the cells of a sheet that hold anything. -/
def usedExtent? (w : Workbook) (sheet : Nat) : Option CellRange := do
  let s ← w.sheets[sheet]?
  let formulas := w.formulaPlaces.filterMap fun p => if p.sheet = sheet then some p.cell else none
  match s.constants.keys ++ formulas with
  | [] => none
  | c :: cs => some (cs.foldl (fun range d => range.bounding (.single d)) (.single c))

def surroundings (w : Workbook) : Surroundings where
  sheetCount := w.sheets.size
  sheetName := w.sheetName?
  link i := w.links[i.toNat]?
  definedName := numbered w.names
  linkedName link i := (w.linkedNames[link]?).bind (numbered · i)
  usedExtent := w.usedExtent?

/-- A place of the workbook as the site of an evaluation. -/
def site (w : Workbook) (p : Place) : CallSite := ⟨w.surroundings, p, w.settings⟩

/-! ### Setting cells -/

def eraseConstant (w : Workbook) (p : Place) : Workbook :=
  { w with sheets := w.sheets.modify p.sheet fun s =>
      { s with constants := s.constants.erase p.cell } }

def storeConstant (w : Workbook) (p : Place) (v : Value) : Workbook :=
  { w with sheets := w.sheets.modify p.sheet fun s =>
      { s with constants := s.constants.insert p.cell v } }

/-- Stores a constant in place of whatever the cell holds. Blank only empties the cell. -/
def setValue (w : Workbook) (p : Place) (v : Value) : Workbook :=
  let w := match w.formulas.cellFormula? p with
    | some id => { w with formulas := w.formulas.remove id }
    | none => w
  let w := { w with results := w.results.erase p }
  (match v with
    | .blank => w.eraseConstant p
    | v => w.storeConstant p v).touch

/-- Stores a record and answers with its number. -/
def insertRecord (w : Workbook) (r : FormulaRecord) : Nat × Workbook :=
  let (id, formulas) := w.formulas.insert w.links r
  (id, { w with formulas })

/-- Stores a formula in place of whatever the cell holds, and answers with its number. -/
def setFormula (w : Workbook) (p : Place) (tokens : List Token) : Nat × Workbook :=
  let w := w.eraseConstant p
  let w := { w with results := w.results.erase p }
  w.touch.insertRecord ⟨p.sheet, .cell p.cell tokens⟩

/-- Stores a formula in its binary form. -/
def setFormulaBytes (w : Workbook) (p : Place) (code data : List UInt8) :
    Except EvalError (Nat × Workbook) := do
  return w.setFormula p (← (decode code data).mapError EvalError.decode)

/-- Puts a placeholder into every cell of a range. -/
def fillPlaceholders (w : Workbook) (sheet : Nat) (range : CellRange) : Workbook :=
  range.cells.foldl (fun w c => (w.setFormula ⟨sheet, c⟩ [placeholder range.start]).2) w

/-- Stores a formula for a group of cells, and answers with its number. The anchor is the top-left
cell. -/
def setShared (w : Workbook) (sheet : Nat) (range : CellRange) (body : List Token) :
    Nat × Workbook :=
  (w.fillPlaceholders sheet range).insertRecord ⟨sheet, .shared ⟨range.start, range, body⟩⟩

/-- Stores an array formula, and answers with its number. -/
def setArray (w : Workbook) (sheet : Nat) (range : CellRange) (body : List Token) :
    Nat × Workbook :=
  (w.fillPlaceholders sheet range).insertRecord ⟨sheet, .array ⟨range, body⟩⟩

end Workbook

/-! ### Placeholders -/

/-- The formula of a cell with its placeholder followed. -/
inductive BoundFormula
  /-- As stored. -/
  | plain (tokens : List Token)
  /-- A shared formula as this cell has it. -/
  | shared (tokens : List Token)
  /-- A part of an array block. -/
  | array (formula : ArrayFormula)
  deriving DecidableEq, Repr

def BoundFormula.tokens : BoundFormula → List Token
  | plain tokens | shared tokens => tokens
  | array f => f.tokens

namespace Workbook

/-- What a cell's placeholder for an anchor stands for. An array block that covers the cell comes
before a shared formula. -/
def boundTo? (w : Workbook) (p : Place) (anchor : Cell) : Option BoundFormula :=
  match w.formulas.arrayAt? ⟨p.sheet, anchor⟩ with
  | some f => if p.cell ∈ f.range then some (.array f) else fromShared
  | none => fromShared
where
  fromShared : Option BoundFormula :=
    (w.formulas.sharedAt? ⟨p.sheet, anchor⟩).map fun f =>
      .shared (bindShared f.tokens f.anchor p.cell w.limits)

/-- The formula that tokens stored in a cell stand for. -/
def instantiate (w : Workbook) (p : Place) (tokens : List Token) :
    Except EvalError BoundFormula :=
  match placeholderAnchor? tokens with
  | none => .ok (.plain tokens)
  | some anchor => match w.boundTo? p anchor with
    | some f => .ok f
    | none => .error (.structureNotFound p.sheet anchor)

/-- The text of a cell's formula, if it holds one. The cells of an array block all show the
block's formula as its anchor sees it. -/
def formulaText? (w : Workbook) (p : Place) : Option (Except RenderError String) := do
  let tokens ← w.formula? p
  let names := w.surroundings.names w.limits
  match (placeholderAnchor? tokens).bind (w.boundTo? p) with
  | some (.array f) => return render f.tokens names f.range.start
  | some f => return render f.tokens names p.cell
  | none => return render tokens names p.cell

end Workbook

end Spreadsheet
