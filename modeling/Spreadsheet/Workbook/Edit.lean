import Spreadsheet.Workbook.Basic
import Spreadsheet.Workbook.GridEdit

/-!
What insertions and deletions of rows, columns and sheets do to a workbook.

Tokens that refer to an edited sheet are found through the observers, except for areas of whole
rows or columns, which are found by looking at all formulas. Then constants and formulas move.

A removed sheet leaves broken references behind. Links to later sheets, names of later sheets and
the formulas on them are renumbered.
-/

namespace Spreadsheet

/-- A token that is an area of whole rows or columns. -/
def Token.isWholeArea (limits : Limits) : Token → Bool
  | area _ a | area3d _ _ a => a.isWhole limits
  | _ => false

namespace FormulaStore

/-- The token of a handle in the form that an edit gives it, if it refers to the edited sheet and
has to change. -/
def movedToken? (s : FormulaStore) (links : SheetLinks) (e : GridEdit) (h : Handle) :
    Option Token := do
  let r ← s.get? h.formula
  let t ← r.tokens[h.token]?
  if t.observedSheet? r.sheet links = some e.sheet then e.movedToken? t else none

/-- Moves the targets of tokens that observe cells which the edit may move. -/
def moveObserved (s : FormulaStore) (links : SheetLinks) (e : GridEdit) : FormulaStore :=
  (s.observers.overlapping ⟨e.sheet, e.region s.limits⟩).foldl (fun s h =>
    match s.movedToken? links e h with
    | some t => s.replaceToken links h t
    | none => s) s

/-- The areas of whole rows or columns that have to change, each with its new form. -/
def movedWholeAreas (s : FormulaStore) (links : SheetLinks) (e : GridEdit) :
    List (Handle × Token) :=
  s.toList.flatMap fun (id, r) => r.tokens.zipIdx.filterMap fun (t, i) =>
    if t.isWholeArea s.limits ∧ t.observedSheet? r.sheet links = some e.sheet then
      (e.movedToken? t).map (Handle.mk id i, ·)
    else none

/-- Moves the targets that are areas of whole rows or columns. -/
def moveWholeAreas (s : FormulaStore) (links : SheetLinks) (e : GridEdit) : FormulaStore :=
  (s.movedWholeAreas links e).foldl (fun s (h, t) => s.replaceToken links h t) s

/-- Removes the formulas that an edit takes away. -/
def dropDeleted (s : FormulaStore) (e : GridEdit) : FormulaStore :=
  (s.toList.filter fun (_, r) => r.sheet == e.sheet && !e.keeps r.body).foldl
    (fun s (id, _) => s.remove id) s

/-- The formulas on the edited sheet in an order in which none is moved to a place that is still
taken: the ones at the front first if rows or columns are deleted, the last first if they are
inserted. -/
def movingOrder (s : FormulaStore) (e : GridEdit) : List Nat :=
  let moving := s.toList.filter fun (_, r) => r.sheet == e.sheet
  let sorted := moving.mergeSort fun (_, r) (_, r') =>
    e.axis.coordinate r.position ≤ e.axis.coordinate r'.position
  let ids := sorted.map Prod.fst
  if e.change = .insert then ids.reverse else ids

/-- Moves the formulas on the edited sheet to their new places. -/
def moveRecords (s : FormulaStore) (links : SheetLinks) (e : GridEdit) : FormulaStore :=
  (s.movingOrder e).foldl (fun s id => s.update links id e.moveRecord) s

/-- Changes, drops and moves formulas as an edit demands. -/
def edit (s : FormulaStore) (links : SheetLinks) (e : GridEdit) : FormulaStore :=
  (((s.moveObserved links e).moveWholeAreas links e).dropDeleted e).moveRecords links e

end FormulaStore

/-- The body of a name after an edit. Only its references into other sheets are certain to mean
the edited one. -/
def DefinedName.edit (n : DefinedName) (links : SheetLinks) (e : GridEdit) : DefinedName :=
  { n with body := n.body.map fun t =>
      match t with
      | .ref3d _ link _ | .area3d _ link _ =>
        if links.localSheet? link = some e.sheet then e.moveToken t else t
      | t => t }

/-- The constants of the edited sheet at their new places. -/
def Sheet.edit (s : Sheet) (e : GridEdit) : Sheet :=
  { s with constants := s.constants.fold (fun moved c v =>
      match e.cell? c with
      | some c => moved.insert c v
      | none => moved) ∅ }

namespace Workbook

/-- Forgets all results after an edit. -/
def outdated (w : Workbook) : Workbook := { w with results := ∅ }.touch

/-- Inserts or deletes rows or columns of a sheet, if there is such a sheet. -/
def edit (w : Workbook) (e : GridEdit) : Workbook :=
  if e.count = 0 ∨ w.sheets.size ≤ e.sheet then w
  else outdated { w with
    formulas := w.formulas.edit w.links e
    names := w.names.map (·.edit w.links e)
    sheets := w.sheets.modify e.sheet (·.edit e) }

def insertRows (w : Workbook) (sheet start count : Nat) : Workbook :=
  w.edit (.ofLimits sheet .rows .insert start count w.limits)

def deleteRows (w : Workbook) (sheet start count : Nat) : Workbook :=
  w.edit (.ofLimits sheet .rows .delete start count w.limits)

def insertCols (w : Workbook) (sheet start count : Nat) : Workbook :=
  w.edit (.ofLimits sheet .cols .insert start count w.limits)

def deleteCols (w : Workbook) (sheet start count : Nat) : Workbook :=
  w.edit (.ofLimits sheet .cols .delete start count w.limits)

end Workbook

/-! ### Removing a sheet -/

/-- A reference into another sheet turned into one to nothing, which still goes through its link. -/
def Token.broken? : Token → Option Token
  | ref3d cls link _ => some (refErr3d cls link (.replicate 4 0))
  | area3d cls link _ => some (areaErr3d cls link (.replicate 8 0))
  | _ => none

/-- A link after the removal of a sheet of the given number and name. A span loses the sheet.

The numbers of sheets are taken without a bound here. The only place where this shows is a span that
runs backwards and ends with the removed sheet 0. Its new end `last - 1` stops at 0, where unsigned
numbers of a fixed width have nothing below: the subtraction fails there, or wraps around. -/
def SheetLink.withoutSheet (removed : Nat) (name : String) : SheetLink → SheetLink
  | span first last =>
    if first = removed ∧ last = removed then deleted (some name)
    else span (if removed < first then first - 1 else first)
      (if removed ≤ last then last - 1 else last)
  | link => link

/-- A name after the removal of a sheet. A name of that sheet becomes one of the workbook, and
stands for an error. -/
def DefinedName.withoutSheet (removed : Nat) (n : DefinedName) : DefinedName :=
  match n.scope with
  | none => n
  | some scope =>
    if scope = removed then { n with scope := none, body := [.error .reference] }
    else if removed < scope then { n with scope := some (scope - 1) }
    else n

namespace FormulaStore

/-- Breaks the recorded references into other sheets that lead to a sheet. -/
def breakObservers (s : FormulaStore) (links : SheetLinks) (sheet : Nat) : FormulaStore :=
  (s.observers.onSheet sheet).foldl (fun s h =>
    match (s.token? h).bind Token.broken? with
    | some t => s.replaceToken links h t
    | none => s) s

/-- Removes the formulas of a sheet and renumbers those of the later ones, in the order of their
numbers. All are recorded anew, because the links have changed. -/
def withoutSheet (s : FormulaStore) (links : SheetLinks) (removed : Nat) : FormulaStore :=
  s.ids.foldl (fun s id =>
    if (s.get? id).map FormulaRecord.sheet = some removed then s.remove id
    else s.update links id fun r =>
      { r with sheet := if removed < r.sheet then r.sheet - 1 else r.sheet }) s

end FormulaStore

namespace Workbook

/-- Removes a sheet, if there is such a sheet. -/
def deleteSheet (w : Workbook) (sheet : Nat) : Workbook :=
  match w.sheets[sheet]? with
  | none => w
  | some removed =>
    let links := w.links.map (·.withoutSheet sheet removed.name)
    outdated { w with
      sheets := w.sheets.eraseIdxIfInBounds sheet
      formulas := (w.formulas.breakObservers w.links sheet).withoutSheet links sheet
      links
      names := w.names.map (·.withoutSheet sheet) }

end Workbook

end Spreadsheet
