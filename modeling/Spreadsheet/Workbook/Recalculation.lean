import Spreadsheet.Workbook.Basic

/-!
Recalculation.

A pass computes the formulas of a workbook on demand: the value of a cell is computed when it is
first asked for, together with whatever it depends on, and then remembered. A formula that is
reached again while it is being evaluated depends on itself; it reads as `#CIRCULAR!` to the
formula that asked, and as `#VALUE!` to everyone outside.

Each evaluation locks a place, and no place is locked twice. So evaluations nest no deeper than
there are stored formulas, which bounds the recursion.
-/

namespace Spreadsheet

/-- What a pass remembers. -/
structure Pass where
  cells : Std.HashMap Place Value := ∅
  /-- The results of array blocks by their anchors. -/
  blocks : Std.HashMap Place Value := ∅
  /-- The places of the formulas that are being evaluated, the innermost first. -/
  locked : List Place := []

instance : Inhabited Pass := ⟨{}⟩

/-- Computations within a pass. A failed one keeps what was remembered on the way. -/
abbrev PassM := ExceptT EvalError (StateM Pass)

/-- The part of a block's result that one of its cells shows. -/
def ArrayFormula.part (f : ArrayFormula) (result : Value) (c : Cell) : Value :=
  match result with
  | .array .. =>
    (result.get? (c.row - f.range.start.row) (c.col - f.range.start.col)).getD
      (.error .notAvailable)
  | v => v

/-- The value that a formula sees in a cell whose own formula may have failed. -/
def valueOrFailure : Except EvalError Value → Value
  | .ok v => v
  | .error _ => .error .value

namespace Recalculation

/-- Evaluates with a place locked. If it is locked already, there is a circle. -/
def locking (p : Place) (evaluate : PassM Value) : PassM Value := fun pass =>
  if p ∈ pass.locked then (.ok (.error .circular), pass)
  else
    let (result, pass) := evaluate.run { pass with locked := p :: pass.locked }
    (result, { pass with locked := pass.locked.erase p })

def rememberCell (p : Place) (v : Value) : PassM Unit :=
  modify fun pass => { pass with cells := pass.cells.insert p v }

def rememberBlock (p : Place) (v : Value) : PassM Unit :=
  modify fun pass => { pass with blocks := pass.blocks.insert p v }

/-- Runs an evaluation that reads cells by `read`. A cell that fails does not end it. -/
def reading (read : Place → PassM Value) (evaluation : ExceptT EvalError Query Value) :
    PassM Value :=
  ExceptT.mk (evaluation.run.runWith fun q => valueOrFailure <$> (read q).run)

variable (w : Workbook) (functions : Dispatcher)

/-- The result of an array block, computed if it is not yet remembered. -/
def block (read : Place → PassM Value) (sheet : Nat) (f : ArrayFormula) : PassM Value := do
  let anchor : Place := ⟨sheet, f.range.start⟩
  match (← get).blocks[anchor]? with
  | some v => return v
  | none =>
    let v ← locking anchor (reading read (evaluateArray functions (w.site anchor) f.tokens))
    rememberBlock anchor v
    return v

/-- The value of a formula cell with the given tokens. -/
def formulaCell (read : Place → PassM Value) (p : Place) (tokens : List Token) :
    PassM Value := do
  match ← ExceptT.mk (pure (w.instantiate p tokens)) with
  | .array f => return f.part (← block w functions read p.sheet f) p.cell
  | f => locking p (reading read (evaluate functions (w.site p) f.tokens))

/-- The value of a cell as formulas see it, computed if it is not yet remembered. `fuel` is how
deep evaluations may still nest. -/
def compute : (fuel : Nat) → Place → PassM Value
  | 0, _ => return .error .circular
  | fuel + 1, p =>
    match w.formula? p with
    | none => return w.cellValue p
    | some tokens => do
      match (← get).cells[p]? with
      | some v => return v
      | none =>
        let v ← formulaCell w functions (compute fuel) p tokens
        rememberCell p v
        return v

end Recalculation

namespace Workbook

/-- Evaluations nest at most as deep as there are formulas; the innermost may still ask for one
cell. -/
def nestingBound (w : Workbook) : Nat := w.formulas.records.size + 1

/-- The value of a cell as formulas see it. -/
def compute (w : Workbook) (functions : Dispatcher) (p : Place) : PassM Value :=
  Recalculation.compute w functions w.nestingBound p

/-- The value of a cell as readers see it. -/
def computedValue (w : Workbook) (functions : Dispatcher) (p : Place) :
    PassM Value :=
  Value.surfaced <$> w.compute functions p

/-- The value of a cell that holds a formula. -/
def formulaValue (w : Workbook) (functions : Dispatcher) (p : Place) :
    PassM Value :=
  if (w.formula? p).isSome then w.computedValue functions p
  else throw (.noFormula p.sheet p.cell)

/-- The values of all formula cells, in order. -/
def computeAll (w : Workbook) (functions : Dispatcher) :
    StateM Pass (List (Place × Except EvalError Value)) :=
  w.formulaCells.mapM fun p => do return (p, ← (w.computedValue functions p).run)

/-- Recalculates all formulas in a new pass and keeps the results. Answers with the formulas that
failed, which read as `#VALUE!`. -/
def recalculate (w : Workbook) (functions : Dispatcher) :
    List (Place × EvalError) × Workbook :=
  let outcome := ((w.computeAll functions).run {}).run.1
  let failures := outcome.filterMap fun (p, result) =>
    match result with
    | .ok _ => none
    | .error e => some (p, e)
  let results := outcome.foldl (fun results (p, result) =>
    results.insert p (valueOrFailure result)) ∅
  (failures, { w with results, dirty := false })

end Workbook

end Spreadsheet
