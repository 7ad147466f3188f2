import Spreadsheet.Proofs.Questions
import Spreadsheet.Workbook.Recalculation

/-!
One step of a recalculation.

A cell is computed in one of two ways. Either the pass knows the outcome without reading any other
cell, because the cell holds no formula, was computed before, or is being computed; or its formula
is evaluated with its place locked, and the questions of the evaluation are answered by computing
other cells. `course` says which of the two it is, `step` is the whole step, and the recalculation
is the step applied to itself.
-/

namespace Spreadsheet

namespace BoundFormula

/-- The place of evaluation: the anchor of an array block, and otherwise the cell itself. -/
def home (p : Place) : BoundFormula → Place
  | array f => ⟨p.sheet, f.range.start⟩
  | _ => p

/-- What a cell shows of the result of its formula. -/
def shown (f : BoundFormula) (c : Cell) (result : Value) : Value :=
  match f with
  | array f => f.part result c
  | _ => result

end BoundFormula

namespace Pass

def lock (s : Pass) (p : Place) : Pass := { s with locked := p :: s.locked }

def unlock (s : Pass) (p : Place) : Pass := { s with locked := s.locked.erase p }

def rememberCell (s : Pass) (p : Place) (v : Value) : Pass :=
  { s with cells := s.cells.insert p v }

/-- The remembered result of a formula. Only those of array blocks are kept by themselves. -/
def result? (s : Pass) (p : Place) : BoundFormula → Option Value
  | .array f => s.blocks[(BoundFormula.array f).home p]?
  | _ => none

/-- Remembers the result of a formula, and what its cell shows of it. -/
def remember (s : Pass) (p : Place) (f : BoundFormula) (result : Value) : Pass :=
  { s with
    cells := s.cells.insert p (f.shown p.cell result)
    blocks := match f with
      | .array _ => s.blocks.insert (f.home p) result
      | _ => s.blocks }

@[simp] lemma locked_lock (s : Pass) (p : Place) : (s.lock p).locked = p :: s.locked := rfl

@[simp] lemma cells_lock (s : Pass) (p : Place) : (s.lock p).cells = s.cells := rfl

@[simp] lemma cells_unlock (s : Pass) (p : Place) : (s.unlock p).cells = s.cells := rfl

@[simp] lemma getElem?_cells_rememberCell (s : Pass) (p q : Place) (v : Value) :
    (s.rememberCell p v).cells[q]? = if p = q then some v else s.cells[q]? := by
  show (s.cells.insert p v)[q]? = _
  rw [Std.HashMap.getElem?_insert]
  simp only [beq_iff_eq]

@[simp] lemma getElem?_cells_remember (s : Pass) (p q : Place) (f : BoundFormula) (v : Value) :
    (s.remember p f v).cells[q]? = if p = q then some (f.shown p.cell v) else s.cells[q]? :=
  getElem?_cells_rememberCell s p q (f.shown p.cell v)

lemma locked_unlock_of_cons {s : Pass} {p : Place} {locked : List Place}
    (h : s.locked = p :: locked) : (s.unlock p).locked = locked := by
  show s.locked.erase p = locked
  rw [h, List.erase_cons_head]

end Pass

namespace Workbook

/-- The formula of a cell with its placeholder followed, if the cell holds one. -/
def bound? (w : Workbook) (p : Place) : Option (Except EvalError BoundFormula) :=
  (w.formula? p).map (w.instantiate p)

lemma bound?_of_formula? {w : Workbook} {p : Place} {tokens : List Token}
    (h : w.formula? p = some tokens) (hplain : placeholderAnchor? tokens = none) :
    w.bound? p = some (.ok (.plain tokens)) := by
  rw [bound?, h, Option.map_some, instantiate, hplain]

/-- The evaluation of a formula at its place: array formulas to arrays, others to one value. -/
def evaluation (w : Workbook) (functions : Dispatcher) (f : BoundFormula) (home : Place) :
    Query (Except EvalError Value) :=
  match f with
  | .array f => (evaluateArray functions (w.site home) f.tokens).run
  | f => (evaluate functions (w.site home) f.tokens).run

end Workbook

namespace Recalculation

/-- How a cell is computed. -/
inductive Course
  /-- Without reading another cell. -/
  | done (r : Except EvalError Value) (s : Pass)
  | evaluate (f : BoundFormula)

variable (w : Workbook) (functions : Dispatcher)

/-- How a cell is computed in a pass. A formula that is locked comes out as a circle, and is
remembered so until its evaluation is over. -/
def course (p : Place) (s : Pass) : Course :=
  match w.bound? p with
  | none => .done (.ok (w.cellValue p)) s
  | some bound => match s.cells[p]? with
    | some v => .done (.ok v) s
    | none => match bound with
      | .error e => .done (.error e) s
      | .ok f => match s.result? p f with
        | some v => .done (.ok (f.shown p.cell v)) (s.rememberCell p (f.shown p.cell v))
        | none =>
          if f.home p ∈ s.locked then
            .done (.ok (f.shown p.cell (.error .circular))) (s.remember p f (.error .circular))
          else .evaluate f

/-- The answers to an evaluation that reads cells by `read`. -/
def answers (read : Place → PassM Value) (p : Place) : StateM Pass Value :=
  valueOrFailure <$> (read p).run

lemma answers_apply (read : Place → PassM Value) (p : Place) (s : Pass) :
    answers read p s = (valueOrFailure (read p s).1, (read p s).2) := rfl

/-- What holds of every result, and of the error that a failure shows, holds of what is read. -/
lemma valueOrFailure_of_outcome {P : Value → Prop} {r : Except EvalError Value}
    (hr : Query.Outcome (fun _ => True) P r) (herror : P (.error .value)) :
    P (valueOrFailure r) := by
  cases r with
  | ok v => exact hr
  | error e => exact herror

/-- The end of an evaluation. A failure is not remembered. -/
def finish (p : Place) (f : BoundFormula) (r : Except EvalError Value) (s : Pass) :
    Except EvalError Value × Pass :=
  match r with
  | .ok v => (.ok (f.shown p.cell v), s.remember p f v)
  | .error e => (.error e, s)

/-- One step of the recalculation, which reads other cells by `read`. -/
def step (read : Place → PassM Value) (p : Place) : PassM Value :=
  match w.formula? p with
  | none => return w.cellValue p
  | some tokens => do
    match (← get).cells[p]? with
    | some v => return v
    | none =>
      let v ← formulaCell w functions read p tokens
      rememberCell p v
      return v

section Apply
variable {α β : Type}

lemma get_bind_apply (f : Pass → PassM α) (s : Pass) : (get >>= f) s = f s s := rfl

lemma bind_apply (x : PassM α) (f : α → PassM β) (s : Pass) : (x >>= f) s =
    match x s with
    | (.ok a, t) => f a t
    | (.error e, t) => (.error e, t) := by
  show (ExceptT.bindCont f (x s).1) (x s).2 = _
  rcases x s with ⟨_ | _, _⟩ <;> rfl

lemma lift_apply (x : Except EvalError α) (s : Pass) :
    (ExceptT.mk (pure x) : PassM α) s = (x, s) := rfl

end Apply

variable (read : Place → PassM Value) (p : Place) (s : Pass)

lemma locking_of_mem {evaluate : PassM Value} (h : p ∈ s.locked) :
    locking p evaluate s = (.ok (.error .circular), s) := if_pos h

lemma locking_of_not_mem {evaluate : PassM Value} (h : p ∉ s.locked) : locking p evaluate s =
    ((evaluate (s.lock p)).1, (evaluate (s.lock p)).2.unlock p) := if_neg h

/-- A formula with its placeholder followed, evaluated with its place locked. -/
def lockedResult (f : BoundFormula) : PassM Value :=
  locking (f.home p) (ExceptT.mk
    ((w.evaluation functions f (f.home p)).runWith (answers read)))

lemma block_eq (f : ArrayFormula) : block w functions read p.sheet f = (do
    match (← get).result? p (.array f) with
    | some v => return v
    | none =>
      let v ← lockedResult w functions read p (.array f)
      rememberBlock ((BoundFormula.array f).home p) v
      return v) := rfl

lemma formulaCell_array {tokens : List Token} {g : ArrayFormula}
    (h : w.instantiate p tokens = .ok (.array g)) : formulaCell w functions read p tokens =
      (do return g.part (← block w functions read p.sheet g) p.cell) := by
  unfold formulaCell
  rw [h]
  rfl

lemma formulaCell_of_ne {tokens : List Token} {f : BoundFormula}
    (h : w.instantiate p tokens = .ok f) (hf : ∀ g, f ≠ .array g) :
    formulaCell w functions read p tokens = lockedResult w functions read p f := by
  unfold formulaCell
  rw [h]
  cases f with
  | array g => exact absurd rfl (hf g)
  | plain tokens | shared tokens => rfl

/-- The value of a formula, remembered or evaluated. What is evaluated anew is remembered. -/
lemma formula_apply {tokens : List Token} {f : BoundFormula} (h : w.instantiate p tokens = .ok f) :
    (do
      let v ← formulaCell w functions read p tokens
      rememberCell p v
      return v : PassM Value) s =
    match s.result? p f with
    | some v => (.ok (f.shown p.cell v), s.rememberCell p (f.shown p.cell v))
    | none =>
      finish p f (lockedResult w functions read p f s).1 (lockedResult w functions read p f s).2 := by
  rw [bind_apply]
  cases f with
  | array g =>
    rw [formulaCell_array w functions read p h, bind_apply, block_eq, get_bind_apply]
    rcases s.result? p (.array g) with _ | v
    · dsimp only
      rw [bind_apply]
      rcases lockedResult w functions read p (.array g) s with ⟨_ | _, _⟩ <;> rfl
    · rfl
  | plain tokens | shared tokens =>
    rw [formulaCell_of_ne w functions read p h nofun]
    dsimp only [Pass.result?]
    rcases lockedResult w functions read p _ s with ⟨_ | _, _⟩ <;> rfl

/-- The evaluation of a formula at its place, which is locked, and what the pass has come to. -/
def evaluated (f : BoundFormula) (home : Place) (s : Pass) : Except EvalError Value × Pass :=
  (w.evaluation functions f home).runWith (answers read) (s.lock home)

/-- **One step.** -/
theorem step_apply : step w functions read p s = match course w p s with
    | .done r s => (r, s)
    | .evaluate f =>
      finish p f (evaluated w functions read f (f.home p) s).1
        ((evaluated w functions read f (f.home p) s).2.unlock (f.home p)) := by
  unfold step course Workbook.bound?
  rcases w.formula? p with _ | tokens
  · rfl
  dsimp only [Option.map_some]
  rw [get_bind_apply]
  rcases s.cells[p]? with _ | v
  · dsimp only
    rcases h : w.instantiate p tokens with e | f
    · unfold formulaCell
      rw [h, bind_apply, bind_apply, lift_apply]
    · rw [formula_apply w functions read p s h]
      dsimp only
      rcases s.result? p f with _ | v
      · dsimp only
        unfold lockedResult
        split_ifs with hl
        · rw [locking_of_mem _ _ hl]
          rfl
        · rw [locking_of_not_mem _ _ hl]
          rfl
      · rfl
  · rfl

lemma compute_succ (fuel : Nat) :
    compute w functions (fuel + 1) = step w functions (compute w functions fuel) := rfl

/-! ### What the course tells -/

variable {w functions read p s}

lemma course_eq_evaluate {f : BoundFormula} (h : course w p s = .evaluate f) :
    w.bound? p = some (.ok f) ∧ s.cells[p]? = none ∧ s.result? p f = none ∧
      f.home p ∉ s.locked := by
  unfold course at h
  split at h
  · cases h
  split at h
  · cases h
  split at h
  · cases h
  split at h
  · cases h
  split_ifs at h with hl
  cases h
  exact ⟨‹_›, ‹_›, ‹_›, hl⟩

/-- How a cell comes out without reading another one, and what the pass is afterwards. -/
inductive Immediate (w : Workbook) (p : Place) (s : Pass) : Except EvalError Value → Pass → Prop
  | constant (hb : w.bound? p = none) : Immediate w p s (.ok (w.cellValue p)) s
  | remembered {bound : Except EvalError BoundFormula} {v : Value} (hb : w.bound? p = some bound)
    (hv : s.cells[p]? = some v) : Immediate w p s (.ok v) s
  | failed {e : EvalError} (hb : w.bound? p = some (.error e)) (hnew : s.cells[p]? = none) :
    Immediate w p s (.error e) s
  | known {f : BoundFormula} {v : Value} (hb : w.bound? p = some (.ok f))
    (hnew : s.cells[p]? = none) (hv : s.result? p f = some v) :
    Immediate w p s (.ok (f.shown p.cell v)) (s.rememberCell p (f.shown p.cell v))
  | locked {f : BoundFormula} (hb : w.bound? p = some (.ok f)) (hnew : s.cells[p]? = none)
    (hl : f.home p ∈ s.locked) :
    Immediate w p s (.ok (f.shown p.cell (.error .circular))) (s.remember p f (.error .circular))

lemma Immediate.of_course {r : Except EvalError Value} {t : Pass}
    (h : course w p s = .done r t) : Immediate w p s r t := by
  unfold course at h
  split at h
  · cases h
    exact .constant ‹_›
  split at h
  · cases h
    exact .remembered ‹_› ‹_›
  split at h
  · cases h
    exact .failed ‹_› ‹_›
  split at h
  · cases h
    exact .known ‹_› ‹_› ‹_›
  split_ifs at h with hl
  cases h
  exact .locked ‹_› ‹_› hl

lemma locked_of_course {r : Except EvalError Value} {t : Pass} (h : course w p s = .done r t) :
    t.locked = s.locked := by
  cases Immediate.of_course h <;> rfl

lemma step_of_done {r : Except EvalError Value} {t : Pass} (h : course w p s = .done r t) :
    step w functions read p s = (r, t) := by
  rw [step_apply, h]

lemma step_of_evaluate {f : BoundFormula} (h : course w p s = .evaluate f) :
    step w functions read p s = finish p f (evaluated w functions read f (f.home p) s).1
      ((evaluated w functions read f (f.home p) s).2.unlock (f.home p)) := by
  rw [step_apply, h]

lemma locked_finish (p : Place) (f : BoundFormula) (r : Except EvalError Value) (s : Pass) :
    (finish p f r s).2.locked = s.locked := by
  cases r <;> rfl

/-! ### Locks -/

/-- Evaluations unlock what they lock. -/
lemma locked_step (hread : ∀ q t, (read q t).2.locked = t.locked) (p : Place) (s : Pass) :
    (step w functions read p s).2.locked = s.locked := by
  rcases h : course w p s with ⟨r, t⟩ | f
  · rw [step_of_done h]
    exact locked_of_course h
  · have hlocked : (evaluated w functions read f (f.home p) s).2.locked = f.home p :: s.locked :=
      Query.runWith_inv (I := fun t => t.locked = f.home p :: s.locked) rfl
        fun q t _ ht => (hread q t).trans ht
    rw [step_of_evaluate h, locked_finish, Pass.locked_unlock_of_cons hlocked]

lemma locked_compute (fuel : Nat) (p : Place) (s : Pass) :
    (compute w functions fuel p s).2.locked = s.locked := by
  induction fuel generalizing p s with
  | zero => rfl
  | succ fuel ih => exact locked_step ih p s

end Recalculation

end Spreadsheet
