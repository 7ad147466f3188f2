import Mathlib.Logic.Relation
import Spreadsheet.Proofs.RequestOrder
import Spreadsheet.Proofs.StrictFormulas

/-!
Circles of strict formulas.

In a workbook of strict formulas, a formula that leads to a circle of references is never reported
as a number. Each of them refers to another one that leads to the circle, so the pass remembers an
error for all of them: the first error is that of a place which is locked, and from there each
evaluation hands an error to the one that asked. Whatever was asked for before does not matter, as
what is remembered meanwhile is an error as well.
-/

namespace Spreadsheet

open Recalculation Relation

namespace Workbook

/-- A formula refers to a cell that holds a formula. -/
def RefersTo (w : Workbook) (p q : Place) : Prop :=
  ∃ tokens cls a, w.formula? p = some tokens ∧ .ref cls a ∈ tokens ∧ q = ⟨p.sheet, a.cell⟩ ∧
    (w.formula? q).isSome

/-- A circle of references can be reached from a cell. -/
def LeadsToCircle (w : Workbook) (p : Place) : Prop :=
  ∃ q, ReflTransGen w.RefersTo p q ∧ TransGen w.RefersTo q q

/-- All formulas are of numbers, single cells, arithmetic and signs. -/
def Strict (w : Workbook) : Prop := ∀ p tokens, w.formula? p = some tokens → ∀ t ∈ tokens, t.Strict

/-- No constant is an array without elements, or holds one. -/
def SolidConstants (w : Workbook) : Prop := ∀ p, w.formula? p = none → (w.cellValue p).Solid

variable {w : Workbook} {p : Place}

/-- A formula that leads to a circle refers to another one that does. -/
lemma LeadsToCircle.exists_refersTo (h : w.LeadsToCircle p) :
    ∃ q, w.RefersTo p q ∧ w.LeadsToCircle q := by
  obtain ⟨c, hpath, hcircle⟩ := h
  rcases hpath.cases_head with rfl | ⟨q, hrefers, hrest⟩
  · obtain ⟨q, hrefers, hrest⟩ := TransGen.head'_iff.mp hcircle
    exact ⟨q, hrefers, p, hrest, hcircle⟩
  · exact ⟨q, hrefers, c, hrest, hcircle⟩

lemma LeadsToCircle.isSome (h : w.LeadsToCircle p) : (w.formula? p).isSome := by
  obtain ⟨q, ⟨tokens, _, _, hp, -⟩, -⟩ := h.exists_refersTo
  simp [hp]

lemma LeadsToCircle.refersInto (h : w.LeadsToCircle p) {tokens : List Token}
    (hp : w.formula? p = some tokens) : ∃ t ∈ tokens, t.RefersInto w.LeadsToCircle p := by
  obtain ⟨q, ⟨tokens', cls, a, hp', hmem, rfl, -⟩, hq⟩ := h.exists_refersTo
  obtain rfl := Option.some.inj (hp.symm.trans hp')
  exact ⟨_, hmem, cls, a, rfl, hq⟩

/-- No formula of the workbook is a placeholder. -/
lemma Strict.eq_plain (h : w.Strict) {f : BoundFormula} (hb : w.bound? p = some (.ok f)) :
    ∃ tokens, w.formula? p = some tokens ∧ f = .plain tokens := by
  obtain ⟨tokens, hp, hf⟩ := Option.map_eq_some_iff.mp hb
  have hanchor : placeholderAnchor? tokens = none := by
    unfold placeholderAnchor?
    split
    · exact (h p _ hp _ List.mem_cons_self).elim
    · rfl
  rw [instantiate, hanchor] at hf
  exact ⟨tokens, hp, (Except.ok.inj hf).symm⟩

end Workbook

namespace Recalculation

variable {w : Workbook} {functions : Dispatcher} {p : Place} {s t : Pass}
  {v : Value}

/-- Of the cells that lead to a circle, errors are remembered. -/
def FailsInCircle (w : Workbook) (s : Pass) : Prop :=
  ∀ p v, s.cells[p]? = some v → FailsAt w.LeadsToCircle p v

/-- A cell comes out as may be read there, and leaves such a pass. -/
abbrev FailsInCircleEnd (w : Workbook) (p : Place) (x : Except EvalError Value × Pass) : Prop :=
  Query.Outcome (fun _ => True) (FailsAt w.LeadsToCircle p) x.1 ∧ FailsInCircle w x.2

lemma failsAt_error (S : Place → Prop) (p : Place) (e : CellError) : FailsAt S p (.error e) :=
  ⟨.scalar _, fun _ => rfl⟩

lemma failsInCircle_empty : FailsInCircle w {} := fun p v h => by simp at h

lemma FailsInCircle.remember (hs : FailsInCircle w s) {tokens : List Token}
    (hv : FailsAt w.LeadsToCircle p v) : FailsInCircle w (s.remember p (.plain tokens) v) := by
  intro q u hu
  rw [Pass.getElem?_cells_remember] at hu
  split_ifs at hu with hpq
  · cases hu
    exact hpq ▸ hv
  · exact hs q u hu

lemma failsInCircleEnd_finish {tokens : List Token} {r : Except EvalError Value}
    (hr : Query.Outcome (fun _ => True) (FailsAt w.LeadsToCircle p) r) (hs : FailsInCircle w s) :
    FailsInCircleEnd w p (finish p (.plain tokens) r s) := by
  cases r with
  | ok v => exact ⟨hr, hs.remember hr⟩
  | error e => exact ⟨trivial, hs⟩

variable (hstrict : w.Strict) (hsolid : w.SolidConstants)
include hstrict

/-- A cell that is computed without reading another one. -/
lemma failsInCircleEnd_of_course (hsolid : w.SolidConstants) {r : Except EvalError Value}
    (hs : FailsInCircle w s) (hc : course w p s = .done r t) : FailsInCircleEnd w p (r, t) := by
  cases Immediate.of_course hc with
  | constant hb =>
    have hp : w.formula? p = none := Option.map_eq_none_iff.mp hb
    refine ⟨⟨hsolid p hp, fun h => ?_⟩, hs⟩
    have hsome := h.isSome
    rw [hp] at hsome
    cases hsome
  | remembered hb hv => exact ⟨hs p _ hv, hs⟩
  | failed => exact ⟨trivial, hs⟩
  | known hb hnew hv =>
    -- Only array blocks have a result apart from their cells.
    obtain ⟨tokens, -, rfl⟩ := hstrict.eq_plain hb
    cases hv
  | locked hb =>
    obtain ⟨tokens, -, rfl⟩ := hstrict.eq_plain hb
    exact ⟨failsAt_error _ p _, hs.remember (failsAt_error _ p _)⟩

/-- The evaluation of a formula by a reader that answers as may be read. -/
lemma failsInCircleEnd_evaluated {tokens : List Token} (hp : w.formula? p = some tokens)
    {read : Place → PassM Value}
    (hread : ∀ q t, FailsInCircle w t → FailsInCircleEnd w q (read q t)) (hs : FailsInCircle w s) :
    FailsInCircleEnd w p (evaluated w functions read (.plain tokens) p s) := by
  have hevaluation : Evaluate.ComesToAt w.LeadsToCircle (FailsAt w.LeadsToCircle p)
      (evaluate functions (w.site p) tokens) :=
    (reachesAt_evaluate (hstrict p tokens hp)).mono fun v hv =>
      ⟨hv.1, fun h => hv.2 (h.refersInto hp)⟩
  exact hevaluation.runWith (I := FailsInCircle w) (s := s.lock p) hs fun q t _ ht =>
    ⟨valueOrFailure_of_outcome (hread q t ht).1 (failsAt_error _ q _), (hread q t ht).2⟩

include hsolid

/-- One step keeps what is remembered if its reader does. -/
lemma failsInCircleEnd_step {read : Place → PassM Value}
    (hread : ∀ q t, FailsInCircle w t → FailsInCircleEnd w q (read q t)) (hs : FailsInCircle w s) :
    FailsInCircleEnd w p (step w functions read p s) := by
  rcases hc : course w p s with ⟨r, t⟩ | f
  · rw [step_of_done hc]
    exact failsInCircleEnd_of_course hstrict hsolid hs hc
  · obtain ⟨tokens, hp, rfl⟩ := hstrict.eq_plain (course_eq_evaluate hc).1
    have hend : FailsInCircleEnd w p (evaluated w functions read (.plain tokens) p s) :=
      failsInCircleEnd_evaluated hstrict hp hread hs
    rw [step_of_evaluate hc]
    exact failsInCircleEnd_finish hend.1 hend.2

/-- **Whatever is computed, errors are remembered of the cells that lead to a circle.** -/
theorem failsInCircleEnd_compute (fuel : Nat) (p : Place) (hs : FailsInCircle w s) :
    FailsInCircleEnd w p (compute w functions fuel p s) := by
  induction fuel generalizing p s with
  | zero => exact ⟨failsAt_error _ p _, hs⟩
  | succ fuel ih => exact failsInCircleEnd_step hstrict hsolid (fun q t ht => ih q ht) hs

lemma failsInCircle_reportedFrom (before : List Place) (hs : FailsInCircle w s) :
    FailsInCircle w (w.reportedFrom functions before s).2 := by
  induction before generalizing s with
  | nil => exact hs
  | cons p before ih =>
    rw [Workbook.reportedFrom_cons]
    exact ih (failsInCircleEnd_compute hstrict hsolid _ p hs).2

end Recalculation

namespace Workbook

variable {w : Workbook} {functions : Dispatcher} {p : Place}

/-- A cell is reported as an error, or its formula fails. -/
def ReportsFailure : Except EvalError Value → Prop :=
  Query.Outcome (fun _ => True) fun v => v.isError

lemma isError_surfaced {v : Value} (h : v.isError) : v.surfaced.isError := by
  cases v with
  | scalar s =>
    cases s with
    | error e => rfl
    | number | text | bool | blank => cases h
  | array rows cols values => cases h

/-- **Circles of strict formulas come out as errors**, whatever was asked for before. -/
theorem reportsFailure_of_leadsToCircle (hstrict : w.Strict) (hsolid : w.SolidConstants)
    (hp : w.LeadsToCircle p) (before : List Place) :
    ReportsFailure (w.computedValue functions p (w.reportedFrom functions before {}).2).1 := by
  have hpass : FailsInCircle w (w.reportedFrom functions before {}).2 :=
    failsInCircle_reportedFrom hstrict hsolid before failsInCircle_empty
  have hend : FailsInCircleEnd w p
      (w.compute functions p (w.reportedFrom functions before {}).2) :=
    failsInCircleEnd_compute hstrict hsolid w.nestingBound p hpass
  have houtcome := hend.1
  rw [computedValue_apply]
  rcases hx : (w.compute functions p (w.reportedFrom functions before {}).2).1 with e | v
  · trivial
  · rw [hx] at houtcome
    exact isError_surfaced (houtcome.2 hp)

namespace StrictExample

open OrderExample

lemma strict_closedCircle : closedCircle.Strict := by
  intro p tokens h
  rw [formula?_closedCircle] at h
  split_ifs at h <;> cases h <;> simp [showA1, showA2, Token.Strict]

lemma solidConstants_closedCircle : closedCircle.SolidConstants := by
  intro p hp
  have hw : closedCircle.formulas.Coherent := Reachable.coherent ⟨_, _, rfl⟩
  have hsheets : closedCircle.sheets =
    #[⟨"Sheet1", ((∅ : Std.HashMap Cell Value).erase ⟨0, 0⟩).erase ⟨1, 0⟩⟩] := rfl
  have hnone : ((closedCircle.sheets[p.sheet]?).bind fun s => s.constants[p.cell]?) = none := by
    refine Option.bind_eq_none_iff.mpr fun sheet hsheet => ?_
    rw [hsheets] at hsheet
    obtain rfl := Array.mem_singleton.mp (Array.mem_of_getElem? hsheet)
    simp
  rw [cellValue_of_formula?_eq_none hw hp, hnone]
  exact .scalar _

lemma leadsToCircle_closedCircle : closedCircle.LeadsToCircle a1 := by
  have ha1 : closedCircle.formula? a1 = some showA2 := formula?_closedCircle a1
  have ha2 : closedCircle.formula? a2 = some showA1 := formula?_closedCircle a2
  have hto : closedCircle.RefersTo a1 a2 :=
    ⟨showA2, _, _, ha1, List.mem_cons_self, rfl, Option.isSome_of_eq_some ha2⟩
  have hback : closedCircle.RefersTo a2 a1 :=
    ⟨showA1, _, _, ha2, List.mem_cons_self, rfl, Option.isSome_of_eq_some ha1⟩
  exact ⟨a1, .refl, .head hto (.single hback)⟩

end StrictExample

open OrderExample StrictExample in
/-- A1 and A2 show each other, and A2 is asked for first. -/
theorem reportsFailure_of_leadsToCircle_closedCircle :
    closedCircle.Strict ∧ closedCircle.SolidConstants ∧ closedCircle.LeadsToCircle a1 ∧
      ReportsFailure (closedCircle.computedValue Library.empty a1
        (closedCircle.reportedFrom Library.empty [a2] {}).2).1 :=
  ⟨strict_closedCircle, solidConstants_closedCircle, leadsToCircle_closedCircle,
    reportsFailure_of_leadsToCircle strict_closedCircle solidConstants_closedCircle
      leadsToCircle_closedCircle [a2]⟩

namespace StrictExample

open OrderExample

def c1 : Place := ⟨0, 0, 2⟩

/-- A1 and B1 added up. -/
def addA1B1 : List Token :=
  [.ref .value ⟨0, 0, true, true⟩, .ref .value ⟨0, 1, true, true⟩, .binary .add]

def minusB1 : List Token := [.ref .value ⟨0, 1, true, true⟩, .unary .minus]

/-- A1 holds an array without elements, B1 adds itself to it, and C1 is the negative of B1. -/
def emptyArray : Workbook := (empty {}).run [.addSheet "Sheet1", .setValue a1 (.array 0 0 []),
  .setFormula b1 addA1B1, .setFormula c1 minusB1]

lemma coherent_emptyArray : emptyArray.formulas.Coherent := Reachable.coherent ⟨_, _, rfl⟩

/-- The constant is stored in an empty cell. -/
lemma setValue_emptyArray : let w := ((empty {}).addSheet "Sheet1").2.setValue a1 (.array 0 0 [])
    w.settings = {} ∧ w.formulas = .empty ({} : Settings).limits ∧
      w.sheets = #[⟨"Sheet1", (∅ : Std.HashMap Cell Value).insert ⟨0, 0⟩ (.array 0 0 [])⟩] := by
  have hno : ((empty {}).addSheet "Sheet1").2.formulas.cellFormula? a1 = none := by
    simp [FormulaStore.cellFormula?, addSheet, empty, FormulaStore.empty]
  unfold setValue
  rw [hno]
  exact ⟨rfl, rfl, rfl⟩

lemma formula?_emptyArray (p : Place) : emptyArray.formula? p =
    if c1 = p then some minusB1 else if b1 = p then some addA1B1 else none := by
  let w₀ := (empty {}).run [.addSheet "Sheet1", .setValue a1 (.array 0 0 [])]
  let w₁ := (w₀.setFormula b1 addA1B1).2
  have h₀ : w₀.formulas.Coherent := Reachable.coherent ⟨_, _, rfl⟩
  have h₁ : w₁.formulas.Coherent := coherent_setFormula h₀ _ _
  have hw : emptyArray = (w₁.setFormula c1 minusB1).2 := rfl
  have hnone : w₀.formula? p = none := by
    rw [formula?_eq, show w₀.formulas = _ from setValue_emptyArray.2.1, FormulaStore.find?_empty]
    rfl
  rw [hw, formula?_setFormula h₁, formula?_setFormula h₀, hnone]

lemma strict_emptyArray : emptyArray.Strict := by
  intro p tokens h
  rw [formula?_emptyArray] at h
  split_ifs at h <;> cases h <;>
    simp [addA1B1, minusB1, Token.Strict, BinaryOp.isArithmetic]

lemma leadsToCircle_c1 : emptyArray.LeadsToCircle c1 := by
  have hb1 : (emptyArray.formula? b1).isSome :=
    Option.isSome_of_eq_some (formula?_emptyArray b1)
  exact ⟨b1, .single ⟨minusB1, _, _, formula?_emptyArray c1, List.mem_cons_self, rfl, hb1⟩,
    .single ⟨addA1B1, _, _, formula?_emptyArray b1, .tail _ (.head _), rfl, hb1⟩⟩

lemma sheets_setFormula (w : Workbook) (p : Place) (tokens : List Token) :
    (w.setFormula p tokens).2.sheets =
      w.sheets.modify p.sheet fun s => { s with constants := s.constants.erase p.cell } := rfl

lemma settings_emptyArray : emptyArray.settings = {} := setValue_emptyArray.1

lemma cellValue_emptyArray : emptyArray.cellValue a1 = .array 0 0 [] := by
  have hw : emptyArray = (((((empty {}).addSheet "Sheet1").2.setValue a1
    (.array 0 0 [])).setFormula b1 addA1B1).2.setFormula c1 minusB1).2 := rfl
  rw [cellValue_of_formula?_eq_none coherent_emptyArray (formula?_emptyArray a1), hw,
    sheets_setFormula, sheets_setFormula, setValue_emptyArray.2.2]
  simp [a1, b1, c1]

lemma compute_a1_emptyArray (s : Pass) :
    emptyArray.compute Library.empty a1 s = (.ok (.array 0 0 []), s) := by
  have hb : emptyArray.bound? a1 = none := by
    rw [bound?, formula?_emptyArray]
    rfl
  rw [compute_of_done coherent_emptyArray (r := .ok (emptyArray.cellValue a1)) (t := s)
    (by simp only [course, hb]), cellValue_emptyArray]

/-- B1 comes out blank: in an array without elements there is no place for the error. -/
lemma compute_c1_emptyArray :
    (emptyArray.compute Library.empty c1 {}).1 = .ok (.number (-0)) := by
  have hb1 : emptyArray.bound? b1 = some (.ok (.plain addA1B1)) := by
    rw [bound?, formula?_emptyArray]
    rfl
  have hc1 : emptyArray.bound? c1 = some (.ok (.plain minusB1)) := by
    rw [bound?, formula?_emptyArray]
    rfl
  let s₁ := ({} : Pass).lock c1
  let s₂ := (s₁.lock b1).remember b1 (.plain addA1B1) (.error .circular)
  let s₃ := (s₂.unlock b1).remember b1 (.plain addA1B1) .blank
  have hcircular : emptyArray.compute Library.empty b1 (s₁.lock b1) =
      (.ok (.error .circular), s₂) :=
    compute_of_locked coherent_emptyArray hb1 (by simp [s₁]) rfl (by decide)
  have hblank : emptyArray.compute Library.empty b1 s₁ = (.ok .blank, s₃) := by
    have hquery : emptyArray.evaluation Library.empty (.plain addA1B1) b1 =
      Query.ask a1 fun v => Query.ask b1 fun u => .answer (.ok
        (Value.broadcast (Evaluate.binaryElement .add emptyArray.settings.epsilon) v u).first) := by
      show (evaluate Library.empty (emptyArray.site b1) addA1B1).run = _
      rw [site, settings_emptyArray]
      rfl
    rw [compute_of_free coherent_emptyArray hb1 (by simp [s₁]) rfl (by decide), evaluated]
    simp only [BoundFormula.home, hquery, Query.runWith_ask, answers_apply, compute_a1_emptyArray,
      valueOrFailure, hcircular]
    rfl
  have hquery : emptyArray.evaluation Library.empty (.plain minusB1) c1 =
    Query.ask b1 fun v => .answer (.ok (v.mapElements (Evaluate.unaryElement .minus)).first) := by
    show (evaluate Library.empty (emptyArray.site c1) minusB1).run = _
    rw [site, settings_emptyArray]
    rfl
  rw [compute_of_free coherent_emptyArray hc1 (by simp) rfl (by decide), evaluated]
  simp only [BoundFormula.home, hquery, Query.runWith_ask, answers_apply]
  rw [show ({} : Pass).lock c1 = s₁ from rfl, hblank]
  rfl

end StrictExample

open OrderExample StrictExample in
/-- **A circle of strict formulas may come out as a number**, as there is an array without
elements. -/
theorem circle_reported_as_number :
    emptyArray.Reachable ∧ emptyArray.Strict ∧ emptyArray.LeadsToCircle c1 ∧
      (emptyArray.computedValue Library.empty c1 {}).1 = .ok (.number (-0)) ∧
      ¬ReportsFailure (emptyArray.computedValue Library.empty c1 {}).1 := by
  have hvalue : (emptyArray.computedValue Library.empty c1 {}).1 = .ok (.number (-0)) := by
    rw [computedValue_apply, compute_c1_emptyArray]
    rfl
  refine ⟨⟨_, _, rfl⟩, strict_emptyArray, leadsToCircle_c1, hvalue, ?_⟩
  rw [hvalue]
  exact Bool.false_ne_true

end Workbook

end Spreadsheet
