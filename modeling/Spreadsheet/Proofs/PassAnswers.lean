import Spreadsheet.Proofs.CircleChain

/-!
What a pass has answered once, it answers again.

A pass is asked for a cell, for a formula cell or for all formulas, in any order and any number of
times. Between these requests it holds no lock, and it remembers the value of each formula that it
came to. A cell that depends on itself is remembered as circular on the way, but only while its own
evaluation goes on, and an evaluation starts only if nothing is remembered for its cell. So nothing
that a pass has answered is taken back later.
-/

namespace Spreadsheet

open Recalculation

/-- What a pass can be asked for. -/
inductive Request
  | value (p : Place)
  /-- The value of a cell that has to hold a formula. -/
  | formulaValue (p : Place)
  /-- The values of all formula cells. -/
  | all

namespace Workbook

/-- The cells that a request asks for, each with the answer. -/
def answer (w : Workbook) (functions : Dispatcher) :
    Request → StateM Pass (List (Place × Except EvalError Value))
  | .value p => do return [(p, ← (w.computedValue functions p).run)]
  | .formulaValue p => do return [(p, ← (w.formulaValue functions p).run)]
  | .all => w.computeAll functions

/-- A new pass after some requests. -/
def passAfter (w : Workbook) (functions : Dispatcher) (requests : List Request) : Pass :=
  requests.foldl (fun s request => (w.answer functions request s).2) {}

end Workbook

/-! ### What is remembered stays -/

namespace Pass

/-- What the first pass remembers of cells, the second one remembers as well. -/
def KeptIn (s t : Pass) : Prop :=
  ∀ (p : Place) (v : Value), s.cells[p]? = some v → t.cells[p]? = some v

variable {s t u : Pass} {p : Place} {v : Value} {w : Workbook}

lemma KeptIn.refl (s : Pass) : s.KeptIn s := fun _ _ h => h

lemma KeptIn.trans (h : s.KeptIn t) (h' : t.KeptIn u) : s.KeptIn u :=
  fun p v hv => h' p v (h p v hv)

/-- A cell of which nothing was remembered may be remembered in any way. -/
lemma KeptIn.rememberCell (h : s.KeptIn t) (hp : s.cells[p]? = none) (v : Value) :
    s.KeptIn (t.rememberCell p v) := by
  intro q u hq
  have hne : p ≠ q := by
    rintro rfl
    rw [hp] at hq
    cases hq
  rw [getElem?_cells_rememberCell, if_neg hne]
  exact h q u hq

lemma KeptIn.remember (h : s.KeptIn t) (hp : s.cells[p]? = none) (f : BoundFormula) (v : Value) :
    s.KeptIn (t.remember p f v) :=
  h.rememberCell hp (f.shown p.cell v)

lemma KeptIn.finish (h : s.KeptIn t) (hp : s.cells[p]? = none) (f : BoundFormula)
    (r : Except EvalError Value) : s.KeptIn (Recalculation.finish p f r t).2 := by
  cases r with
  | ok v => exact h.remember hp f v
  | error e => exact h

/-- The value of a cell is settled for the rest of the pass: it is remembered, or a constant. -/
def Knows (w : Workbook) (s : Pass) (p : Place) (v : Value) : Prop :=
  if (w.bound? p).isSome then s.cells[p]? = some v else v = w.cellValue p

lemma knows_of_bound? (h : (w.bound? p).isSome) : s.Knows w p v ↔ s.cells[p]? = some v :=
  iff_of_eq (if_pos h)

lemma knows_constant (h : w.bound? p = none) : s.Knows w p (w.cellValue p) := by
  rw [Knows, h]
  rfl

lemma Knows.mono (h : s.Knows w p v) (ht : s.KeptIn t) : t.Knows w p v := by
  unfold Knows at h ⊢
  split_ifs at h ⊢
  · exact ht p v h
  · exact h

end Pass

namespace Recalculation

variable {w : Workbook} {functions : Dispatcher} {read : Place → PassM Value} {p : Place}
  {s t : Pass} {v : Value}

lemma keptIn_of_course {r : Except EvalError Value} (h : course w p s = .done r t) :
    s.KeptIn t := by
  cases Immediate.of_course h with
  | constant | remembered | failed => exact .refl s
  | known _ hnew => exact (Pass.KeptIn.refl s).rememberCell hnew _
  | locked _ hnew => exact (Pass.KeptIn.refl s).remember hnew _ _

/-- A step takes nothing back if the answers to its questions do not. -/
lemma keptIn_step (hread : ∀ q (t : Pass), t.KeptIn (read q t).2) (p : Place) (s : Pass) :
    s.KeptIn (step w functions read p s).2 := by
  rcases h : course w p s with ⟨r, t⟩ | f
  · rw [step_of_done h]
    exact keptIn_of_course h
  · obtain ⟨-, hnew, -, -⟩ := course_eq_evaluate h
    have hkept : s.KeptIn (evaluated w functions read f (f.home p) s).2 :=
      Query.runWith_inv (I := s.KeptIn) (Pass.KeptIn.refl s) fun q t _ ht => ht.trans (hread q t)
    rw [step_of_evaluate h]
    exact Pass.KeptIn.finish (t := Pass.unlock _ _) hkept hnew f _

lemma keptIn_compute (fuel : Nat) (p : Place) (s : Pass) :
    s.KeptIn (compute w functions fuel p s).2 := by
  induction fuel generalizing p s with
  | zero => exact .refl s
  | succ fuel ih => exact keptIn_step ih p s

/-- What a step comes to is settled from then on. -/
lemma knows_step (h : (step w functions read p s).1 = .ok v) :
    (step w functions read p s).2.Knows w p v := by
  rcases hc : course w p s with ⟨r, t⟩ | f
  · rw [step_of_done hc] at h ⊢
    obtain rfl : r = .ok v := h
    cases Immediate.of_course hc with
    | constant hb => exact Pass.knows_constant hb
    | remembered hb hv => exact (Pass.knows_of_bound? (by rw [hb]; rfl)).mpr hv
    | known hb | locked hb => exact (Pass.knows_of_bound? (by rw [hb]; rfl)).mpr (by simp)
  · obtain ⟨hb, -⟩ := course_eq_evaluate hc
    rw [step_of_evaluate hc] at h ⊢
    rcases hr : (evaluated w functions read f (f.home p) s).1 with e | u
    · rw [hr] at h
      cases h
    · rw [hr] at h
      cases h
      exact (Pass.knows_of_bound? (by rw [hb]; rfl)).mpr (by simp [finish])

lemma step_of_knows (h : s.Knows w p v) : step w functions read p s = (.ok v, s) := by
  have hcourse : course w p s = .done (.ok v) s := by
    unfold Pass.Knows at h
    rcases hb : w.bound? p with _ | bound
    · rw [hb] at h
      obtain rfl : v = w.cellValue p := h
      simp only [course, hb]
    · rw [hb] at h
      have hv : s.cells[p]? = some v := h
      simp only [course, hb, hv]
  exact step_of_done hcourse

end Recalculation

/-! ### Requests -/

namespace Workbook

variable {w : Workbook} {functions : Dispatcher} {p : Place} {s : Pass} {v : Value}
  {x : Except EvalError Value}

lemma compute_eq_step_compute (w : Workbook) (functions : Dispatcher) : w.compute functions =
    step w functions (Recalculation.compute w functions w.formulas.records.size) := rfl

lemma answer_value (w : Workbook) (functions : Dispatcher) (p : Place) :
    w.answer functions (.value p) = w.reportedFrom functions [p] := rfl

lemma answer_formulaValue (w : Workbook) (functions : Dispatcher) (p : Place) (s : Pass) :
    w.answer functions (.formulaValue p) s =
      if (w.formula? p).isSome then w.answer functions (.value p) s
      else ([(p, .error (.noFormula p.sheet p.cell))], s) := by
  show (do return [(p, ← (w.formulaValue functions p).run)] : StateM Pass _) s = _
  unfold formulaValue
  split_ifs with h
  · rfl
  · rfl

/-- A request asks for cells one after the other, or is refused because there is no formula. -/
lemma answer_cases (w : Workbook) (functions : Dispatcher) (request : Request) (s : Pass) :
    (∃ cells, w.answer functions request s = w.reportedFrom functions cells s) ∨
      ∃ p, request = .formulaValue p ∧ w.formula? p = none ∧
        w.answer functions request s = ([(p, .error (.noFormula p.sheet p.cell))], s) := by
  cases request with
  | value p => exact .inl ⟨[p], rfl⟩
  | formulaValue p =>
    rw [answer_formulaValue]
    split_ifs with h
    · exact .inl ⟨[p], rfl⟩
    · exact .inr ⟨p, rfl, Option.not_isSome_iff_eq_none.mp h, rfl⟩
  | all => exact .inl ⟨w.formulaCells, rfl⟩

lemma keptIn_reportedFrom (cells : List Place) (s : Pass) :
    s.KeptIn (w.reportedFrom functions cells s).2 := by
  induction cells generalizing s with
  | nil => exact .refl s
  | cons p cells ih =>
    rw [reportedFrom_cons]
    exact (keptIn_compute w.nestingBound p s).trans (ih _)

lemma knows_of_mem_reportedFrom {cells : List Place}
    (h : (p, .ok v) ∈ (w.reportedFrom functions cells s).1) :
    ∃ u, (w.reportedFrom functions cells s).2.Knows w p u ∧ v = u.surfaced := by
  induction cells generalizing s with
  | nil => cases h
  | cons q cells ih =>
    rw [reportedFrom_cons] at h ⊢
    rcases List.mem_cons.mp h with hhead | htail
    · obtain ⟨rfl, hv⟩ := Prod.mk.inj hhead
      rcases hr : (w.compute functions p s).1 with e | u
      · rw [hr] at hv
        cases hv
      · rw [hr] at hv
        cases hv
        exact ⟨u, (knows_step hr).mono (keptIn_reportedFrom cells _), rfl⟩
    · exact ih htail

lemma eq_of_mem_reportedFrom (hs : s.Knows w p v) {cells : List Place}
    (h : (p, x) ∈ (w.reportedFrom functions cells s).1) : x = .ok v.surfaced := by
  induction cells generalizing s with
  | nil => cases h
  | cons q cells ih =>
    rw [reportedFrom_cons] at h
    rcases List.mem_cons.mp h with hhead | htail
    · obtain ⟨rfl, rfl⟩ := Prod.mk.inj hhead
      rw [compute_eq_step_compute, step_of_knows hs]
      rfl
    · exact ih (hs.mono (keptIn_compute w.nestingBound q s)) htail

section
variable (request : Request)

/-- A request leaves no lock behind and takes nothing back, and what it answers is settled. -/
lemma answer_spec (s : Pass) :
    (w.answer functions request s).2.locked = s.locked ∧
      s.KeptIn (w.answer functions request s).2 ∧
      ∀ p v, (p, .ok v) ∈ (w.answer functions request s).1 →
        ∃ u, (w.answer functions request s).2.Knows w p u ∧ v = u.surfaced := by
  rcases w.answer_cases functions request s with ⟨cells, h⟩ | ⟨p, -, -, h⟩ <;> rw [h]
  · exact ⟨locked_reportedFrom cells s, keptIn_reportedFrom cells s,
      fun p v => knows_of_mem_reportedFrom⟩
  · refine ⟨rfl, .refl s, fun q v hq => ?_⟩
    cases List.mem_singleton.mp hq

lemma answer_of_knows (hs : s.Knows w p v) (h : (p, x) ∈ (w.answer functions request s).1) :
    x = .ok v.surfaced ∨ request = .formulaValue p ∧ w.formula? p = none ∧
      x = .error (.noFormula p.sheet p.cell) := by
  rcases w.answer_cases functions request s with ⟨cells, he⟩ | ⟨q, rfl, hq, he⟩ <;> rw [he] at h
  · exact .inl (eq_of_mem_reportedFrom hs h)
  · cases List.mem_singleton.mp h
    exact .inr ⟨rfl, hq, rfl⟩

end

lemma passAfter_concat (requests : List Request) (request : Request) :
    w.passAfter functions (requests ++ [request]) =
      (w.answer functions request (w.passAfter functions requests)).2 := by
  rw [passAfter, List.foldl_append]
  rfl

lemma locked_passAfter (requests : List Request) :
    (w.passAfter functions requests).locked = [] := by
  induction requests using List.reverseRecOn with
  | nil => rfl
  | append_singleton requests request ih =>
    rw [passAfter_concat]
    exact ((answer_spec request _).1).trans ih

lemma keptIn_passAfter (requests later : List Request) :
    (w.passAfter functions requests).KeptIn (w.passAfter functions (requests ++ later)) := by
  induction later using List.reverseRecOn with
  | nil =>
    rw [List.append_nil]
    exact .refl _
  | append_singleton later request ih =>
    rw [← List.append_assoc, passAfter_concat]
    exact ih.trans (answer_spec request _).2.1

/-- **Between requests a pass holds no lock, and what it has answered it answers again.** Only the
request for the value of a formula is refused, then as before, if the cell holds none. -/
theorem answer_again (w : Workbook) (functions : Dispatcher) (earlier : List Request) :
    (w.passAfter functions earlier).locked = [] ∧
      ∀ (request : Request) (p : Place) (v : Value),
        (p, .ok v) ∈ (w.answer functions request (w.passAfter functions earlier)).1 →
        ∀ (later : List Request) (again : Request) (x : Except EvalError Value),
          (p, x) ∈ (w.answer functions again
            (w.passAfter functions (earlier ++ request :: later))).1 →
          x = .ok v ∨ again = .formulaValue p ∧ w.formula? p = none ∧
            x = .error (.noFormula p.sheet p.cell) := by
  refine ⟨locked_passAfter earlier, fun request p v h later again x hx => ?_⟩
  obtain ⟨u, hu, rfl⟩ := (answer_spec request _).2.2 p v h
  rw [← passAfter_concat] at hu
  have hlater : (w.passAfter functions (earlier ++ [request])).KeptIn
      (w.passAfter functions (earlier ++ request :: later)) := by
    simpa using keptIn_passAfter (earlier ++ [request]) later
  exact answer_of_knows again (hu.mono hlater) hx

open OrderExample in
/-- Two cells that show each other are answered alike by every request, also among all formulas. -/
theorem answer_again_closedCircle :
    (closedCircle.passAfter Library.empty [.value a1, .all]).locked = [] ∧
      (closedCircle.answer Library.empty (.value a1) {}).1 = [(a1, .ok (.error .value))] ∧
      (closedCircle.answer Library.empty (.formulaValue a1)
        (closedCircle.passAfter Library.empty [.value a1, .all])).1 =
          [(a1, .ok (.error .value))] := by
  have hw : closedCircle.formulas.Coherent := Reachable.coherent ⟨_, _, rfl⟩
  have hformula : closedCircle.formula? a1 = some showA2 := formula?_closedCircle a1
  have hfirst : (closedCircle.answer Library.empty (.value a1) {}).1 =
      [(a1, .ok (.error .value))] := by
    rw [answer_value, reportedFrom_cons,
      (compute_of_settles hw settles_closedCircle sound_empty (quiet_of_unlocked rfl)).1]
    rfl
  have hagain : ∀ s : Pass, ∃ x,
      (closedCircle.answer Library.empty (.formulaValue a1) s).1 = [(a1, x)] := by
    intro s
    rw [answer_formulaValue, hformula, if_pos Option.isSome_some, answer_value, reportedFrom_cons]
    exact ⟨_, rfl⟩
  refine ⟨(answer_again closedCircle Library.empty [.value a1, .all]).1, hfirst, ?_⟩
  obtain ⟨x, hx⟩ := hagain (closedCircle.passAfter Library.empty [.value a1, .all])
  have hmem : (a1, .ok (.error .value)) ∈ (closedCircle.answer Library.empty (.value a1)
      (closedCircle.passAfter Library.empty [])).1 := by
    rw [show closedCircle.passAfter Library.empty [] = {} from rfl, hfirst]
    exact List.mem_cons_self
  rcases (answer_again closedCircle Library.empty []).2 (.value a1) a1 _ hmem [.all]
    (.formulaValue a1) x (hx ▸ List.mem_cons_self) with rfl | ⟨-, hnone, -⟩
  · exact hx
  · rw [hformula] at hnone
    cases hnone

open OrderExample in
/-- A1 holds a constant. -/
def constantOnly : Workbook := (empty {}).run [.addSheet "Sheet1", .setValue a1 (.bool true)]

open OrderExample in
lemma formula?_constantOnly : constantOnly.formula? a1 = none := by
  have hno : ((empty {}).addSheet "Sheet1").2.formulas.cellFormula? a1 = none := by
    simp [FormulaStore.cellFormula?, addSheet, empty, FormulaStore.empty]
  have hstore : constantOnly.formulas = FormulaStore.empty ({} : Settings).limits := by
    show (((empty {}).addSheet "Sheet1").2.setValue a1 (.bool true)).formulas = _
    rw [formulas_setValue, hno]
    rfl
  rw [formula?_eq, hstore, FormulaStore.find?_empty]
  rfl

open OrderExample in
/-- A constant has a value, but no value of a formula. -/
theorem not_answer_again_constantOnly : constantOnly.Reachable ∧
    ¬∀ (request : Request) (p : Place) (v : Value),
      (p, .ok v) ∈ (constantOnly.answer Library.empty request
        (constantOnly.passAfter Library.empty [])).1 →
      ∀ (later : List Request) (again : Request) (x : Except EvalError Value),
        (p, x) ∈ (constantOnly.answer Library.empty again
          (constantOnly.passAfter Library.empty (request :: later))).1 → x = .ok v := by
  refine ⟨⟨_, _, rfl⟩, fun h => ?_⟩
  have hbound : constantOnly.bound? a1 = none := by
    rw [bound?, formula?_constantOnly]
    rfl
  have hvalue : (a1, .ok (constantOnly.cellValue a1).surfaced) ∈
      (constantOnly.answer Library.empty (.value a1)
        (constantOnly.passAfter Library.empty [])).1 := by
    rw [answer_value, reportedFrom_cons, compute_eq_step_compute,
      step_of_knows (Pass.knows_constant hbound)]
    exact List.mem_cons_self
  have hrefused : (a1, .error (.noFormula a1.sheet a1.cell)) ∈
      (constantOnly.answer Library.empty (.formulaValue a1)
        (constantOnly.passAfter Library.empty [.value a1])).1 := by
    rw [answer_formulaValue, formula?_constantOnly]
    exact List.mem_cons_self
  have hsame := h (.value a1) a1 _ hvalue [] (.formulaValue a1) _ hrefused
  cases hsame

end Workbook

end Spreadsheet
