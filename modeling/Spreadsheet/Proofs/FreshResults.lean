import Spreadsheet.Proofs.MirroredRecalculation
import Spreadsheet.Proofs.EditValues

/-!
A recalculation reads no result of an earlier one.

The results that a workbook keeps are the values of its formula cells, so a formula that reads such
a cell could see what the last recalculation has left there. It does not: the pass asks the workbook
itself only for the value of a cell without a formula, and computes all others. So the recalculation
depends on the contents of the workbook alone, and what it leaves is complete.
-/

namespace Spreadsheet

open Recalculation

namespace Workbook

/-- The workbook with the same contents, but with other results, which may be outdated or not. -/
def withResults (w : Workbook) (results : Std.HashMap Place Value) (dirty : Bool) : Workbook :=
  { w with results, dirty }

/-- A recalculation depends on the contents of the workbook only, and leaves a result for each of
its formulas. -/
structure RecalculatesAfresh (w : Workbook) (functions : Dispatcher) : Prop where
  /-- Failures and results are the same whatever results there were before. -/
  independent : ∀ results dirty,
    (w.withResults results dirty).recalculate functions = w.recalculate functions
  /-- A second recalculation reports the same and changes nothing. -/
  again : (w.recalculate functions).2.recalculate functions = w.recalculate functions
  /-- Each formula cell is reported once. It keeps its value, or else is among the failures. -/
  outcome : ∀ p, (w.formula? p).isSome → ∃ x,
    (∀ y, (p, y) ∈ w.reported functions w.formulaCells ↔ y = x) ∧
      (∀ e, (p, e) ∈ (w.recalculate functions).1 ↔ x = .error e) ∧
      (w.recalculate functions).2.results[p]? = some (valueOrFailure x)
  /-- A formula cell shows `#VALUE!` if it failed or came to just that. -/
  valueError : ∀ p, (w.formula? p).isSome →
    ((w.recalculate functions).2.results[p]? = some (.error .value) ↔
      (∃ e, (p, e) ∈ (w.recalculate functions).1) ∨
        (p, .ok (.error .value)) ∈ w.reported functions w.formulaCells)

variable {w : Workbook} {functions : Dispatcher} {p : Place} {results : Std.HashMap Place Value}
  {dirty : Bool} {s : Pass}

/-! ### What a pass reads -/

@[simp] lemma bound?_withResults (p : Place) :
    (w.withResults results dirty).bound? p = w.bound? p := rfl

lemma recalculate_eq_withResults (w : Workbook) (functions : Dispatcher) :
    (w.recalculate functions).2 =
      w.withResults (resultsOf (w.reported functions w.formulaCells)) false := rfl

/-- The value of a cell without a formula is no result. -/
lemma cellValue_withResults (hw : w.formulas.Coherent) (hb : w.bound? p = none) :
    (w.withResults results dirty).cellValue p = w.cellValue p := by
  have hp : w.formula? p = none := Option.map_eq_none_iff.mp hb
  rw [cellValue_of_formula?_eq_none hw hp]
  exact cellValue_of_formula?_eq_none (w := w.withResults results dirty) hw hp

end Workbook

namespace Recalculation

variable {w : Workbook} {functions : Dispatcher} {results : Std.HashMap Place Value} {dirty : Bool}

lemma course_withResults (hw : w.formulas.Coherent) (p : Place) (s : Pass) :
    course (w.withResults results dirty) p s = course w p s := by
  unfold course
  rw [Workbook.bound?_withResults]
  rcases hb : w.bound? p with _ | bound
  · simp only [Workbook.cellValue_withResults hw hb]
  · rfl

/-- A step of the recalculation reads no result. -/
lemma step_withResults (hw : w.formulas.Coherent) (read : Place → PassM Value) :
    step (w.withResults results dirty) functions read = step w functions read := by
  funext p s
  rw [step_apply, step_apply, course_withResults hw]
  rfl

lemma compute_withResults (hw : w.formulas.Coherent) (fuel : Nat) :
    compute (w.withResults results dirty) functions fuel = compute w functions fuel := by
  induction fuel with
  | zero => rfl
  | succ fuel ih => rw [compute_succ, compute_succ, step_withResults hw, ih]

end Recalculation

/-! ### What a recalculation leaves -/

namespace Workbook

variable {w : Workbook} {functions : Dispatcher} {p : Place} {results : Std.HashMap Place Value}
  {dirty : Bool} {x : Except EvalError Value}

lemma computedValue_withResults (hw : w.formulas.Coherent) :
    (w.withResults results dirty).computedValue functions = w.computedValue functions := by
  funext p
  exact congrArg (fun read : Place → PassM Value => Value.surfaced <$> read p)
    (compute_withResults hw w.nestingBound)

lemma recalculate_withResults (hw : w.formulas.Coherent) :
    (w.withResults results dirty).recalculate functions = w.recalculate functions := by
  have hall : (w.withResults results dirty).computeAll functions = w.computeAll functions := by
    unfold computeAll
    rw [computedValue_withResults hw]
    rfl
  unfold recalculate
  rw [hall]
  rfl

lemma map_fst_reported (w : Workbook) (functions : Dispatcher) :
    (w.reported functions w.formulaCells).map Prod.fst = w.formulaCells :=
  map_fst_mapM (fun p => (w.computedValue functions p).run) w.formulaCells {}

/-- Each formula cell has one outcome. -/
lemma exists_reported (hw : w.formulas.Coherent) (hp : (w.formula? p).isSome) :
    ∃ x, ∀ y, (p, y) ∈ w.reported functions w.formulaCells ↔ y = x := by
  have hmem : p ∈ (w.reported functions w.formulaCells).map Prod.fst := by
    rw [map_fst_reported]
    exact (mem_formulaCells hw).mpr hp
  obtain ⟨⟨q, x⟩, hx, rfl⟩ := List.mem_map.mp hmem
  have hnodup : ((w.reported functions w.formulaCells).map Prod.fst).Nodup := by
    rw [map_fst_reported]
    exact nodup_formulaCells hw
  refine ⟨x, fun y => ⟨fun hy => ?_, fun h => h ▸ hx⟩⟩
  exact congrArg Prod.snd (List.inj_on_of_nodup_map hnodup hy hx rfl)

/-- What has an outcome has a result. -/
lemma isSome_resultsOf {outcome : List (Place × Except EvalError Value)}
    (h : (p, x) ∈ outcome) : ((resultsOf outcome)[p]?).isSome := by
  have hfold : ∀ (outcome : List (Place × Except EvalError Value)) (m : Std.HashMap Place Value),
      (m[p]?).isSome ∨ (p, x) ∈ outcome →
        (outcome.foldl (fun m y => m.insert y.1 (valueOrFailure y.2)) m)[p]?.isSome := by
    intro outcome
    induction outcome with
    | nil => exact fun m hm => hm.resolve_right List.not_mem_nil
    | cons y outcome ih =>
      intro m hm
      refine ih _ ?_
      rw [Std.HashMap.getElem?_insert]
      rcases hm with hm | hm
      · split_ifs
        · exact .inl rfl
        · exact .inl hm
      · rcases List.mem_cons.mp hm with rfl | hm
        · rw [if_pos (beq_self_eq_true p)]
          exact .inl rfl
        · exact .inr hm
  exact hfold outcome ∅ (.inr h)

lemma results_recalculate (hx : ∀ y, (p, y) ∈ w.reported functions w.formulaCells ↔ y = x) :
    (w.recalculate functions).2.results[p]? = some (valueOrFailure x) := by
  rw [recalculate_eq_withResults]
  show (resultsOf _)[p]? = _
  obtain ⟨v, hv⟩ := Option.isSome_iff_exists.mp (isSome_resultsOf ((hx x).mpr rfl))
  obtain ⟨y, hy, rfl⟩ := exists_of_getElem?_resultsOf hv
  rw [hv, (hx y).mp hy]

lemma mem_failures_recalculate {e : EvalError} : (p, e) ∈ (w.recalculate functions).1 ↔
    (p, .error e) ∈ w.reported functions w.formulaCells := by
  rw [failures_recalculate, List.mem_filterMap]
  constructor
  · rintro ⟨⟨q, _ | e'⟩, hmem, hfailure⟩ <;> cases hfailure
    exact hmem
  · exact fun h => ⟨_, h, rfl⟩

lemma valueOrFailure_eq_value_iff :
    valueOrFailure x = .error .value ↔ (∃ e, .error e = x) ∨ .ok (.error .value) = x := by
  cases x with
  | ok v => simp [valueOrFailure, eq_comm]
  | error e => simp [valueOrFailure]

/-- **A recalculation never reads stale results**: it comes to the same failures and results
whatever was left in the workbook, and leaves a result for every formula cell. -/
theorem recalculatesAfresh (hw : w.Reachable) (functions : Dispatcher) :
    w.RecalculatesAfresh functions where
  independent _ _ := recalculate_withResults hw.coherent
  again := recalculate_withResults hw.coherent
  outcome p hp := by
    obtain ⟨x, hx⟩ := exists_reported hw.coherent hp
    exact ⟨x, hx, fun e => mem_failures_recalculate.trans ((hx _).trans eq_comm),
      results_recalculate hx⟩
  valueError p hp := by
    obtain ⟨x, hx⟩ : ∃ x, ∀ y, (p, y) ∈ w.reported functions w.formulaCells ↔ y = x :=
      exists_reported hw.coherent hp
    simp only [results_recalculate hx, Option.some_inj, valueOrFailure_eq_value_iff,
      mem_failures_recalculate, hx]

open OrderExample in
/-- A text that was left in a cell of a circle does not show again. -/
theorem recalculatesAfresh_closedCircle : closedCircle.Reachable ∧
    let left := (∅ : Std.HashMap Place Value).insert a2 (.text "x")
    ((closedCircle.withResults left true).recalculate Library.empty).2.results[a1]? =
      some (.error .value) := by
  have hw : closedCircle.Reachable := ⟨_, _, rfl⟩
  have hformula : (closedCircle.formula? a1).isSome :=
    Option.isSome_of_eq_some (formula?_closedCircle a1)
  have h := recalculatesAfresh hw Library.empty
  refine ⟨hw, ?_⟩
  intro left
  rw [h.independent, h.valueError a1 hformula]
  right
  exact (mem_reportedFrom_iff hw.coherent settles_closedCircle sound_empty rfl).mpr
    ⟨(mem_formulaCells hw.coherent).mpr hformula, rfl⟩

end Workbook

end Spreadsheet
