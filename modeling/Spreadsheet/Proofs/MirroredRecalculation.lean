import Spreadsheet.Proofs.MirroredFormulas
import Spreadsheet.Proofs.RequestOrder

/-!
Recalculations of workbooks whose cells are at other places.

A workbook mirrors another one if it holds the same constants and, but for the places that they
refer to, the same formulas at the images of the places. A pass over it then goes in step with a
pass over the other one: it has locked the images of the places that the other has locked, and
remembers the same values. This does not depend on whether formulas are circular.
-/

namespace Spreadsheet

open Query Recalculation

variable {σ : Place → Place} {w w' : Workbook} {functions : Dispatcher} {p : Place}
  {tokens tokens' : List Token}

/-! ### Workbooks -/

namespace Workbook

/-- Formulas that are no placeholders and mirror each other where they stand. -/
structure FormulaMirrors (σ : Place → Place) (w w' : Workbook) (p : Place)
    (tokens tokens' : List Token) : Prop where
  plain : placeholderAnchor? tokens = none
  tokens : List.Forall₂ (Token.Mirrors σ (w.site p) (w'.site (σ p))) tokens tokens'

/-- The second workbook holds at the images of places what the first one holds at the places. -/
structure Mirrors (σ : Place → Place) (w w' : Workbook) : Prop where
  injective : Function.Injective σ
  formula : ∀ p, Option.Rel (FormulaMirrors σ w w' p) (w.formula? p) (w'.formula? (σ p))
  constant : ∀ p, w.formula? p = none → w'.cellValue (σ p) = w.cellValue p
  site : ∀ p, (w.site p).Mirrors σ (w'.site (σ p))
  size : w'.formulas.records.size = w.formulas.records.size
  formulaCells : w'.formulaCells = w.formulaCells.map σ

/-- Only the first token counts. -/
lemma placeholderAnchor?_cons (t : Token) (ts ts' : List Token) :
    placeholderAnchor? (t :: ts) = placeholderAnchor? (t :: ts') := by
  cases t <;> rfl

lemma FormulaMirrors.plain' (h : FormulaMirrors σ w w' p tokens tokens') :
    placeholderAnchor? tokens' = none := by
  obtain ⟨hplain, htokens⟩ := h
  rcases htokens with _ | ⟨ht, _⟩
  · rfl
  · cases ht with
    | same => exact (placeholderAnchor?_cons _ _ _).trans hplain
    | ref | ref3d => rfl

lemma Mirrors.bound? (h : w.Mirrors σ w') (p : Place) :
    (w.bound? p = none ∧ w'.bound? (σ p) = none ∧ w'.cellValue (σ p) = w.cellValue p) ∨
      ∃ tokens tokens', w.bound? p = some (.ok (.plain tokens)) ∧
        w'.bound? (σ p) = some (.ok (.plain tokens')) ∧
        List.Forall₂ (Token.Mirrors σ (w.site p) (w'.site (σ p))) tokens tokens' := by
  have hformula := h.formula p
  rcases hp : w.formula? p with _ | tokens <;> rcases hp' : w'.formula? (σ p) with _ | tokens' <;>
    rw [hp, hp'] at hformula <;> cases hformula
  · exact Or.inl ⟨by rw [Workbook.bound?, hp]; rfl, by rw [Workbook.bound?, hp']; rfl,
      h.constant p hp⟩
  · rename_i hm
    exact Or.inr ⟨tokens, tokens', bound?_of_formula? hp hm.plain, bound?_of_formula? hp' hm.plain',
      hm.tokens⟩

end Workbook

/-! ### Passes -/

/-- The second pass has locked the images of the places that the first has locked, and remembers the
same values of cells. -/
structure Pass.Mirrors (σ : Place → Place) (s s' : Pass) : Prop where
  cells : ∀ p, s'.cells[σ p]? = s.cells[p]?
  locked : s'.locked = s.locked.map σ

namespace Pass.Mirrors

variable {s s' : Pass}

lemma lock (h : s.Mirrors σ s') (p : Place) : (s.lock p).Mirrors σ (s'.lock (σ p)) :=
  ⟨h.cells, congrArg (σ p :: ·) h.locked⟩

lemma unlock (hσ : Function.Injective σ) (h : s.Mirrors σ s') (p : Place) :
    (s.unlock p).Mirrors σ (s'.unlock (σ p)) := by
  refine ⟨h.cells, ?_⟩
  show s'.locked.erase (σ p) = (s.locked.erase p).map σ
  rw [h.locked, List.map_erase hσ]

lemma remember (hσ : Function.Injective σ) (h : s.Mirrors σ s') (p : Place) (v : Value) :
    (s.remember p (.plain tokens) v).Mirrors σ (s'.remember (σ p) (.plain tokens') v) := by
  refine ⟨fun q => ?_, h.locked⟩
  rw [getElem?_cells_remember, getElem?_cells_remember, h.cells]
  simp only [hσ.eq_iff]
  rfl

lemma mem_locked (hσ : Function.Injective σ) (h : s.Mirrors σ s') :
    σ p ∈ s'.locked ↔ p ∈ s.locked := by
  rw [h.locked, List.mem_map_of_injective hσ]

lemma finish (hσ : Function.Injective σ) (h : s.Mirrors σ s') (p : Place)
    (r : Except EvalError Value) :
    (Recalculation.finish (σ p) (.plain tokens') r s').1 =
        (Recalculation.finish p (.plain tokens) r s).1 ∧
      (Recalculation.finish p (.plain tokens) r s).2.Mirrors σ
        (Recalculation.finish (σ p) (.plain tokens') r s').2 := by
  cases r with
  | ok v => exact ⟨rfl, h.remember hσ p v⟩
  | error e => exact ⟨rfl, h⟩

end Pass.Mirrors

namespace Recalculation

variable {s s' : Pass}

/-- The course of a formula that is no placeholder. -/
lemma course_plain (h : w.bound? p = some (.ok (.plain tokens))) : course w p s =
    match s.cells[p]? with
    | some v => .done (.ok v) s
    | none =>
      if p ∈ s.locked then
        .done (.ok (.error .circular)) (s.remember p (.plain tokens) (.error .circular))
      else .evaluate (.plain tokens) := by
  rw [course, h]
  rfl

/-- One step keeps passes in step if the answers to its questions do. -/
lemma mirrors_step (hw : w.Mirrors σ w') (hf : functions.Mirrors σ)
    {read read' : Place → PassM Value}
    (hread : ∀ p s s', s.Mirrors σ s' → (read' (σ p) s').1 = (read p s).1 ∧
      (read p s).2.Mirrors σ (read' (σ p) s').2) (p : Place) (hs : s.Mirrors σ s') :
    (step w' functions read' (σ p) s').1 = (step w functions read p s).1 ∧
      (step w functions read p s).2.Mirrors σ (step w' functions read' (σ p) s').2 := by
  have hσ := hw.injective
  rw [step_apply, step_apply]
  rcases hw.bound? p with ⟨hb, hb', hv⟩ | ⟨tokens, tokens', hb, hb', ht⟩
  · simp only [course, hb, hb', hv, true_and]
    exact hs
  rw [course_plain hb, course_plain hb', hs.cells]
  rcases s.cells[p]? with _ | v
  swap
  · exact ⟨rfl, hs⟩
  simp only [hs.mem_locked hσ]
  split_ifs
  · exact ⟨rfl, hs.remember hσ p _⟩
  have hanswers : ∀ p s s', s.Mirrors σ s' → (answers read' (σ p) s').1 = (answers read p s).1 ∧
      (answers read p s).2.Mirrors σ (answers read' (σ p) s').2 := fun p s s' hs =>
    ⟨congrArg valueOrFailure (hread p s s' hs).1, (hread p s s' hs).2⟩
  obtain ⟨hr, hpass⟩ := Mirrors.runWith (mirrors_evaluate hσ hf (hw.site p) ht) (hs.lock p) hanswers
  have hr' : (evaluated w' functions read' (.plain tokens') (σ p) s').1 =
      (evaluated w functions read (.plain tokens) p s).1 := (alike_eq.mp hr).symm
  show (finish (σ p) _ (evaluated w' functions read' (.plain tokens') (σ p) s').1 _).1 = _ ∧
    Pass.Mirrors σ _ (finish (σ p) _ (evaluated w' functions read' (.plain tokens') (σ p) s').1 _).2
  rw [hr']
  exact (hpass.unlock hσ p).finish hσ p _

/-- **Passes over workbooks that mirror each other go in step.** -/
theorem mirrors_compute (hw : w.Mirrors σ w') (hf : functions.Mirrors σ) (fuel : Nat) (p : Place)
    (s s' : Pass) (hs : s.Mirrors σ s') :
    (compute w' functions fuel (σ p) s').1 = (compute w functions fuel p s).1 ∧
      (compute w functions fuel p s).2.Mirrors σ (compute w' functions fuel (σ p) s').2 := by
  induction fuel generalizing p s s' with
  | zero => exact ⟨rfl, hs⟩
  | succ fuel ih => exact mirrors_step hw hf ih p hs

end Recalculation

namespace Workbook

/-! ### Recalculation -/

lemma mirrors_reportedFrom (hw : w.Mirrors σ w') (hf : functions.Mirrors σ) (cells : List Place)
    {s s' : Pass} (hs : s.Mirrors σ s') :
    (w'.reportedFrom functions (cells.map σ) s').1 =
      (w.reportedFrom functions cells s).1.map fun x => (σ x.1, x.2) := by
  induction cells generalizing s s' with
  | nil => rfl
  | cons p cells ih =>
    have hfuel : w'.nestingBound = w.nestingBound := congrArg (· + 1) hw.size
    obtain ⟨hr, hpass⟩ := mirrors_compute hw hf w.nestingBound p s s' hs
    rw [List.map_cons, reportedFrom_cons, reportedFrom_cons]
    unfold Workbook.compute
    rw [hfuel, hr, List.map_cons, ih hpass]

lemma getElem?_resultsOf_map (hσ : Function.Injective σ)
    (outcome : List (Place × Except EvalError Value)) (p : Place) :
    (resultsOf (outcome.map fun x => (σ x.1, x.2)))[σ p]? = (resultsOf outcome)[p]? := by
  have hfold : ∀ m m' : Std.HashMap Place Value, (∀ p, m'[σ p]? = m[p]?) →
      ((outcome.map fun x => (σ x.1, x.2)).foldl
        (fun results x => results.insert x.1 (valueOrFailure x.2)) m')[σ p]? =
      (outcome.foldl (fun results x => results.insert x.1 (valueOrFailure x.2)) m)[p]? := by
    induction outcome with
    | nil => exact fun _ _ hm => hm p
    | cons x outcome ih =>
      intro m m' hm
      refine ih _ _ fun q => ?_
      rw [Std.HashMap.getElem?_insert, Std.HashMap.getElem?_insert, hm]
      simp only [beq_iff_eq, hσ.eq_iff]
  exact hfold ∅ ∅ fun _ => by rw [Std.HashMap.getElem?_empty, Std.HashMap.getElem?_empty]

/-- The failure of an outcome, with its place. -/
def failure? (x : Place × Except EvalError Value) : Option (Place × EvalError) :=
  match x.2 with
  | .ok _ => none
  | .error e => some (x.1, e)

lemma failures_recalculate (w : Workbook) (functions : Dispatcher) :
    (w.recalculate functions).1 = (w.reported functions w.formulaCells).filterMap failure? := rfl

/-- **Workbooks that mirror each other come to the same results**, at places and at their images. -/
theorem mirrors_recalculate (hw : w.Mirrors σ w') (hf : functions.Mirrors σ) :
    (w'.recalculate functions).1 = (w.recalculate functions).1.map (fun x => (σ x.1, x.2)) ∧
      ∀ p, (w.formula? p).isSome →
        (w'.recalculate functions).2.cellValue (σ p) = (w.recalculate functions).2.cellValue p := by
  have hreported : w'.reported functions w'.formulaCells =
      (w.reported functions w.formulaCells).map fun x => (σ x.1, x.2) := by
    rw [hw.formulaCells]
    exact mirrors_reportedFrom hw hf _ ⟨fun _ => by simp, rfl⟩
  constructor
  · rw [failures_recalculate, failures_recalculate, hreported, List.filterMap_map,
      List.map_filterMap]
    refine List.filterMap_congr fun x _ => ?_
    rcases x with ⟨p, _ | _⟩ <;> rfl
  · intro p hp
    have hp' : (w'.formula? (σ p)).isSome := by
      obtain ⟨tokens, htokens⟩ := Option.isSome_iff_exists.mp hp
      have hformula := hw.formula p
      rw [htokens] at hformula
      cases h : w'.formula? (σ p) with
      | some => rfl
      | none =>
        rw [h] at hformula
        cases hformula
    rw [cellValue_recalculate hp, cellValue_recalculate hp', hreported,
      getElem?_resultsOf_map hw.injective]

end Workbook

end Spreadsheet
