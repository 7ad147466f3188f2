import Spreadsheet.Proofs.CircleFree
import Spreadsheet.Proofs.RuleWorkbook

/-!
Workbooks without circles.

If the cells can be ranked such that each evaluation asks only for constants and for formulas of
lower rank, then every cell settles. A full recalculation then reports a fixpoint: each formula has
the result that it has for the values of all other cells, and no other values are of this kind. The
error of a circle is among them only if it is stored somewhere.
-/

namespace Spreadsheet

open Recalculation

namespace Workbook

/-- The values that formulas see when each cell is computed in a pass of its own. -/
def computedValues (w : Workbook) (functions : Dispatcher) : Place → Value :=
  seen fun p => (w.compute functions p {}).1

/-- Each evaluation asks only for constants and for formulas of lower rank. It is enough that it
does so when it reads the computed values. -/
def Ranked (w : Workbook) (functions : Dispatcher) (rank : Place → Nat) : Prop :=
  ∀ p f, w.bound? p = some (.ok f) →
    ∀ q ∈ (w.evaluation functions f (f.home p)).asked (w.computedValues functions),
      (w.formula? q).isSome → rank q < rank p

/-- The error of a circle is stored nowhere in the workbook. -/
structure CircleFree (w : Workbook) : Prop where
  formulas : ∀ id r, w.formulas.get? id = some r → ∀ t ∈ r.tokens, t.CircleFree
  names : ∀ n : DefinedName, n ∈ w.names → ∀ t ∈ n.body, t.CircleFree
  linkedNames : ∀ (link : UInt16) names, w.linkedNames[link]? = some names →
    ∀ n : LinkedName, n ∈ names → ∀ tokens, n.body = some tokens → ∀ t ∈ tokens, t.CircleFree
  constants : ∀ s : Sheet, s ∈ w.sheets → ∀ (c : Cell) v, s.constants[c]? = some v → v.CircleFree

/-- What a recalculation finds in a workbook without circles. -/
structure AtFixpoint (w : Workbook) (functions : Dispatcher) : Prop where
  /-- Every cell comes to the result of its formula, which reads the computed values, whatever
  was asked for before. -/
  fixed : ∀ before p, (w.compute functions p (w.reportedFrom functions before {}).2).1 =
    w.result functions (w.computedValues functions) p
  /-- These are the only values that are the results of the formulas which read them. -/
  unique : ∀ values, (∀ p, values p = valueOrFailure (w.result functions values p)) →
    values = w.computedValues functions
  /-- A full recalculation reports the results of all formulas as readers see them. -/
  reports : ∀ before, ((w.computeAll functions).run (w.reportedFrom functions before {}).2).1 =
    w.formulaCells.map fun p =>
      (p, Value.surfaced <$> w.result functions (w.computedValues functions) p)
  formulaCells : ∀ p, p ∈ w.formulaCells ↔ (w.formula? p).isSome
  /-- No result holds the error of a circle unless it is stored, or a function makes it. Those of
  the library do not. -/
  circleFree : functions.CircleFree → w.CircleFree → ∀ p v,
    (w.compute functions p {}).1 = .ok v → v.CircleFree

variable {w : Workbook} {functions : Dispatcher} {rank : Place → Nat} {p : Place}
  {f : BoundFormula} {s : Pass}

/-! ### Formula cells -/

lemma mem_formulaPlaces : p ∈ w.formulaPlaces ↔
    ∃ id r, w.formulas.get? id = some r ∧ r.key = ⟨.cell, p⟩ := by
  simp only [formulaPlaces, List.mem_filterMap, Prod.exists, FormulaStore.mem_toList]
  refine exists_congr fun id => exists_congr fun r => and_congr_right fun _ => ?_
  rcases r with ⟨sheet, ⟨c, tokens⟩ | f | f⟩ <;>
    simp [FormulaRecord.key, FormulaBody.kind, FormulaRecord.place, FormulaRecord.position,
      FormulaBody.position]

lemma mem_formulaCells (hw : w.formulas.Coherent) :
    p ∈ w.formulaCells ↔ (w.formula? p).isSome := by
  rw [formulaCells, List.mem_mergeSort, mem_formulaPlaces, formula?_eq, Option.isSome_map,
    Option.isSome_iff_exists]
  simp only [FormulaStore.find?_eq_some_iff hw]
  exact exists_comm

/-! ### All cells settle -/

lemma exists_settles_all {results : Place → Except EvalError Value} {cells : List Place}
    (h : ∀ a ∈ cells, ∃ n, w.Settles functions n a (results a)) :
    ∃ n, ∀ a ∈ cells, w.Settles functions n a (results a) := by
  induction cells with
  | nil => exact ⟨0, nofun⟩
  | cons a cells ih =>
    rw [List.forall_mem_cons] at h
    obtain ⟨n, hn⟩ := h.1
    obtain ⟨m, hm⟩ := ih h.2
    exact ⟨max n m, List.forall_mem_cons.mpr
      ⟨hn.mono (le_max_left n m), fun a ha => (hm a ha).mono (le_max_right n m)⟩⟩

/-- A cell that settles does so on what it comes out with in a pass of its own. -/
lemma Settles.compute (hw : w.formulas.Coherent) {n : Nat} {r : Except EvalError Value}
    (h : w.Settles functions n p r) : w.Settles functions n p (w.compute functions p {}).1 := by
  rwa [(compute_of_settles hw h sound_empty (quiet_of_unlocked rfl)).1]

/-- **Without circles all cells settle**, each after those that its formula asks for. -/
theorem Ranked.settles (hrank : w.Ranked functions rank) (hanchors : w.AnchorsKept)
    (hw : w.formulas.Coherent) (p : Place) :
    ∃ n, w.Settles functions n p (w.compute functions p {}).1 := by
  induction hk : rank p using Nat.strongRecOn generalizing p with
  | ind k ih =>
  rcases hb : w.bound? p with _ | e | f
  · exact ⟨0, Settles.compute hw (.constant hb)⟩
  · exact ⟨0, Settles.compute hw (.unbound hb)⟩
  have hall : ∀ a ∈ (w.evaluation functions f (f.home p)).asked (w.computedValues functions),
      ∃ n, w.Settles functions n a (w.compute functions a {}).1 := by
    intro a ha
    by_cases hformula : (w.formula? a).isSome
    · exact ih _ (hk ▸ hrank p f hb a ha hformula) a rfl
    · exact ⟨0, Settles.compute hw (.constant (bound?_eq_none_iff.mpr hformula))⟩
  obtain ⟨n, hasked⟩ := exists_settles_all hall
  refine ⟨n + 1, Settles.compute hw (.formula hb _ fun q g hg he a ha => hasked a ?_)⟩
  obtain rfl := hanchors.eq_of_home_eq hw hb hg he
  exact ha

/-! ### The fixpoint -/

/-- If all cells settle, then they are reported with their results. -/
lemma reportedFrom_eq_map (hw : w.formulas.Coherent)
    (h : ∀ p, ∃ n, w.Settles functions n p (w.compute functions p {}).1) (cells : List Place)
    (hs : Sound w functions s) (hl : s.locked = []) :
    (w.reportedFrom functions cells s).1 =
        cells.map (fun p => (p, Value.surfaced <$> (w.compute functions p {}).1)) ∧
      Sound w functions (w.reportedFrom functions cells s).2 ∧
      (w.reportedFrom functions cells s).2.locked = [] := by
  induction cells generalizing s with
  | nil => exact ⟨rfl, hs, hl⟩
  | cons p cells ih =>
    obtain ⟨n, hp⟩ := h p
    obtain ⟨hresult, hsound⟩ := compute_of_settles hw hp hs (quiet_of_unlocked hl)
    obtain ⟨hrest, hend⟩ := ih hsound ((locked_compute w.nestingBound p s).trans hl)
    rw [reportedFrom_cons]
    refine ⟨?_, hend⟩
    rw [List.map_cons, ← hrest, hresult]

lemma result_of_constant (h : ¬(w.formula? p).isSome) (values : Place → Value) :
    w.result functions values p = .ok (w.cellValue p) := by
  rw [result, bound?_eq_none_iff.mpr h]

/-- Values that agree on the formulas of lower rank give a formula one result. -/
lemma Ranked.result_eq (hrank : w.Ranked functions rank) {values : Place → Value}
    (hconstant : ∀ q, ¬(w.formula? q).isSome → values q = w.computedValues functions q)
    (hlower : ∀ q, rank q < rank p → values q = w.computedValues functions q) :
    w.result functions values p = w.result functions (w.computedValues functions) p := by
  unfold result
  rcases hb : w.bound? p with _ | e | f
  · rfl
  · rfl
  refine congrArg (f.shown p.cell <$> ·) (Query.eval_congr fun a ha _ => ?_).2
  by_cases hformula : (w.formula? a).isSome
  · exact hlower a (hrank p f hb a ha hformula)
  · exact hconstant a hformula

/-- Only one assignment of values is the result of the formulas that read it. -/
theorem Ranked.unique (hrank : w.Ranked functions rank)
    (hfixed : ∀ p, (w.compute functions p {}).1 =
      w.result functions (w.computedValues functions) p) {values : Place → Value}
    (h : ∀ p, values p = valueOrFailure (w.result functions values p)) :
    values = w.computedValues functions := by
  have hvalue : ∀ {p}, w.result functions values p =
      w.result functions (w.computedValues functions) p →
        values p = w.computedValues functions p := by
    intro p he
    rw [h p, he, ← hfixed p]
    rfl
  have hconstant : ∀ q, ¬(w.formula? q).isSome → values q = w.computedValues functions q :=
    fun q hq => hvalue ((result_of_constant hq _).trans (result_of_constant hq _).symm)
  funext p
  induction hk : rank p using Nat.strongRecOn generalizing p with
  | ind k ih => exact hvalue (hrank.result_eq hconstant fun q hq => ih _ (hk ▸ hq) q rfl)

/-! ### The error of a circle -/

lemma CircleFree.allowsBook (h : w.CircleFree) : ValueRule.circleFree.AllowsBook w where
  formulas id r hr t ht := ValueRule.allowsToken_circleFree (h.formulas id r hr t ht)
  names n hn t ht := ValueRule.allowsToken_circleFree (h.names n hn t ht)
  linkedNames link names hnames n hn tokens hbody t ht :=
    ValueRule.allowsToken_circleFree (h.linkedNames link names hnames n hn tokens hbody t ht)
  constants := h.constants

/-- No result is circular unless the error is stored. -/
theorem Ranked.circleFree (hrank : w.Ranked functions rank) (hw : w.formulas.Coherent)
    (hfixed : ∀ p, (w.compute functions p {}).1 =
      w.result functions (w.computedValues functions) p)
    (hf : functions.CircleFree) (h : w.CircleFree) {v : Value}
    (hv : (w.compute functions p {}).1 = .ok v) : v.CircleFree := by
  have hR : ValueRule.circleFree.Closed w.settings.maxArrayCells := ValueRule.closed_circleFree
  have hbook : ValueRule.circleFree.AllowsBook w := h.allowsBook
  have hkept : ValueRule.circleFree.Kept w.settings.maxArrayCells functions :=
    ValueRule.kept_circleFree hf
  induction hk : rank p using Nat.strongRecOn generalizing p v with
  | ind k ih =>
  have hresult := hfixed p
  rw [hv, result] at hresult
  rcases hb : w.bound? p with _ | e | f
  · rw [hb] at hresult
    exact Except.ok.inj hresult ▸ hbook.cellValue hR hw (bound?_eq_none_iff.mp hb)
  · rw [hb] at hresult
    cases hresult
  have hread : ∀ a ∈ (w.evaluation functions f (f.home p)).asked (w.computedValues functions),
      (w.computedValues functions a).CircleFree := by
    intro a ha
    rcases hu : (w.compute functions a {}).1 with e | u
    · rw [computedValues, seen, hu]
      exact .scalar nofun
    · rw [computedValues, seen, hu]
      by_cases hformula : (w.formula? a).isSome
      · exact ih _ (hk ▸ hrank p f hb a ha hformula) hu rfl
      · rw [hfixed a, result_of_constant hformula] at hu
        exact Except.ok.inj hu ▸ hbook.cellValue hR hw hformula
  have houtcome := (hbook.agree_evaluation hR hw hkept hb (f.home p)).ensures.eval hread
  rw [hb] at hresult
  dsimp only at hresult
  rcases hx : (w.evaluation functions f (f.home p)).eval (w.computedValues functions) with e | u
  · rw [hx] at hresult
    cases hresult
  · rw [hx] at hresult houtcome
    exact Except.ok.inj hresult ▸ ValueRule.element_shown hR p.cell houtcome

/-- **Recalculation of a workbook without circles finds the fixpoint of its formulas.** -/
theorem atFixpoint_of_ranked (hw : w.Reachable) (hanchors : w.AnchorsKept)
    (hrank : w.Ranked functions rank) : w.AtFixpoint functions := by
  have hsettles := hrank.settles hanchors hw.coherent
  have hfixed : ∀ p, (w.compute functions p {}).1 =
      w.result functions (w.computedValues functions) p := by
    intro p
    obtain ⟨n, hp⟩ := hsettles p
    refine hp.eq_result fun q m r hq => ?_
    rw [computedValues, seen,
      (compute_of_settles hw.coherent hq sound_empty (quiet_of_unlocked rfl)).1]
  have hafter : ∀ before, Sound w functions (w.reportedFrom functions before {}).2 ∧
      (w.reportedFrom functions before {}).2.locked = [] := fun before =>
    (reportedFrom_eq_map hw.coherent hsettles before sound_empty rfl).2
  refine ⟨fun before p => ?_, fun values => hrank.unique hfixed, fun before => ?_,
    fun p => mem_formulaCells hw.coherent, fun hf h p v => hrank.circleFree hw.coherent hfixed hf h⟩
  · obtain ⟨hsound, hlocked⟩ := hafter before
    obtain ⟨n, hp⟩ := hsettles p
    rw [(compute_of_settles hw.coherent hp hsound (quiet_of_unlocked hlocked)).1, hfixed]
  · obtain ⟨hsound, hlocked⟩ := hafter before
    rw [computeAll_eq]
    simp only [← hfixed]
    exact (reportedFrom_eq_map hw.coherent hsettles w.formulaCells hsound hlocked).1

namespace FixpointExample

open OrderExample

/-- An array block at A1:A2, and B1, which shows A2. -/
def chain : Workbook := (empty {}).run [.addSheet "Sheet1",
  .setArray 0 columnBlock.range columnBlock.tokens, .setFormula b1 showA2]

lemma coherent_chain : chain.formulas.Coherent := Reachable.coherent ⟨_, _, rfl⟩

lemma find?_chain (key : FormulaKey) : chain.formulas.find? key =
    if ⟨.cell, b1⟩ = key then some ⟨0, .cell ⟨0, 1⟩ showA2⟩ else blockOnly.formulas.find? key :=
  find?_setFormula coherent_blockOnly b1 showA2 key

/-- Wherever the formula that shows A2 is entered, all other formulas are those of the block. -/
lemma bound?_showA2 {q p : Place} {f : BoundFormula}
    (h : (blockOnly.setFormula q showA2).2.bound? p = some (.ok f)) :
    p = q ∧ f = .plain showA2 ∨ f = .array columnBlock := by
  rcases eq_or_ne p q with rfl | hp
  · rw [bound?, formula?_setFormula coherent_blockOnly, if_pos rfl] at h
    cases h
    exact Or.inl ⟨rfl, rfl⟩
  · refine Or.inr ?_
    by_cases hblock : p = a1 ∨ p = a2
    · rw [bound?_setFormula_blockOnly hblock hp.symm] at h
      cases h
      rfl
    · rw [not_or] at hblock
      rw [bound?, formula?_setFormula coherent_blockOnly, if_neg hp.symm, formula?_eq,
        find?_blockOnly, if_neg (by simp), if_neg (by simpa using Ne.symm hblock.2),
        if_neg (by simpa using Ne.symm hblock.1)] at h
      cases h

lemma anchorsKept_chain : chain.AnchorsKept := by
  intro p f h
  rw [FormulaStore.arrayAt?_eq_some_iff coherent_chain, find?_chain, if_neg (by simp),
    find?_blockOnly] at h
  rcases eq_or_ne p a1 with rfl | hp
  · rw [formula?_eq, find?_chain, if_neg (by decide), find?_blockOnly]
    rfl
  · rw [if_neg (by simpa using hp.symm), if_neg (by simp), if_neg (by simp)] at h
    cases h

lemma ranked_chain (functions : Dispatcher) :
    chain.Ranked functions fun p => if p = b1 then 1 else 0 := by
  intro p f hb q hq _
  obtain ⟨rfl, rfl⟩ | rfl := bound?_showA2 (q := b1) hb
  · obtain rfl : q = a2 := List.mem_singleton.mp hq
    decide
  · exact absurd hq List.not_mem_nil

lemma circleFree_showA2 (c : Cell) : (blockOnly.setFormula ⟨0, c⟩ showA2).2.CircleFree where
  formulas id r h := by
    have hw := coherent_setFormula coherent_blockOnly ⟨0, c⟩ showA2
    have hfind := (FormulaStore.find?_eq_some_iff hw).mpr ⟨id, h, rfl⟩
    rw [find?_setFormula coherent_blockOnly, find?_blockOnly] at hfind
    split_ifs at hfind <;> cases hfind <;> exact List.forall_mem_singleton.mpr trivial
  names := nofun
  linkedNames link names h := by
    have hempty : (blockOnly.setFormula ⟨0, c⟩ showA2).2.linkedNames = ∅ := rfl
    simp [hempty] at h
  constants s hs d v h := by
    have hsheets : (blockOnly.setFormula ⟨0, c⟩ showA2).2.sheets = #[⟨"Sheet1",
      ((∅ : Std.HashMap Cell Value).erase ⟨0, 0⟩ |>.erase ⟨1, 0⟩ |>.erase c)⟩] := rfl
    rw [hsheets, List.mem_toArray, List.mem_singleton] at hs
    subst hs
    simp at h

lemma circleFree_chain : chain.CircleFree := circleFree_showA2 ⟨0, 1⟩

end FixpointExample

open FixpointExample in
theorem atFixpoint_of_ranked_chain :
    chain.Reachable ∧ chain.AnchorsKept ∧
      chain.Ranked Library.basic (fun p => if p = OrderExample.b1 then 1 else 0) ∧
      chain.AtFixpoint Library.basic ∧
      ∀ p v, (chain.compute Library.basic p {}).1 = .ok v → v.CircleFree := by
  have hw : chain.Reachable := ⟨_, _, rfl⟩
  have hfixpoint : chain.AtFixpoint Library.basic :=
    atFixpoint_of_ranked hw anchorsKept_chain (ranked_chain _)
  exact ⟨hw, anchorsKept_chain, ranked_chain _, hfixpoint,
    hfixpoint.circleFree Library.circleFree_basic circleFree_chain⟩

end Workbook

end Spreadsheet
