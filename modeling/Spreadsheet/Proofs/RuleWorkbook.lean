import Mathlib.Data.List.Induction
import Mathlib.Tactic.Set
import Spreadsheet.Proofs.RequestOrder
import Spreadsheet.Proofs.RuleRun
import Spreadsheet.Proofs.StoredContent

/-!
Recalculations that keep to a rule for values.

A workbook whose constants and tokens hold only values that a rule allows is recalculated to such
values. What a pass remembers carries the argument: each cell that it computes comes to a value that
may stand in a cell, and each array block to an allowed one, while the pass remembers nothing else.
The error of a circle has to be allowed if places are locked.
-/

namespace Spreadsheet

open Recalculation Query

namespace ValueRule

/-- The rule allows all constants and whatever values are written into tokens. -/
abbrev AllowsBook (R : ValueRule) (w : Workbook) : Prop :=
  w.StoresOnly (R.AllowsToken w.settings.maxArrayCells) R.element

/-- The rule allows the results of all formulas in any workbook that it allows. -/
structure Recalculable (R : ValueRule) (maxCells : Nat) : Prop extends R.Closed maxCells where
  circular : R.scalar (.error .circular)
  surfaced : ∀ {v}, R.element v → R.element v.surfaced

end ValueRule

namespace Workbook

variable {w : Workbook} {p : Place}

lemma mem_of_numbered {α : Type} {xs : Array α} {i : UInt16} {x : α}
    (h : numbered xs i = some x) : x ∈ xs := by
  unfold numbered at h
  split_ifs at h
  exact Array.mem_of_getElem? h

lemma bound?_eq_none_iff : w.bound? p = none ↔ ¬(w.formula? p).isSome := by
  simp [bound?]

lemma exists_get?_of_sharedAt? {q : Place} {g : SharedFormula}
    (h : w.formulas.sharedAt? q = some g) :
    ∃ id r, w.formulas.get? id = some r ∧ r.tokens = g.tokens := by
  obtain ⟨id, -, h⟩ := Option.bind_eq_some_iff.mp h
  obtain ⟨r, hr, h⟩ := Option.bind_eq_some_iff.mp h
  refine ⟨id, r, hr, ?_⟩
  split at h
  · rename_i hbody
    cases h
    rw [FormulaRecord.tokens, hbody]
    rfl
  · cases h

lemma exists_get?_of_arrayAt? (hw : w.formulas.Coherent) {q : Place} {g : ArrayFormula}
    (h : w.formulas.arrayAt? q = some g) :
    ∃ id r, w.formulas.get? id = some r ∧ r.tokens = g.tokens := by
  obtain ⟨id, hid, -⟩ := (FormulaStore.find?_eq_some_iff hw).mp
    ((FormulaStore.arrayAt?_eq_some_iff hw).mp h)
  exact ⟨id, _, hid, rfl⟩

end Workbook

namespace ValueRule

variable {R : ValueRule} {w : Workbook} {functions functions' : Dispatcher} {p : Place}
  {f : BoundFormula} {v : Value} {s t : Pass}

/-! ### What is stored -/

namespace AllowsBook

variable (h : R.AllowsBook w)
include h

lemma allowsNames : R.AllowsNames w.settings.maxArrayCells w.surroundings where
  definedNames hn := h.names _ (Workbook.mem_of_numbered hn)
  linkedNames {link i n tokens} hn hbody := by
    obtain ⟨names, hnames, hi⟩ := Option.bind_eq_some_iff.mp hn
    exact h.linkedNames link names hnames n (Workbook.mem_of_numbered hi) tokens hbody

omit h in
lemma allowsToken_bindTo {maxCells : Nat} {t : Token} (h : R.AllowsToken maxCells t)
    (anchor cell : Cell) (limits : Limits) :
    R.AllowsToken maxCells (t.bindTo anchor cell limits) := by
  unfold Token.bindTo
  split
  · trivial
  · trivial
  · split <;> trivial
  · split <;> trivial
  · exact h

lemma tokens_of_boundTo? (hw : w.formulas.Coherent) {anchor : Cell}
    (hb : w.boundTo? p anchor = some f) :
    ∀ t ∈ f.tokens, R.AllowsToken w.settings.maxArrayCells t := by
  have hshared : Workbook.boundTo?.fromShared w p anchor = some f →
      ∀ t ∈ f.tokens, R.AllowsToken w.settings.maxArrayCells t := by
    intro hf t ht
    obtain ⟨g, hg, rfl⟩ := Option.map_eq_some_iff.mp hf
    obtain ⟨id, r, hr, htokens⟩ := Workbook.exists_get?_of_sharedAt? hg
    obtain ⟨t, htg, rfl⟩ := List.mem_map.mp ht
    exact allowsToken_bindTo (h.formulas id r hr t (htokens ▸ htg)) _ _ _
  unfold Workbook.boundTo? at hb
  split at hb
  · rename_i g hg
    split_ifs at hb
    · cases hb
      obtain ⟨id, r, hr, htokens⟩ := Workbook.exists_get?_of_arrayAt? hw hg
      exact fun t ht => h.formulas id r hr t (htokens ▸ ht)
    · exact hshared hb
  · exact hshared hb

/-- The formula of a cell has the tokens of a stored one, up to their references. -/
lemma tokens (hw : w.formulas.Coherent) (hb : w.bound? p = some (.ok f)) :
    ∀ t ∈ f.tokens, R.AllowsToken w.settings.maxArrayCells t := by
  obtain ⟨tokens, htokens, hf⟩ := Option.map_eq_some_iff.mp hb
  unfold Workbook.instantiate at hf
  split at hf
  · cases hf
    rw [Workbook.formula?_eq, Option.map_eq_some_iff] at htokens
    obtain ⟨r, hr, rfl⟩ := htokens
    obtain ⟨id, hid, -⟩ := (FormulaStore.find?_eq_some_iff hw).mp hr
    exact h.formulas id r hid
  split at hf
  · cases hf
    exact h.tokens_of_boundTo? hw ‹_›
  · cases hf

lemma cellValue (hR : R.Closed w.settings.maxArrayCells) (hw : w.formulas.Coherent)
    (hp : ¬(w.formula? p).isSome) : R.element (w.cellValue p) := by
  rw [Workbook.cellValue_of_formula?_eq_none hw (Option.not_isSome_iff_eq_none.mp hp)]
  refine element_getD (fun v hv => ?_) (hR.single hR.blank)
  obtain ⟨s, hs, hc⟩ := Option.bind_eq_some_iff.mp hv
  exact h.constants s (Array.mem_of_getElem? hs) p.cell v hc

end AllowsBook

/-! ### Results -/

/-- The rule allows the result of the formula: any value of an array block, and otherwise a value
that may stand in a cell. -/
def AllowsResult (R : ValueRule) : BoundFormula → Value → Prop
  | .array _, v => R.Allows v
  | _, v => R.element v

section
variable (hR : R.Closed w.settings.maxArrayCells)
include hR

/-- A formula that reads values that may stand in cells comes to an allowed result, and only allowed
operands are passed to functions. -/
lemma AllowsBook.agree_evaluation (h : R.AllowsBook w) (hw : w.formulas.Coherent)
    (hf : R.Agree w.settings.maxArrayCells functions functions') (hb : w.bound? p = some (.ok f))
    (home : Place) :
    (w.evaluation functions f home).Agree R.element (Outcome (fun _ => True) (R.AllowsResult f))
      (w.evaluation functions' f home) := by
  have htokens := h.tokens hw hb
  have hnames : R.AllowsNames (w.site home).settings.maxArrayCells (w.site home).surroundings :=
    h.allowsNames
  cases f with
  | array g => exact comesTo_evaluateArray hR hnames hf htokens
  | plain tokens | shared tokens => exact comesTo_evaluate hR hnames hf htokens

lemma element_shown (c : Cell) (h : R.AllowsResult f v) : R.element (f.shown c v) := by
  cases f with
  | plain tokens | shared tokens => exact h
  | array g =>
    have h : R.Allows v := h
    change R.element (g.part v c)
    unfold ArrayFormula.part
    cases v with
    | scalar s => exact hR.single h
    | array rows cols values =>
      exact element_getD (element_get? h _ _) (hR.single (hR.error nofun))

end

/-! ### Passes -/

/-- The pass remembers values that may stand in cells, and allowed results of array blocks. -/
structure AllowsPass (R : ValueRule) (s : Pass) : Prop where
  cells : ∀ {p : Place} {v : Value}, s.cells[p]? = some v → R.element v
  blocks : ∀ {p : Place} {v : Value}, s.blocks[p]? = some v → R.Allows v

/-- The outcome may stand in a cell if it is a value, and the rule allows the pass that it
leaves. -/
abbrev AllowsEnd (R : ValueRule) (x : Except EvalError Value × Pass) : Prop :=
  Outcome (fun _ => True) R.element x.1 ∧ R.AllowsPass x.2

namespace AllowsPass

lemma empty : R.AllowsPass {} := ⟨fun h => by simp at h, fun h => by simp at h⟩

variable (hs : R.AllowsPass s)
include hs

lemma lock (p : Place) : R.AllowsPass (s.lock p) := ⟨hs.cells, hs.blocks⟩

lemma unlock (p : Place) : R.AllowsPass (s.unlock p) := ⟨hs.cells, hs.blocks⟩

lemma result? (h : s.result? p f = some v) : R.AllowsResult f v := by
  cases f with
  | array g => exact hs.blocks h
  | plain tokens | shared tokens => cases h

lemma rememberCell (h : R.element v) : R.AllowsPass (s.rememberCell p v) := by
  refine ⟨fun {q u} hu => ?_, hs.blocks⟩
  rw [Pass.getElem?_cells_rememberCell] at hu
  split_ifs at hu
  · cases hu
    exact h
  · exact hs.cells hu

lemma remember (hR : R.Closed w.settings.maxArrayCells) (h : R.AllowsResult f v) :
    R.AllowsPass (s.remember p f v) := by
  refine ⟨(hs.rememberCell (element_shown hR p.cell h)).cells, fun {q u} hu => ?_⟩
  cases f with
  | plain tokens | shared tokens => exact hs.blocks hu
  | array g =>
    have hu : (s.blocks.insert ((BoundFormula.array g).home p) v)[q]? = some u := hu
    rw [Std.HashMap.getElem?_insert] at hu
    split_ifs at hu
    · cases hu
      exact h
    · exact hs.blocks hu

end AllowsPass

section
variable (hR : R.Closed w.settings.maxArrayCells)
include hR

lemma allowsEnd_finish {r : Except EvalError Value}
    (hr : Outcome (fun _ => True) (R.AllowsResult f) r) (hs : R.AllowsPass s) :
    R.AllowsEnd (finish p f r s) := by
  cases r with
  | ok v => exact ⟨element_shown hR p.cell hr, hs.remember hR hr⟩
  | error e => exact ⟨trivial, hs⟩

variable (hw : w.formulas.Coherent) (h : R.AllowsBook w)
include hw h

/-- A cell that is computed without reading another one. If its place may be locked, then the rule
has to allow the error of a circle. -/
lemma allowsEnd_of_course {r : Except EvalError Value} (hs : R.AllowsPass s)
    (hcircle : ∀ f, w.bound? p = some (.ok f) → f.home p ∈ s.locked →
      R.scalar (.error .circular))
    (hc : course w p s = .done r t) : R.AllowsEnd (r, t) := by
  cases Immediate.of_course hc with
  | constant hb => exact ⟨h.cellValue hR hw (Workbook.bound?_eq_none_iff.mp hb), hs⟩
  | remembered hb hv => exact ⟨hs.cells hv, hs⟩
  | failed => exact ⟨trivial, hs⟩
  | @known f v hb hnew hv =>
    have hshown := element_shown hR p.cell (hs.result? hv)
    exact ⟨hshown, hs.rememberCell hshown⟩
  | @locked f hb hnew hlocked =>
    have hresult : R.AllowsResult f (.error .circular) := by
      have hcircular := hcircle f hb hlocked
      cases f with
      | array g => exact hcircular
      | plain tokens | shared tokens => exact hR.single hcircular
    exact ⟨element_shown hR p.cell hresult, hs.remember hR hresult⟩

/-- One step keeps to the rule if the cells that it reads do. -/
lemma allowsEnd_step (hf : R.Kept w.settings.maxArrayCells functions)
    {read : Place → PassM Value} (hs : R.AllowsPass s)
    (hcircle : ∀ f, w.bound? p = some (.ok f) → f.home p ∈ s.locked →
      R.scalar (.error .circular))
    (hread : ∀ f, course w p s = .evaluate f → ∀ q t,
      (w.evaluation functions f (f.home p)).Asks (answers read) (s.lock (f.home p)) q t →
        R.AllowsPass t → R.AllowsEnd (read q t)) :
    R.AllowsEnd (step w functions read p s) := by
  rcases hc : course w p s with ⟨r, t⟩ | f
  · rw [step_of_done hc]
    exact allowsEnd_of_course hR hw h hs hcircle hc
  · obtain ⟨hb, -, -, -⟩ := course_eq_evaluate hc
    have hevaluation := (h.agree_evaluation hR hw hf hb (f.home p)).ensures
    have hend := (ensures_iff.mp hevaluation).runWith (I := R.AllowsPass) (hs.lock (f.home p))
      fun q t hask ht =>
        have hq := hread f hc q t hask ht
        ⟨valueOrFailure_of_outcome hq.1 hR.element_failure, hq.2⟩
    rw [step_of_evaluate hc]
    exact allowsEnd_finish hR hend.1 (hend.2.unlock _)

/-- One step is the same with any functions that answer what the rule allows in the same way, if
the cells that it reads are. -/
lemma step_congr (hf : R.Agree w.settings.maxArrayCells functions functions')
    {read read' : Place → PassM Value} (hs : R.AllowsPass s)
    (hread : ∀ f, course w p s = .evaluate f → ∀ q t,
      (w.evaluation functions f (f.home p)).Asks (answers read) (s.lock (f.home p)) q t →
        R.AllowsPass t → read' q t = read q t ∧ R.AllowsEnd (read q t)) :
    Recalculation.step w functions' read' p s = Recalculation.step w functions read p s := by
  rcases hc : course w p s with ⟨r, t⟩ | f
  · rw [step_of_done hc, step_of_done hc]
  · obtain ⟨hb, -, -, -⟩ := course_eq_evaluate hc
    have hevaluated : evaluated w functions' read' f (f.home p) s =
        evaluated w functions read f (f.home p) s := by
      refine (h.agree_evaluation hR hw hf hb (f.home p)).runWith (I := R.AllowsPass)
        (hs.lock (f.home p)) fun q t hask ht => ?_
      obtain ⟨he, hq⟩ := hread f hc q t hask ht
      rw [answers_apply, answers_apply, he]
      exact ⟨rfl, valueOrFailure_of_outcome hq.1 hR.element_failure, hq.2⟩
    rw [step_of_evaluate hc, step_of_evaluate hc, hevaluated]

end

/-! ### Recalculations -/

section
variable (hR : R.Recalculable w.settings.maxArrayCells) (hw : w.formulas.Coherent)
  (h : R.AllowsBook w) (hf : R.Kept w.settings.maxArrayCells functions)
include hR hw h hf

lemma allowsEnd_computeBelow (fuel : Nat) (p : Place) (hs : R.AllowsPass s) :
    R.AllowsEnd (Recalculation.compute w functions fuel p s) := by
  induction fuel generalizing p s with
  | zero => exact ⟨hR.single hR.circular, hs⟩
  | succ fuel ih =>
    rw [compute_succ]
    exact allowsEnd_step hR.toClosed hw h hf hs (fun _ _ _ => hR.circular)
      fun _ _ q t _ ht => ih q ht

/-- Computations of cells keep to the rule, whatever the pass remembers of what it allows. -/
theorem allowsEnd_compute (p : Place) (hs : R.AllowsPass s) :
    R.AllowsEnd (w.compute functions p s) :=
  allowsEnd_computeBelow hR hw h hf w.nestingBound p hs

/-- Whatever cells are asked for, in whatever order, readers see values that may stand in cells. -/
theorem element_reportedFrom (cells : List Place) (hs : R.AllowsPass s) :
    (∀ x ∈ (w.reportedFrom functions cells s).1, Outcome (fun _ => True) R.element x.2) ∧
      R.AllowsPass (w.reportedFrom functions cells s).2 := by
  induction cells generalizing s with
  | nil => exact ⟨nofun, hs⟩
  | cons p cells ih =>
    obtain ⟨hvalue, hpass⟩ := allowsEnd_compute hR hw h hf p hs
    rw [Workbook.reportedFrom_cons]
    refine ⟨List.forall_mem_cons.mpr ⟨?_, (ih hpass).1⟩, (ih hpass).2⟩
    exact Outcome.map hvalue fun v hv => hR.surfaced hv

/-- After a recalculation every cell holds a value that may stand there. -/
theorem element_cellValue_recalculate (p : Place) :
    R.element ((w.recalculate functions).2.cellValue p) := by
  by_cases hp : (w.formula? p).isSome
  · rw [Workbook.cellValue_recalculate hp]
    refine element_getD (fun v hv => ?_) (hR.single hR.blank)
    obtain ⟨r, hr, rfl⟩ := Workbook.exists_of_getElem?_resultsOf hv
    have hreported := (element_reportedFrom hR hw h hf w.formulaCells .empty).1 (p, r) hr
    exact valueOrFailure_of_outcome hreported hR.element_failure
  · have hconstant : (w.recalculate functions).2.cellValue p = w.cellValue p := by
      rw [Workbook.cellValue_of_formula?_eq_none hw (Option.not_isSome_iff_eq_none.mp hp)]
      exact Workbook.cellValue_of_formula?_eq_none (w := (w.recalculate functions).2) hw
        (Option.not_isSome_iff_eq_none.mp hp)
    rw [hconstant]
    exact h.cellValue hR.toClosed hw hp

end

section
variable (hR : R.Recalculable w.settings.maxArrayCells) (hw : w.formulas.Coherent)
  (h : R.AllowsBook w) (hf : R.Agree w.settings.maxArrayCells functions functions')
include hR hw h hf

/-- Functions that answer what the rule allows in the same way lead to the same computations. -/
lemma compute_congr (p : Place) (hs : R.AllowsPass s) :
    w.compute functions' p s = w.compute functions p s := by
  have hkept : R.Kept w.settings.maxArrayCells functions := hf.kept
  have hfuel : ∀ fuel p s, R.AllowsPass s →
      Recalculation.compute w functions' fuel p s = Recalculation.compute w functions fuel p s := by
    intro fuel
    induction fuel with
    | zero => exact fun _ _ _ => rfl
    | succ fuel ih =>
      intro p s hs
      rw [compute_succ, compute_succ]
      exact step_congr hR.toClosed hw h hf hs fun _ _ q t _ ht =>
        ⟨ih q t ht, allowsEnd_computeBelow hR hw h hkept fuel q ht⟩
  exact hfuel w.nestingBound p s hs

theorem reportedFrom_congr (cells : List Place) (hs : R.AllowsPass s) :
    w.reportedFrom functions' cells s = w.reportedFrom functions cells s := by
  induction cells generalizing s with
  | nil => rw [Workbook.reportedFrom_nil, Workbook.reportedFrom_nil]
  | cons p cells ih =>
    have hcompute := compute_congr hR hw h hf p hs
    have hrest := ih (allowsEnd_compute hR hw h hf.kept p hs).2
    calc w.reportedFrom functions' (p :: cells) s
        = ((p, Value.surfaced <$> (w.compute functions p s).1) ::
              (w.reportedFrom functions' cells (w.compute functions p s).2).1,
            (w.reportedFrom functions' cells (w.compute functions p s).2).2) := by
          rw [Workbook.reportedFrom_cons, hcompute]
      _ = w.reportedFrom functions (p :: cells) s := by rw [hrest, Workbook.reportedFrom_cons]

end

section
variable {settings : Settings} {T : Token → Prop} {ops : List Operation}
  (hR : R.Recalculable settings.maxArrayCells) (hlasting : Token.Lasting T)
  (hT : ∀ t, T t → R.AllowsToken settings.maxArrayCells t)
  (hops : ∀ op ∈ ops, op.Brings T R.element)
  (hf : ∀ functions, .recalculate functions ∈ ops → R.Kept settings.maxArrayCells functions)
include hR hlasting hT hops hf

/-- The results that a workbook keeps may stand in cells. A recalculation replaces all of them, and
the other operations bring no new ones. -/
lemma element_results_run (h : ((Workbook.empty settings).run ops).results[p]? = some v) :
    R.element v := by
  induction ops using List.reverseRecOn generalizing v with
  | nil => simp [Workbook.empty] at h
  | append_singleton ops op ih =>
    simp only [List.mem_append, or_imp, forall_and, List.mem_singleton, forall_eq] at hops hf
    rw [Workbook.run_append] at h
    by_cases hop : ∃ functions, op = .recalculate functions
    · obtain ⟨functions, rfl⟩ := hop
      set w := (Workbook.empty settings).run ops
      have hw : w.Reachable := ⟨settings, ops, rfl⟩
      have hsettings : w.settings = settings := Workbook.settings_run ops
      rw [← hsettings] at hR hT hf
      have hbook : R.AllowsBook w := (Workbook.storesOnly_run hlasting settings hops.1).mono hT
      obtain ⟨r, hr, rfl⟩ := Workbook.exists_of_getElem?_resultsOf h
      have hreported := (element_reportedFrom hR hw.coherent hbook (hf.2 functions rfl)
        w.formulaCells .empty).1 (p, r) hr
      exact valueOrFailure_of_outcome hreported hR.element_failure
    · exact ih hops.1 hf.1
        (Workbook.getElem?_results_of_apply (fun functions h => hop ⟨functions, h⟩) h)

/-- Whatever was done to a workbook, its cells hold values that may stand there, if no others were
brought in. -/
theorem element_cellValue_run (p : Place) :
    R.element (((Workbook.empty settings).run ops).cellValue p) := by
  have hconstants := (Workbook.storesOnly_run hlasting settings hops).constants
  unfold Workbook.cellValue
  split_ifs
  · rw [Std.HashMap.getD_eq_getD_getElem?]
    exact element_getD (fun _ h => element_results_run hR hlasting hT hops hf h)
      (hR.single hR.blank)
  · exact element_getD (Workbook.forall_constant_iff.mp hconstants p) (hR.single hR.blank)

end

end ValueRule

/-! ### Everything that a workbook computes -/

/-- Evaluations of tokens with `T` in a workbook come to operands and arrays with `P`, and they pass
no others to functions. What a cell is computed to has `C`. -/
structure Workbook.Maintains (w : Workbook) (functions : Dispatcher) (T : Token → Prop)
    (C P : Value → Prop) : Prop where
  operand : ∀ here tokens, (∀ t ∈ tokens, T t) → Reaches C (fun _ => True) (Operand.Holds P)
    (evaluateOperand functions (w.site here) tokens)
  array : ∀ here tokens, (∀ t ∈ tokens, T t) → Reaches C (fun _ => True) P
    (evaluateArray functions (w.site here) tokens)
  value : ∀ here tokens, (∀ t ∈ tokens, T t) → Reaches C (fun _ => True) C
    (evaluate functions (w.site here) tokens)
  /-- In particular if the cells are computed when they are read, whatever was asked for before. -/
  answered : ∀ before here tokens, (∀ t ∈ tokens, T t) → Outcome (fun _ => True) (Operand.Holds P)
    ((evaluateOperand functions (w.site here) tokens).run.runWith (answers (w.compute functions))
      (w.reportedFrom functions before {}).2).1
  /-- How a library answers other operands than those with `P` does not show, neither in a single
  evaluation nor in a pass. -/
  passed : ∀ functions' : Dispatcher,
    (∀ site call args, (∀ o ∈ args, o.Holds P) →
      functions' site call args = functions site call args) →
    (∀ here tokens, (∀ t ∈ tokens, T t) →
      ReachBoth C (fun _ => True) (Operand.Holds P)
        (evaluateOperand functions (w.site here) tokens)
        (evaluateOperand functions' (w.site here) tokens)) ∧
      ∀ cells, w.reported functions' cells = w.reported functions cells
  /-- What formulas see in a cell, whatever was asked for before. -/
  computed : ∀ before p, Outcome (fun _ => True) C
    (w.compute functions p (w.reportedFrom functions before {}).2).1
  /-- What readers see. -/
  reported : ∀ cells, ∀ x ∈ w.reported functions cells, Outcome (fun _ => True) C x.2
  recalculated : ∀ p, C ((w.recalculate functions).2.cellValue p)

/-- **A rule that a workbook keeps to in what it stores, it keeps to in what it computes.** -/
theorem ValueRule.maintains {R : ValueRule} {w : Workbook} {functions : Dispatcher}
    {T : Token → Prop} (hR : R.Recalculable w.settings.maxArrayCells) (hw : w.formulas.Coherent)
    (hT : ∀ t, T t → R.AllowsToken w.settings.maxArrayCells t) (h : w.StoresOnly T R.element)
    (hf : R.Kept w.settings.maxArrayCells functions) :
    w.Maintains functions T R.element R.Allows := by
  have hbook : R.AllowsBook w := h.mono hT
  have hclosed (here : Place) : R.Closed (w.site here).settings.maxArrayCells := hR.toClosed
  have hnames (here : Place) :
      R.AllowsNames (w.site here).settings.maxArrayCells (w.site here).surroundings :=
    hbook.allowsNames
  have htokens {tokens : List Token} (ht : ∀ t ∈ tokens, T t) :
      ∀ t ∈ tokens, R.AllowsToken w.settings.maxArrayCells t := fun t h => hT t (ht t h)
  refine {
    operand here tokens ht := reachBoth_self.mp
      (comesTo_evaluateOperand (hclosed here) (hnames here) hf (htokens ht))
    array here tokens ht := reachBoth_self.mp
      (comesTo_evaluateArray (hclosed here) (hnames here) hf (htokens ht))
    value here tokens ht := reachBoth_self.mp
      (comesTo_evaluate (hclosed here) (hnames here) hf (htokens ht))
    answered before here tokens ht := ?_
    passed functions' hsame := ?_
    computed before p :=
      (allowsEnd_compute hR hw hbook hf p (element_reportedFrom hR hw hbook hf before .empty).2).1
    reported cells := (element_reportedFrom hR hw hbook hf cells .empty).1
    recalculated := element_cellValue_recalculate hR hw hbook hf }
  · have hoperand := reachBoth_self.mp
      (comesTo_evaluateOperand (hclosed here) (hnames here) hf (htokens ht))
    refine ((ensures_iff.mp hoperand).runWith (I := R.AllowsPass)
      (element_reportedFrom hR hw hbook hf before .empty).2 fun q t _ hpass => ?_).1
    obtain ⟨hvalue, hafter⟩ := allowsEnd_compute hR hw hbook hf q hpass
    exact ⟨valueOrFailure_of_outcome hvalue hR.element_failure, hafter⟩
  have hagree : R.Agree w.settings.maxArrayCells functions functions' :=
    fun site call args hsite hargs =>
      (hsame site call args hargs).symm ▸ hf site call args hsite hargs
  exact ⟨fun here tokens ht =>
      comesTo_evaluateOperand (hclosed here) (hnames here) hagree (htokens ht),
    fun cells => congrArg Prod.fst (reportedFrom_congr hR hw hbook hagree cells .empty)⟩

end Spreadsheet
