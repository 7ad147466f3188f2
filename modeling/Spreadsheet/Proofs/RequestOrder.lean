import Spreadsheet.Proofs.Settling

/-!
The order in which cells are asked for.

A pass computes each cell when it is first reached, and a circle is met wherever the pass happens to
enter it. If a formula of the circle drops the error, then this is hidden from one cell of the circle
and not from another, so the order of requests may show. It may also show where two formulas share a
place of evaluation and one asks for the other, since it then takes its own lock for a circle. It
never shows in a cell that settles: all passes report its one result.
-/

namespace Spreadsheet

open Recalculation

namespace Workbook

/-- The values of cells as readers see them, asked for one after the other in a pass. -/
def reportedFrom (w : Workbook) (functions : Dispatcher) (cells : List Place) :
    StateM Pass (List (Place × Except EvalError Value)) :=
  cells.mapM fun p => do return (p, ← (w.computedValue functions p).run)

/-- The values of cells asked for one after the other in a new pass. -/
def reported (w : Workbook) (functions : Dispatcher) (cells : List Place) :
    List (Place × Except EvalError Value) :=
  (w.reportedFrom functions cells {}).1

/-- A full recalculation asks for the formula cells in order. -/
lemma computeAll_eq (w : Workbook) (functions : Dispatcher) :
    w.computeAll functions = w.reportedFrom functions w.formulaCells := rfl

variable {w : Workbook} {functions : Dispatcher} {p : Place} {n : Nat} {r : Except EvalError Value}
  {s : Pass}

lemma computedValue_apply (w : Workbook) (functions : Dispatcher) (p : Place) (s : Pass) :
    w.computedValue functions p s =
      (Value.surfaced <$> (w.compute functions p s).1, (w.compute functions p s).2) := by
  show (Value.surfaced <$> w.compute functions p : PassM Value) s = _
  rw [← bind_pure_comp, Recalculation.bind_apply]
  rcases w.compute functions p s with ⟨_ | _, _⟩ <;> rfl

lemma reportedFrom_nil (w : Workbook) (functions : Dispatcher) (s : Pass) :
    w.reportedFrom functions [] s = ([], s) := rfl

lemma reportedFrom_cons (w : Workbook) (functions : Dispatcher) (p : Place) (cells : List Place)
    (s : Pass) : w.reportedFrom functions (p :: cells) s =
      ((p, Value.surfaced <$> (w.compute functions p s).1) ::
          (w.reportedFrom functions cells (w.compute functions p s).2).1,
        (w.reportedFrom functions cells (w.compute functions p s).2).2) := by
  unfold reportedFrom
  rw [List.mapM_cons]
  have h := computedValue_apply w functions p s
  show ((p, (w.computedValue functions p s).1) ::
      (w.reportedFrom functions cells (w.computedValue functions p s).2).1,
    (w.reportedFrom functions cells (w.computedValue functions p s).2).2) = _
  rw [h]
  rfl

/-- The results that a list of outcomes leaves behind. -/
def resultsOf (outcome : List (Place × Except EvalError Value)) : Std.HashMap Place Value :=
  outcome.foldl (fun results x => results.insert x.1 (valueOrFailure x.2)) ∅

lemma exists_of_getElem?_resultsOf {outcome : List (Place × Except EvalError Value)} {v : Value}
    (h : (resultsOf outcome)[p]? = some v) :
    ∃ r, (p, r) ∈ outcome ∧ v = valueOrFailure r := by
  have hfold : ∀ (outcome : List (Place × Except EvalError Value)) (m : Std.HashMap Place Value),
      (outcome.foldl (fun results x => results.insert x.1 (valueOrFailure x.2)) m)[p]? = some v →
        m[p]? = some v ∨ ∃ r, (p, r) ∈ outcome ∧ v = valueOrFailure r := by
    intro outcome
    induction outcome with
    | nil => exact fun m hm => .inl hm
    | cons x outcome ih =>
      intro m hm
      rcases ih _ hm with hx | ⟨r, hr, rfl⟩
      · rw [Std.HashMap.getElem?_insert] at hx
        split_ifs at hx with hp
        · cases hx
          obtain rfl : x.1 = p := by simpa using hp
          exact .inr ⟨x.2, List.mem_cons_self, rfl⟩
        · exact .inl hx
      · exact .inr ⟨r, List.mem_cons_of_mem x hr, rfl⟩
  rcases hfold outcome ∅ h with hempty | hx
  · simp at hempty
  · exact hx

lemma cellValue_recalculate (hp : (w.formula? p).isSome) :
    (w.recalculate functions).2.cellValue p =
      (resultsOf (w.reported functions w.formulaCells))[p]?.getD .blank := by
  have hcell : (w.formulas.cellFormula? p).isSome := by
    obtain ⟨tokens, htokens⟩ := Option.isSome_iff_exists.mp hp
    obtain ⟨id, hid, -⟩ := Option.bind_eq_some_iff.mp htokens
    exact Option.isSome_iff_exists.mpr ⟨id, hid⟩
  rw [← Std.HashMap.getD_eq_getD_getElem?]
  exact if_pos hcell

/-! ### Two workbooks -/

namespace OrderExample

/-- The cell A1. -/
def a1 : Place := ⟨0, 0, 0⟩

def a2 : Place := ⟨0, 1, 0⟩

def b1 : Place := ⟨0, 0, 1⟩

def b2 : Place := ⟨0, 1, 1⟩

def textX : List Token := [.text ⟨"x", false⟩]

/-- Shows A1. -/
def showA1 : List Token := [.ref .value ⟨0, 0, true, true⟩]

def showA2 : List Token := [.ref .value ⟨1, 0, true, true⟩]

/-- Reads B1:B2, of which one cell shows the first value. -/
def readB : List Token := [.area .array ⟨⟨0, 1, true, true⟩, ⟨1, 1, true, true⟩⟩]

/-- A text at B1, and the circle of A1, which reads B1:B2 but shows B1, and B2, which shows A1. -/
def halfCircle : Workbook := (empty {}).run [.addSheet "Sheet1", .setFormula a1 readB,
  .setFormula b1 textX, .setFormula b2 showA1]

/-- A block of two cells that both show a text. -/
def columnBlock : ArrayFormula := ⟨⟨⟨0, 0⟩, ⟨1, 0⟩, by decide, by decide⟩, textX⟩

/-- A1 and A2 show each other. -/
def closedCircle : Workbook := (empty {}).run [.addSheet "Sheet1", .setFormula a1 showA2,
  .setFormula a2 showA1]

/-- The block at A1:A2. -/
def blockOnly : Workbook := (empty {}).run [.addSheet "Sheet1",
  .setArray 0 columnBlock.range columnBlock.tokens]

/-- The block, and a formula that was entered over its anchor and shows A2. -/
def overwrittenAnchor : Workbook := (empty {}).run [.addSheet "Sheet1",
  .setArray 0 columnBlock.range columnBlock.tokens, .setFormula a1 showA2]

/-- A formula that shows one other cell. -/
lemma compute_of_asked (hw : w.formulas.Coherent) {q : Place} {f : BoundFormula} {v : Value}
    {t : Pass} (hb : w.bound? p = some (.ok f))
    (hquery : w.evaluation functions f (f.home p) =
      Query.ask q fun v => Query.answer (.ok v.first))
    (hv : s.cells[p]? = none) (hr : s.result? p f = none) (hl : f.home p ∉ s.locked)
    (hq : w.compute functions q (s.lock (f.home p)) = (.ok v, t)) : w.compute functions p s =
      (.ok (f.shown p.cell v.first), (t.unlock (f.home p)).remember p f v.first) := by
  rw [compute_of_free hw hb hv hr hl, evaluated, hquery, Query.runWith_ask, answers_apply, hq]
  rfl

lemma find?_halfCircle (key : FormulaKey) : halfCircle.formulas.find? key =
    if ⟨.cell, b2⟩ = key then some ⟨0, .cell ⟨1, 1⟩ showA1⟩
    else if ⟨.cell, b1⟩ = key then some ⟨0, .cell ⟨0, 1⟩ textX⟩
    else if ⟨.cell, a1⟩ = key then some ⟨0, .cell ⟨0, 0⟩ readB⟩
    else none := by
  let w₀ := (empty {}).run [.addSheet "Sheet1"]
  let w₁ := (w₀.setFormula a1 readB).2
  let w₂ := (w₁.setFormula b1 textX).2
  have h₀ : w₀.formulas.Coherent := FormulaStore.coherent_empty _
  have h₁ : w₁.formulas.Coherent := coherent_setFormula h₀ _ _
  have h₂ : w₂.formulas.Coherent := coherent_setFormula h₁ _ _
  have hw : halfCircle = (w₂.setFormula b2 showA1).2 := rfl
  rw [hw, find?_setFormula h₂, find?_setFormula h₁, find?_setFormula h₀,
    show w₀.formulas.find? key = none from FormulaStore.find?_empty _ _]
  rfl

lemma bound?_halfCircle : halfCircle.bound? a1 = some (.ok (.plain readB)) ∧
    halfCircle.bound? b1 = some (.ok (.plain textX)) ∧
    halfCircle.bound? b2 = some (.ok (.plain showA1)) := by
  refine ⟨?_, ?_, ?_⟩ <;> rw [bound?, formula?_eq, find?_halfCircle] <;> rfl

/-- If A1 comes first, then B2 meets the circle and A1 drops the error. If B2 comes first, then A1
drops the error before B2 could show it. -/
lemma reported_halfCircle :
    halfCircle.reported Library.empty [a1, b2] =
      [(a1, .ok (.text "x")), (b2, .ok (.error .value))] ∧
    halfCircle.reported Library.empty [b2, a1] =
      [(b2, .ok (.text "x")), (a1, .ok (.text "x"))] := by
  have hw : halfCircle.formulas.Coherent := Reachable.coherent ⟨_, _, rfl⟩
  obtain ⟨ha1, hb1, hb2⟩ := bound?_halfCircle
  have hquery : halfCircle.evaluation Library.empty (.plain readB) a1 =
    Query.ask b1 fun v => Query.ask b2 fun _ => .answer (.ok v) := rfl
  have hB1 : ∀ s : Pass, s.cells[b1]? = none → b1 ∉ s.locked →
      halfCircle.compute Library.empty b1 s =
        (.ok (.text "x"), ((s.lock b1).unlock b1).remember b1 (.plain textX) (.text "x")) :=
    fun s hv hl => compute_of_free hw hb1 hv rfl hl
  have hA1 : ∀ {s t t' : Pass} {r v}, s.cells[a1]? = none → a1 ∉ s.locked →
      halfCircle.compute Library.empty b1 (s.lock a1) = (.ok v, t) →
      halfCircle.compute Library.empty b2 t = (r, t') →
      halfCircle.compute Library.empty a1 s =
        (.ok v, (t'.unlock a1).remember a1 (.plain readB) v) := by
    intro s t t' r v hv hl h₁ h₂
    rw [compute_of_free hw ha1 hv rfl hl, evaluated]
    simp only [BoundFormula.home, hquery, Query.runWith_ask, answers_apply, h₁, h₂]
    rfl
  unfold reported
  simp only [reportedFrom_cons]
  constructor
  · let s₁ := ((({} : Pass).lock a1).lock b1).unlock b1 |>.remember b1 (.plain textX) (.text "x")
    let s₂ := (s₁.lock b2).remember a1 (.plain readB) (.error .circular)
    let s₃ := (s₂.unlock b2).remember b2 (.plain showA1) (.error .circular)
    let s₄ := (s₃.unlock a1).remember a1 (.plain readB) (.text "x")
    have h₁ : halfCircle.compute Library.empty b1 (({} : Pass).lock a1) = (.ok (.text "x"), s₁) :=
      hB1 _ (by simp) (by decide)
    have h₂ : halfCircle.compute Library.empty a1 (s₁.lock b2) = (.ok (.error .circular), s₂) :=
      compute_of_locked hw ha1 (by simp [s₁, a1, b1]) rfl (by decide)
    have h₃ : halfCircle.compute Library.empty b2 s₁ = (.ok (.error .circular), s₃) :=
      compute_of_asked hw hb2 rfl (by simp [s₁, b1, b2]) rfl (by decide) h₂
    have h₄ : halfCircle.compute Library.empty a1 {} = (.ok (.text "x"), s₄) :=
      hA1 (by simp) (by decide) h₁ h₃
    have h₅ : halfCircle.compute Library.empty b2 s₄ = (.ok (.error .circular), s₄) :=
      compute_of_remembered hw hb2 (by simp [s₄, s₃, BoundFormula.shown, a1, b2])
    rw [h₄]
    dsimp only
    rw [h₅]
    rfl
  · let s₁ := (((({} : Pass).lock b2).lock a1).lock b1).unlock b1 |>.remember b1 (.plain textX)
      (.text "x")
    let s₂ := s₁.remember b2 (.plain showA1) (.error .circular)
    let s₃ := (s₂.unlock a1).remember a1 (.plain readB) (.text "x")
    let s₄ := (s₃.unlock b2).remember b2 (.plain showA1) (.text "x")
    have h₁ : halfCircle.compute Library.empty b1 ((({} : Pass).lock b2).lock a1) =
        (.ok (.text "x"), s₁) := hB1 _ (by simp) (by decide)
    have h₂ : halfCircle.compute Library.empty b2 s₁ = (.ok (.error .circular), s₂) :=
      compute_of_locked hw hb2 (by simp [s₁, b1, b2]) rfl (by decide)
    have h₃ : halfCircle.compute Library.empty a1 (({} : Pass).lock b2) = (.ok (.text "x"), s₃) :=
      hA1 (by simp) (by decide) h₁ h₂
    have h₄ : halfCircle.compute Library.empty b2 {} = (.ok (.text "x"), s₄) :=
      compute_of_asked hw hb2 rfl (by simp) rfl (by decide) h₃
    have h₅ : halfCircle.compute Library.empty a1 s₄ = (.ok (.text "x"), s₄) :=
      compute_of_remembered hw ha1 (by simp [s₄, s₃, BoundFormula.shown, a1, b2])
    rw [h₄]
    dsimp only
    rw [h₅]
    rfl

lemma formula?_closedCircle (p : Place) : closedCircle.formula? p =
    if a2 = p then some showA1 else if a1 = p then some showA2 else none := by
  let w₀ := (empty {}).run [.addSheet "Sheet1"]
  let w₁ := (w₀.setFormula a1 showA2).2
  have h₀ : w₀.formulas.Coherent := FormulaStore.coherent_empty _
  have h₁ : w₁.formulas.Coherent := coherent_setFormula h₀ _ _
  have hw : closedCircle = (w₁.setFormula a2 showA1).2 := rfl
  rw [hw, formula?_setFormula h₁, formula?_setFormula h₀,
    show w₀.formula? p = none from formula?_empty _ _]

lemma bound?_closedCircle (p : Place) : closedCircle.bound? p =
    if a2 = p then some (.ok (.plain showA1))
    else if a1 = p then some (.ok (.plain showA2))
    else none := by
  rw [bound?, formula?_closedCircle]
  split_ifs <;> rfl

/-- Each of the two comes out circular if the other reads so. -/
lemma settles_closedCircle :
    closedCircle.Settles Library.empty 1 a1 (.ok (.error .circular)) := by
  let C : Place → Prop := fun p => p = a1 ∨ p = a2
  have hformula : ∀ {p f}, closedCircle.bound? p = some (.ok f) →
      p = a1 ∧ f = .plain showA2 ∨ p = a2 ∧ f = .plain showA1 := by
    intro p f h
    rw [bound?_closedCircle] at h
    split_ifs at h with h₂ h₁ <;> cases h
    · exact Or.inr ⟨h₂.symm, rfl⟩
    · exact Or.inl ⟨h₁.symm, rfl⟩
  have hmem : ∀ {p f}, closedCircle.bound? p = some (.ok f) → C p := fun h =>
    (hformula h).imp And.left And.left
  refine .circle (C := C) (Or.inl rfl) (fun _ => .ok (.error .circular))
    ⟨?_, fun _ _ hq _ => hmem hq, fun _ => rfl, fun _ hf => ?_⟩ fun q f _ hf a ha hna => ?_
  · rintro p (rfl | rfl)
    · exact ⟨_, bound?_closedCircle a1⟩
    · exact ⟨_, bound?_closedCircle a2⟩
  · obtain ⟨rfl, rfl⟩ | ⟨rfl, rfl⟩ := hformula hf <;> rfl
  · refine absurd ?_ hna
    obtain ⟨rfl, rfl⟩ | ⟨rfl, rfl⟩ := hformula hf
    · exact Or.inr (List.mem_singleton.mp ha)
    · exact Or.inl (List.mem_singleton.mp ha)

lemma find?_blockOnly (key : FormulaKey) : blockOnly.formulas.find? key =
    if ⟨.array, a1⟩ = key then some ⟨0, .array columnBlock⟩
    else if ⟨.cell, a2⟩ = key then some ⟨0, .cell ⟨1, 0⟩ [placeholder ⟨0, 0⟩]⟩
    else if ⟨.cell, a1⟩ = key then some ⟨0, .cell ⟨0, 0⟩ [placeholder ⟨0, 0⟩]⟩
    else none := by
  let w₀ := (empty {}).run [.addSheet "Sheet1"]
  let w₁ := (w₀.setFormula a1 [placeholder ⟨0, 0⟩]).2
  let w₂ := (w₁.setFormula a2 [placeholder ⟨0, 0⟩]).2
  have hcells : columnBlock.range.cells = [⟨0, 0⟩, ⟨1, 0⟩] := by decide
  have hfill : w₀.fillPlaceholders 0 columnBlock.range = w₂ := by
    rw [fillPlaceholders, hcells]
    rfl
  have hw : blockOnly = (w₂.insertRecord ⟨0, .array columnBlock⟩).2 := by
    show ((w₀.fillPlaceholders 0 columnBlock.range).insertRecord _).2 = _
    rw [hfill]
  have h₀ : w₀.formulas.Coherent := FormulaStore.coherent_empty _
  have h₁ : w₁.formulas.Coherent := coherent_setFormula h₀ _ _
  have h₂ : w₂.formulas.Coherent := coherent_setFormula h₁ _ _
  rw [hw, find?_insertRecord h₂, find?_setFormula h₁, find?_setFormula h₀,
    show w₀.formulas.find? key = none from FormulaStore.find?_empty _ _]
  rfl

lemma coherent_blockOnly : blockOnly.formulas.Coherent := Reachable.coherent ⟨_, _, rfl⟩

/-- A1 and A2 show parts of the block, whatever formula is stored in another cell. -/
lemma bound?_setFormula_blockOnly {p q : Place} (hp : p = a1 ∨ p = a2) (hq : q ≠ p)
    (tokens : List Token) :
    (blockOnly.setFormula q tokens).2.bound? p = some (.ok (.array columnBlock)) := by
  have hw := coherent_setFormula coherent_blockOnly q tokens
  have hstored : (blockOnly.setFormula q tokens).2.formula? p = some [placeholder ⟨0, 0⟩] := by
    rw [formula?_setFormula coherent_blockOnly, if_neg hq, formula?_eq, find?_blockOnly]
    rcases hp with rfl | rfl <;> rfl
  have hblock : (blockOnly.setFormula q tokens).2.formulas.arrayAt? a1 = some columnBlock := by
    rw [FormulaStore.arrayAt?_eq_some_iff hw, find?_setFormula coherent_blockOnly,
      if_neg (by simp), find?_blockOnly]
    rfl
  rw [bound?, hstored]
  refine congrArg some (instantiate_eq_array_iff.mpr ⟨⟨0, 0⟩, rfl, ?_⟩)
  rcases hp with rfl | rfl <;> exact ⟨hblock, by decide⟩

lemma bound?_overwrittenAnchor : overwrittenAnchor.bound? a1 = some (.ok (.plain showA2)) ∧
    overwrittenAnchor.bound? a2 = some (.ok (.array columnBlock)) := by
  have hw : overwrittenAnchor = (blockOnly.setFormula a1 showA2).2 := rfl
  rw [hw]
  refine ⟨?_, bound?_setFormula_blockOnly (Or.inr rfl) (by decide) _⟩
  rw [bound?, formula?_setFormula coherent_blockOnly, if_pos rfl]
  rfl

/-- If A1 comes first, then its own lock keeps the block from being evaluated. -/
lemma compute_overwrittenAnchor : overwrittenAnchor.compute Library.empty a1 {} =
    (.ok (.error .circular),
      ((({} : Pass).lock a1).remember a2 (.array columnBlock) (.error .circular)).unlock a1
        |>.remember a1 (.plain showA2) (.error .circular)) := by
  have hw : overwrittenAnchor.formulas.Coherent := Reachable.coherent ⟨_, _, rfl⟩
  obtain ⟨ha1, ha2⟩ := bound?_overwrittenAnchor
  refine compute_of_asked hw ha1 rfl (by simp) rfl (by decide)
    (compute_of_locked hw ha2 (by simp) ?_ (by decide))
  simp [Pass.result?, Pass.lock]

lemma reported_overwrittenAnchor :
    overwrittenAnchor.reported Library.empty [a1, a2] =
      [(a1, .ok (.error .value)), (a2, .ok (.error .value))] ∧
    overwrittenAnchor.reported Library.empty [a2, a1] =
      [(a2, .ok (.text "x")), (a1, .ok (.text "x"))] := by
  have hw : overwrittenAnchor.formulas.Coherent := Reachable.coherent ⟨_, _, rfl⟩
  obtain ⟨ha1, ha2⟩ := bound?_overwrittenAnchor
  unfold reported
  simp only [reportedFrom_cons]
  constructor
  · let s₁ := (({} : Pass).lock a1).remember a2 (.array columnBlock) (.error .circular)
    let s₂ := (s₁.unlock a1).remember a1 (.plain showA2) (.error .circular)
    have h : overwrittenAnchor.compute Library.empty a2 s₂ = (.ok (.error .circular), s₂) :=
      compute_of_remembered hw ha2 (by simp [s₂, s₁, BoundFormula.shown, ArrayFormula.part, a1, a2])
    rw [compute_overwrittenAnchor]
    dsimp only
    rw [h]
    rfl
  · let s₁ := ((({} : Pass).lock a1).unlock a1).remember a2 (.array columnBlock) (.text "x")
    let s₂ := ((s₁.lock a1).unlock a1).remember a1 (.plain showA2) (.text "x")
    have h₁ : overwrittenAnchor.compute Library.empty a2 {} = (.ok (.text "x"), s₁) :=
      compute_of_free hw ha2 (by simp) (by simp [Pass.result?]) (by decide)
    have h₂ : overwrittenAnchor.compute Library.empty a2 (s₁.lock a1) =
        (.ok (.text "x"), s₁.lock a1) :=
      compute_of_remembered hw ha2 (by simp [s₁, BoundFormula.shown, ArrayFormula.part])
    have h₃ : overwrittenAnchor.compute Library.empty a1 s₁ = (.ok (.text "x"), s₂) :=
      compute_of_asked hw ha1 rfl (by simp [s₁, a1, a2]) rfl (by decide) h₂
    rw [h₁]
    dsimp only
    rw [h₃]
    rfl

end OrderExample

/-! ### The order of requests -/

/-- A cell that settles is reported with its result, and with nothing else. -/
theorem mem_reportedFrom_iff (hw : w.formulas.Coherent) (h : w.Settles functions n p r)
    {cells : List Place} (hs : Sound w functions s) (hl : s.locked = [])
    {x : Except EvalError Value} : (p, x) ∈ (w.reportedFrom functions cells s).1 ↔
      p ∈ cells ∧ x = Value.surfaced <$> r := by
  induction cells generalizing s with
  | nil => exact iff_of_false List.not_mem_nil fun h => List.not_mem_nil h.1
  | cons q cells ih =>
    have hsound := sound_compute (p := q) hw hs fun n => quiet_of_unlocked hl
    have hlocked : (w.compute functions q s).2.locked = [] :=
      (locked_compute w.nestingBound q s).trans hl
    rw [reportedFrom_cons, List.mem_cons, List.mem_cons, ih hsound hlocked]
    constructor
    · rintro (he | ⟨hmem, hx⟩)
      · obtain ⟨rfl, rfl⟩ := Prod.mk.inj he
        rw [(compute_of_settles hw h hs (quiet_of_unlocked hl)).1]
        exact ⟨Or.inl rfl, rfl⟩
      · exact ⟨Or.inr hmem, hx⟩
    · rintro ⟨rfl | hmem, rfl⟩
      · rw [(compute_of_settles hw h hs (quiet_of_unlocked hl)).1]
        exact Or.inl rfl
      · exact Or.inr ⟨hmem, rfl⟩

/-- **The order of requests does not show in cells that settle.** Whatever cells are asked for, in
any order and any number of times, each cell among them that settles is reported with the same
values, namely with its result. -/
theorem reported_of_settles (hw : w.Reachable) (h : w.Settles functions n p r)
    {cells cells' : List Place} (hsame : ∀ q, q ∈ cells ↔ q ∈ cells') :
    (p ∈ cells → (p, Value.surfaced <$> r) ∈ w.reported functions cells) ∧
      ∀ x, (p, x) ∈ w.reported functions cells ↔ (p, x) ∈ w.reported functions cells' := by
  have hreported : ∀ cells x, (p, x) ∈ w.reported functions cells ↔
      p ∈ cells ∧ x = Value.surfaced <$> r := fun cells x =>
    mem_reportedFrom_iff hw.coherent h sound_empty rfl
  refine ⟨fun hp => (hreported cells _).mpr ⟨hp, rfl⟩, fun x => ?_⟩
  rw [hreported, hreported, hsame]

open OrderExample in
/-- The order of requests shows in a circle, and where a formula was entered over the anchor of an
array block. -/
theorem reported_depends_on_order :
    (halfCircle.Reachable ∧ ¬∀ p x, (p, x) ∈ halfCircle.reported Library.empty [a1, b2] ↔
      (p, x) ∈ halfCircle.reported Library.empty [b2, a1]) ∧
    (overwrittenAnchor.Reachable ∧
      ¬∀ p x, (p, x) ∈ overwrittenAnchor.reported Library.empty [a1, a2] ↔
        (p, x) ∈ overwrittenAnchor.reported Library.empty [a2, a1]) := by
  refine ⟨⟨⟨_, _, rfl⟩, fun h => ?_⟩, ⟨_, _, rfl⟩, fun h => ?_⟩
  · have hb2 := (h b2 (.ok (.text "x"))).mpr (by simp [reported_halfCircle.2])
    rw [reported_halfCircle.1] at hb2
    simp [a1, b2] at hb2
  · have ha1 := (h a1 (.ok (.text "x"))).mpr (by simp [reported_overwrittenAnchor.2])
    rw [reported_overwrittenAnchor.1] at ha1
    simp [a1, a2] at ha1

open OrderExample in
/-- A circle that drops no error reads as circular, and is reported so in any order. -/
theorem reported_of_settles_closedCircle :
    closedCircle.Reachable ∧
      closedCircle.Settles Library.empty 1 a1 (.ok (.error .circular)) ∧
      (∀ q, q ∈ [a1, a2] ↔ q ∈ [a2, a1]) ∧
      (a1, .ok (.error .value)) ∈ closedCircle.reported Library.empty [a1, a2] ∧
      (a1, .ok (.error .value)) ∈ closedCircle.reported Library.empty [a2, a1] := by
  have hw : closedCircle.Reachable := ⟨_, _, rfl⟩
  have hsettles := settles_closedCircle
  have hsame : ∀ q, q ∈ [a1, a2] ↔ q ∈ [a2, a1] := fun q => by simp [or_comm]
  obtain ⟨hreported, hiff⟩ := reported_of_settles hw hsettles hsame
  have hmem := hreported List.mem_cons_self
  exact ⟨hw, hsettles, hsame, hmem, (hiff _).mp hmem⟩

end Workbook

end Spreadsheet
