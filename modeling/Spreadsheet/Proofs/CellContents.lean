import Spreadsheet.Proofs.EditCollisions
import Spreadsheet.Proofs.Fixpoint

/-!
What the cells of a workbook hold.

A cell is meant to hold a constant or a formula, but not both. Storing one of them removes the
other, and where a sheet is edited or deleted, its constants and formulas move alike. So two things
come to one cell only by an edit that brings a constant and a formula to the same place, and only a
deletion up to the greatest coordinate does that.

Whatever is done to a cell forgets its result, and an edit forgets all results. So a result that is
kept was found for the formula that the cell still has.
-/

namespace Spreadsheet

namespace Workbook

/-- A constant is stored for the cell. -/
def HoldsConstant (w : Workbook) (p : Place) : Prop := (w.constant? p).isSome

/-- A formula is stored for the cell. -/
def HoldsFormula (w : Workbook) (p : Place) : Prop := (w.formulas.cellFormula? p).isSome

/-- No cell holds two things. -/
def OneThing (w : Workbook) : Prop := ∀ p, ¬(w.HoldsConstant p ∧ w.HoldsFormula p)

/-- A deletion brings a constant and a formula to one place, since one of them escapes it. -/
def Collides (w : Workbook) (e : GridEdit) : Prop :=
  ∃ c d q, w.HoldsConstant ⟨e.sheet, c⟩ ∧ w.HoldsFormula ⟨e.sheet, d⟩ ∧ e.cell? c = some q ∧
    e.cell? d = some q ∧ (e.Escapes c ∨ e.Escapes d)

variable {w : Workbook} {p q : Place} {v : Value} {e : GridEdit}

lemma holdsFormula_iff (hw : w.formulas.Coherent) :
    w.HoldsFormula p ↔ ∃ k r, w.formulas.get? k = some r ∧ r.key = ⟨.cell, p⟩ :=
  FormulaStore.isSome_cellFormula?_iff hw

/-! ### Edits -/

section
variable (hw : w.formulas.Coherent) (hs : e.sheet < w.sheets.size) (hc : 1 ≤ e.count)
include hs hc

lemma holdsConstant_edit (c : Cell) : (w.edit e).HoldsConstant ⟨e.sheet, c⟩ ↔
    ∃ d, e.cell? d = some c ∧ w.HoldsConstant ⟨e.sheet, d⟩ := by
  have hsheet : ∀ d, w.constant? ⟨e.sheet, d⟩ = w.sheets[e.sheet].constants[d]? := by
    intro d
    simp [constant?, hs]
  have hafter : (w.edit e).constant? ⟨e.sheet, c⟩ =
      (w.sheets[e.sheet].edit e).constants[c]? := by
    simp [constant?, sheet?_edit hs hc, hs]
  simp only [HoldsConstant, hsheet, hafter]
  exact GridEdit.isSome_constants_edit e w.sheets[e.sheet] c

include hw in
lemma holdsFormula_edit (c : Cell) : (w.edit e).HoldsFormula ⟨e.sheet, c⟩ ↔
    ∃ d, e.cell? d = some c ∧ w.HoldsFormula ⟨e.sheet, d⟩ := by
  unfold HoldsFormula
  rw [formulas_edit hs hc]
  exact FormulaStore.isSome_cellFormula?_edit hw w.links e c

end

/-- An edit without collisions leaves one thing in each cell. -/
lemma OneThing.edit (h : w.OneThing) (hw : w.formulas.Coherent) (hno : ¬w.Collides e) :
    (w.edit e).OneThing := by
  by_cases hidle : e.count = 0 ∨ w.sheets.size ≤ e.sheet
  · rw [edit_of_idle hidle]
    exact h
  have hs : e.sheet < w.sheets.size := by omega
  have hc : 1 ≤ e.count := by omega
  rintro ⟨sheet, q⟩ ⟨hconstant, hformula⟩
  by_cases hsheet : sheet = e.sheet
  · subst hsheet
    obtain ⟨c, hcq, hconstant⟩ := (holdsConstant_edit hs hc q).mp hconstant
    obtain ⟨d, hdq, hformula⟩ := (holdsFormula_edit hw hs hc q).mp hformula
    rcases GridEdit.eq_or_escapes hcq hdq with rfl | hescapes
    · exact h _ ⟨hconstant, hformula⟩
    · exact hno ⟨c, d, q, hconstant, hformula, hcq, hdq, hescapes⟩
  · unfold HoldsConstant at hconstant
    unfold HoldsFormula at hformula
    rw [constant?_edit_of_ne hs hc hsheet] at hconstant
    rw [formulas_edit hs hc] at hformula
    exact h _ ⟨hconstant, FormulaStore.isSome_cellFormula?_of_edit hw hsheet hformula⟩

/-- A collision leaves two things in a cell. -/
lemma Collides.not_oneThing_edit (h : w.Collides e) (hw : w.formulas.Coherent) :
    ¬(w.edit e).OneThing := by
  obtain ⟨c, d, q, hconstant, hformula, hcq, hdq, hescapes⟩ := h
  have hc : 1 ≤ e.count := by
    obtain ⟨-, hle, hlt, -⟩ | ⟨-, hle, hlt, -⟩ := hescapes <;> omega
  have hs : e.sheet < w.sheets.size := by
    obtain ⟨v, hv⟩ := Option.isSome_iff_exists.mp hconstant
    obtain ⟨s, hs, -⟩ := Option.bind_eq_some_iff.mp hv
    exact (Array.getElem?_eq_some_iff.mp hs).1
  exact fun hone => hone ⟨e.sheet, q⟩ ⟨(holdsConstant_edit hs hc q).mpr ⟨c, hcq, hconstant⟩,
    (holdsFormula_edit hw hs hc q).mpr ⟨d, hdq, hformula⟩⟩

/-! ### Other operations -/

lemma constant?_eraseConstant_self (w : Workbook) (p : Place) :
    (w.eraseConstant p).constant? p = none := by
  unfold constant? eraseConstant
  rcases hs : w.sheets[p.sheet]? with _ | s <;> simp [Array.getElem?_modify, hs]

/-- A formula that is there after a record was stored was there before, or is that record. -/
lemma of_holdsFormula_insertRecord {d : FormulaRecord} (hw : w.formulas.Coherent)
    (h : (w.insertRecord d).2.HoldsFormula p) : d.key = ⟨.cell, p⟩ ∨ w.HoldsFormula p := by
  have hcoherent : (w.insertRecord d).2.formulas.Coherent :=
    (FormulaStore.put_insert w.links d hw).coherent
  obtain ⟨k, r, hr, hkey⟩ := (holdsFormula_iff hcoherent).mp h
  rcases of_get?_insertRecord hw hr with rfl | hr
  · exact Or.inl hkey
  · exact Or.inr ((holdsFormula_iff hw).mpr ⟨k, r, hr, hkey⟩)

lemma holdsFormula_insertRecord {d : FormulaRecord} (hw : w.formulas.Coherent)
    (hd : d.key = ⟨.cell, p⟩) : (w.insertRecord d).2.HoldsFormula p := by
  have hput := FormulaStore.put_insert w.links d hw
  exact (FormulaStore.isSome_cellFormula?_iff hput.coherent).mpr
    ⟨_, d, hput.get?_self, hd⟩

lemma OneThing.setFormula (h : w.OneThing) (hw : w.formulas.Coherent) (p : Place)
    (tokens : List Token) : (w.setFormula p tokens).2.OneThing := by
  rintro q ⟨hconstant, hformula⟩
  have herased : ((w.eraseConstant p).constant? q).isSome := hconstant
  rcases of_holdsFormula_insertRecord (w := touch { w.eraseConstant p with
    results := w.results.erase p }) hw hformula with hkey | hformula
  · obtain rfl : p = q := by cases hkey; rfl
    rw [constant?_eraseConstant_self] at herased
    cases herased
  · obtain ⟨v, hv⟩ := Option.isSome_iff_exists.mp herased
    exact h q ⟨Option.isSome_iff_exists.mpr ⟨v, constant?_eraseConstant hv⟩, hformula⟩

lemma OneThing.setGroup (h : w.OneThing) (hw : w.formulas.Coherent) (sheet : Nat)
    (range : CellRange) {r : FormulaRecord} (hr : r.body.kind ≠ .cell) :
    ((w.fillPlaceholders sheet range).insertRecord r).2.OneThing := by
  have hfilled : (w.fillPlaceholders sheet range).formulas.Coherent ∧
      (w.fillPlaceholders sheet range).OneThing :=
    fillPlaceholders_induction hw h fun u hu hone c _ => hone.setFormula hu _ _
  rintro q ⟨hconstant, hformula⟩
  rcases of_holdsFormula_insertRecord hfilled.1 hformula with hkey | hformula
  · exact hr (congrArg FormulaKey.kind hkey)
  · exact hfilled.2 q ⟨hconstant, hformula⟩

lemma not_holdsFormula_setValue (hw : w.formulas.Coherent) (p : Place) (v : Value) :
    ¬(w.setValue p v).HoldsFormula p := by
  intro h
  unfold HoldsFormula at h
  rw [formulas_setValue] at h
  rcases hid : w.formulas.cellFormula? p with _ | id
  · simp [hid] at h
  · simp only [hid] at h
    have hdrop := FormulaStore.drop_remove hw id
    obtain ⟨k, r, hr, hkey⟩ := (FormulaStore.isSome_cellFormula?_iff hdrop.coherent).mp h
    rw [hdrop.get?] at hr
    split_ifs at hr with hk
    have hindex : w.formulas.cellFormula? p = some k := (hw.index _ k).mpr ⟨r, hr, hkey⟩
    exact hk (Option.some.inj (hindex.symm.trans hid))

lemma OneThing.setValue (h : w.OneThing) (hw : w.Reachable) (p : Place) (v : Value) :
    (w.setValue p v).OneThing := by
  rintro q ⟨hconstant, hformula⟩
  have hafter : (w.setValue p v).formulas.Coherent := (hw.apply (.setValue p v)).coherent
  obtain ⟨k, r, hr, hkey⟩ := (holdsFormula_iff hafter).mp hformula
  have hbefore : w.HoldsFormula q :=
    (holdsFormula_iff hw.coherent).mpr ⟨k, r, get?_of_setValue hw.coherent p v hr, hkey⟩
  obtain ⟨u, hu⟩ := Option.isSome_iff_exists.mp hconstant
  rcases constant?_of_setValue hu with ⟨rfl, rfl⟩ | hu
  · exact not_holdsFormula_setValue hw.coherent q u hformula
  · exact h q ⟨Option.isSome_iff_exists.mpr ⟨u, hu⟩, hbefore⟩

/-- The constants of the later sheets are found one sheet before. -/
lemma constant?_deleteSheet {sheet : Nat} (hs : sheet < w.sheets.size) (p : Place) :
    (w.deleteSheet sheet).constant? p =
      w.constant? ⟨if p.sheet < sheet then p.sheet else p.sheet + 1, p.cell⟩ := by
  have hsheets : (w.deleteSheet sheet).sheets = w.sheets.eraseIdx sheet hs := by
    unfold Workbook.deleteSheet
    rw [Array.getElem?_eq_getElem hs]
    exact dif_pos hs
  unfold constant?
  rw [hsheets, Array.getElem?_eraseIdx]
  split_ifs <;> rfl

lemma OneThing.deleteSheet (h : w.OneThing) (hw : w.Reachable) (sheet : Nat) :
    (w.deleteSheet sheet).OneThing := by
  by_cases hs : sheet < w.sheets.size
  swap
  · unfold Workbook.deleteSheet
    rw [Array.getElem?_eq_none (Nat.le_of_not_lt hs)]
    exact h
  have hafter : (w.deleteSheet sheet).formulas.Coherent := (hw.apply (.deleteSheet sheet)).coherent
  rintro ⟨i, c⟩ ⟨hconstant, hformula⟩
  obtain ⟨k, r', hr', hkey⟩ := (holdsFormula_iff hafter).mp hformula
  rw [get?_deleteSheet hw.coherent hs] at hr'
  obtain ⟨r, hr, hr'⟩ := Option.bind_eq_some_iff.mp hr'
  split_ifs at hr' with hgone
  have hother : r.sheet ≠ sheet := fun he => hgone (Or.inl he)
  cases hr'
  rw [FormulaRecord.key_onSheetAfter, FormulaRecord.keyOn_mapTokens,
    FormulaRecord.sheet_mapTokens] at hkey
  have hplace := congrArg FormulaKey.place hkey
  have hsheet : sheetAfter sheet r.sheet = i := congrArg Place.sheet hplace
  have hbefore : r.key = ⟨.cell, ⟨r.sheet, c⟩⟩ := congrArg₂ FormulaKey.mk
    (congrArg FormulaKey.kind hkey) (congrArg (Place.mk r.sheet) (congrArg Place.cell hplace))
  have hsame : (if i < sheet then i else i + 1) = r.sheet := by
    rcases (sheetAfter_eq_iff hother).mp hsheet with ⟨he, hlt⟩ | ⟨he, hle⟩
    · rw [if_pos hlt, he]
    · rw [if_neg (by omega), he]
  unfold HoldsConstant at hconstant
  rw [constant?_deleteSheet hs] at hconstant
  simp only [hsame] at hconstant
  exact h _ ⟨hconstant, (holdsFormula_iff hw.coherent).mpr ⟨k, r, hr, hbefore⟩⟩

/-- Each operation but a deletion that causes a collision leaves one thing in each cell. -/
theorem OneThing.apply (h : w.OneThing) (hw : w.Reachable) {op : Operation}
    (hop : ∀ sheet axis change start count, op = .edit sheet axis change start count →
      ¬w.Collides (.ofLimits sheet axis change start count w.limits)) : (w.apply op).OneThing := by
  cases op with
  | addLink | addName | addLinkedName | recalculate => exact h
  | addSheet name =>
    rintro q ⟨hconstant, hformula⟩
    obtain ⟨v, hv⟩ := Option.isSome_iff_exists.mp hconstant
    exact h q ⟨Option.isSome_iff_exists.mpr ⟨v, constant?_addSheet hv⟩, hformula⟩
  | setValue p v => exact h.setValue hw p v
  | setFormula p tokens => exact h.setFormula hw.coherent p tokens
  | setShared sheet range body | setArray sheet range body =>
    exact h.setGroup hw.coherent sheet range nofun
  | edit sheet axis change start count =>
    exact h.edit hw.coherent (hop sheet axis change start count rfl)
  | deleteSheet sheet => exact h.deleteSheet hw sheet

lemma oneThing_empty (settings : Settings) : (empty settings).OneThing := by
  rintro p ⟨hconstant, -⟩
  simp [HoldsConstant, constant?, empty] at hconstant

/-- A run puts two things into a cell if and only if a deletion in it causes a collision. -/
theorem oneThing_run_iff (settings : Settings) (ops : List Operation) :
    (∀ n, ((empty settings).run (ops.take n)).OneThing) ↔
      ∀ n sheet axis change start count, ops[n]? = some (.edit sheet axis change start count) →
        ¬((empty settings).run (ops.take n)).Collides
          (.ofLimits sheet axis change start count settings.limits) := by
  have hreachable : ∀ n, ((empty settings).run (ops.take n)).Reachable := fun n => ⟨_, _, rfl⟩
  have hlimits : ∀ n, ((empty settings).run (ops.take n)).limits = settings.limits := fun n =>
    congrArg Settings.limits (settings_run _)
  have hnext : ∀ {n op}, ops[n]? = some op → (empty settings).run (ops.take (n + 1)) =
      ((empty settings).run (ops.take n)).apply op := by
    intro n op hop
    rw [List.take_add_one, hop, run_append]
    rfl
  constructor
  · intro h n sheet axis change start count hop hcollides
    have hafter := h (n + 1)
    rw [hnext hop] at hafter
    rw [← hlimits n] at hcollides
    exact hcollides.not_oneThing_edit (hreachable n).coherent hafter
  · intro h n
    induction n with
    | zero => exact oneThing_empty settings
    | succ n ih =>
      rcases hop : ops[n]? with _ | op
      · rw [List.take_add_one, hop, Option.toList_none, List.append_nil]
        exact ih
      · rw [hnext hop]
        refine ih.apply (hreachable n) fun sheet axis change start count he => ?_
        rw [hlimits]
        exact h n sheet axis change start count (hop.trans (congrArg some he))

/-! ### Constants -/

lemma constant?_of_edit (h : (w.edit e).constant? q = some v) : ∃ p, w.constant? p = some v := by
  by_cases hidle : e.count = 0 ∨ w.sheets.size ≤ e.sheet
  · rw [edit_of_idle hidle] at h
    exact ⟨q, h⟩
  have hs : e.sheet < w.sheets.size := by omega
  have hc : 1 ≤ e.count := by omega
  obtain ⟨s', hs', hv⟩ := Option.bind_eq_some_iff.mp h
  rw [sheet?_edit hs hc] at hs'
  split_ifs at hs'
  · obtain ⟨s, hs, rfl⟩ := Option.map_eq_some_iff.mp hs'
    obtain ⟨c, hc⟩ := exists_constant_of_edit hv
    exact ⟨⟨q.sheet, c⟩, Option.bind_eq_some_iff.mpr ⟨s, hs, hc⟩⟩
  · exact ⟨q, Option.bind_eq_some_iff.mpr ⟨s', hs', hv⟩⟩

lemma sheets_setValue_blank (p : Place) :
    (w.setValue p .blank).sheets = (w.eraseConstant p).sheets := by
  unfold setValue
  cases w.formulas.cellFormula? p <;> rfl

lemma sheets_setValue_of_ne (hv : v ≠ .blank) :
    (w.setValue p v).sheets = (w.storeConstant p v).sheets := by
  unfold setValue
  cases w.formulas.cellFormula? p <;> dsimp only <;> split <;> first
    | exact absurd rfl hv
    | rfl

/-- A constant was there before, or is the value that is set. Setting a cell to blank empties it. -/
lemma constant?_of_apply {op : Operation} (h : (w.apply op).constant? q = some v) :
    (∃ p, op = .setValue p v ∧ v ≠ .blank) ∨ ∃ p, w.constant? p = some v := by
  have hfilled : ∀ sheet range, (w.fillPlaceholders sheet range).constant? q = some v →
      w.constant? q = some v := fun sheet range =>
    List.foldlRecOn (motive := fun u : Workbook => u.constant? q = some v →
      w.constant? q = some v) _ _ id fun u hu c _ hv => hu (constant?_eraseConstant hv)
  cases op with
  | addLink | addName | addLinkedName | recalculate => exact Or.inr ⟨q, h⟩
  | addSheet name => exact Or.inr ⟨q, constant?_addSheet h⟩
  | setValue p u =>
    by_cases hu : u = .blank
    · subst hu
      change (w.setValue p .blank).constant? q = some v at h
      rw [constant?_congr (sheets_setValue_blank p)] at h
      exact Or.inr ⟨q, constant?_eraseConstant h⟩
    · rcases constant?_of_setValue h with ⟨-, rfl⟩ | h
      · exact Or.inl ⟨p, rfl, hu⟩
      · exact Or.inr ⟨q, h⟩
  | setFormula p tokens => exact Or.inr ⟨q, constant?_eraseConstant h⟩
  | setShared sheet range body | setArray sheet range body =>
    exact Or.inr ⟨q, hfilled sheet range h⟩
  | edit sheet axis change start count => exact Or.inr (constant?_of_edit h)
  | deleteSheet sheet =>
    change (w.deleteSheet sheet).constant? q = some v at h
    by_cases hs : sheet < w.sheets.size
    · rw [constant?_deleteSheet hs] at h
      exact Or.inr ⟨_, h⟩
    · unfold Workbook.deleteSheet at h
      rw [Array.getElem?_eq_none (Nat.le_of_not_lt hs)] at h
      exact Or.inr ⟨q, h⟩

lemma Reachable.constant?_ne_blank (hw : w.Reachable) (p : Place) :
    w.constant? p ≠ some .blank := by
  refine hw.induction (P := fun w => ∀ p, w.constant? p ≠ some .blank) (fun settings p h => ?_)
    (fun w op _ hbefore p h => ?_) p
  · simp [constant?, empty] at h
  · rcases constant?_of_apply h with ⟨-, -, hne⟩ | ⟨q, hq⟩
    · exact hne rfl
    · exact hbefore q hq

/-! ### Results -/

/-- The value is what the last recalculation of a run found for a formula that the cell has had
without a change ever since. -/
def FoundFor (settings : Settings) (ops : List Operation) (p : Place) (v : Value) : Prop :=
  ∃ before functions after, ops = before ++ .recalculate functions :: after ∧
    (∀ op ∈ after, ∀ functions, op ≠ .recalculate functions) ∧
    ((empty settings).run (before ++ [.recalculate functions])).results[p]? = some v ∧
    ∃ k r, r.key = ⟨.cell, p⟩ ∧ ∀ n, ((empty settings).run
      (before ++ .recalculate functions :: after.take n)).formulas.get? k = some r

/-- A recalculation finds results for cells with formulas only. -/
lemma exists_of_results_recalculate {functions : Dispatcher}
    (h : (w.recalculate functions).2.results[p]? = some v) :
    ∃ k r, w.formulas.get? k = some r ∧ r.key = ⟨.cell, p⟩ := by
  obtain ⟨result, hresult, -⟩ := exists_of_getElem?_resultsOf h
  have houtcome := map_fst_mapM (fun p => (w.computedValue functions p).run) w.formulaCells {}
  have hmem : p ∈ w.formulaCells := by
    rw [← houtcome]
    exact List.mem_map.mpr ⟨_, hresult, rfl⟩
  rw [formulaCells, List.mem_mergeSort] at hmem
  exact mem_formulaPlaces.mp hmem

lemma get?_insertRecord_of_ne {d r : FormulaRecord} {k : Nat} (hw : w.formulas.Coherent)
    (hr : w.formulas.get? k = some r) (hkey : r.key ≠ d.key) :
    (w.insertRecord d).2.formulas.get? k = some r :=
  (FormulaStore.put_insert w.links d hw).get?_of_ne hr (Nat.ne_of_lt (FormulaStore.get?_lt hr)) hkey

section
variable {k : Nat} {r : FormulaRecord} (hkey : r.key = ⟨.cell, p⟩)
include hkey

/-- A new formula leaves the formula of a cell alone, unless it forgets the result there. -/
lemma get?_of_results_setFormula (hw : w.formulas.Coherent) (hr : w.formulas.get? k = some r)
    {tokens : List Token} (h : (w.setFormula q tokens).2.results[p]? = some v) :
    (w.setFormula q tokens).2.formulas.get? k = some r := by
  refine get?_insertRecord_of_ne (w := touch { w.eraseConstant q with
    results := w.results.erase q }) hw hr fun he => ?_
  have hsame : (⟨.cell, p⟩ : FormulaKey) = ⟨.cell, q⟩ := hkey.symm.trans he
  obtain rfl : p = q := congrArg FormulaKey.place hsame
  have herased : (w.results.erase p)[p]? = some v := h
  simp at herased

lemma get?_of_results_setGroup (hw : w.formulas.Coherent) (hr : w.formulas.get? k = some r)
    {sheet : Nat} {range : CellRange} {d : FormulaRecord} (hd : d.body.kind ≠ .cell)
    (h : (w.fillPlaceholders sheet range).results[p]? = some v) :
    ((w.fillPlaceholders sheet range).insertRecord d).2.formulas.get? k = some r := by
  have hfilled : (w.fillPlaceholders sheet range).formulas.Coherent ∧
      ((w.fillPlaceholders sheet range).results[p]? = some v →
        (w.fillPlaceholders sheet range).formulas.get? k = some r) := by
    refine fillPlaceholders_induction
      (P := fun u => u.results[p]? = some v → u.formulas.get? k = some r) hw (fun _ => hr)
      fun u hu hkept c _ hresult => ?_
    exact get?_of_results_setFormula hkey hu (hkept (getElem?_of_erase hresult)) hresult
  refine get?_insertRecord_of_ne hfilled.1 (hfilled.2 h) fun he => ?_
  exact hd (congrArg FormulaKey.kind (he.symm.trans hkey))

lemma get?_of_results_setValue (hw : w.formulas.Coherent) (hr : w.formulas.get? k = some r)
    {u : Value} (h : (w.setValue q u).results[p]? = some v) :
    (w.setValue q u).formulas.get? k = some r := by
  have hresults : (w.setValue q u).results = w.results.erase q := by
    unfold setValue
    cases w.formulas.cellFormula? q <;> dsimp only <;> split <;> rfl
  rw [formulas_setValue]
  rcases hid : w.formulas.cellFormula? q with _ | id
  · exact hr
  · have hne : k ≠ id := by
      rintro rfl
      obtain ⟨d, hd, hdkey⟩ := (hw.index _ k).mp hid
      obtain rfl := Option.some.inj (hr.symm.trans hd)
      obtain rfl : p = q := congrArg FormulaKey.place (hkey.symm.trans hdkey)
      rw [hresults] at h
      simp at h
    show (w.formulas.remove id).get? k = some r
    rw [(FormulaStore.drop_remove hw id).get?, if_neg hne, hr]

/-- What is done to a cell with a formula forgets its result. -/
lemma get?_of_results_apply (hw : w.Reachable) (hr : w.formulas.get? k = some r) {op : Operation}
    (hop : ∀ functions, op ≠ .recalculate functions) (h : (w.apply op).results[p]? = some v) :
    (w.apply op).formulas.get? k = some r := by
  cases op with
  | addSheet | addLink | addName | addLinkedName => exact hr
  | setValue q u => exact get?_of_results_setValue hkey hw.coherent hr h
  | setFormula q tokens => exact get?_of_results_setFormula hkey hw.coherent hr h
  | setShared sheet range body | setArray sheet range body =>
    exact get?_of_results_setGroup hkey hw.coherent hr nofun h
  | edit sheet axis change start count =>
    change (w.edit _).results[p]? = some v at h
    show (w.edit _).formulas.get? k = some r
    unfold Workbook.edit at h ⊢
    split_ifs at h ⊢
    · exact hr
    · simp [outdated, touch] at h
  | deleteSheet sheet =>
    change (w.deleteSheet sheet).results[p]? = some v at h
    show (w.deleteSheet sheet).formulas.get? k = some r
    unfold Workbook.deleteSheet at h ⊢
    split at h
    · exact hr
    · simp [outdated, touch] at h
  | recalculate functions => exact absurd rfl (hop functions)

end

/-- Every result that is kept belongs to the formula of its cell. -/
theorem foundFor_of_results {settings : Settings} {ops : List Operation}
    (h : ((empty settings).run ops).results[p]? = some v) : FoundFor settings ops p v := by
  induction ops using List.reverseRecOn generalizing v with
  | nil => simp [empty] at h
  | append_singleton ops op ih =>
    by_cases hop : ∃ functions, op = .recalculate functions
    · obtain ⟨functions, rfl⟩ := hop
      have hfound := h
      rw [run_append] at hfound
      obtain ⟨k, r, hr, hkey⟩ := exists_of_results_recalculate hfound
      refine ⟨ops, functions, [], rfl, List.forall_mem_nil _, h, k, r, hkey, fun n => ?_⟩
      rw [List.take_nil, run_append]
      exact hr
    · have hother : ∀ functions, op ≠ .recalculate functions := fun functions he =>
        hop ⟨functions, he⟩
      rw [run_append] at h
      obtain ⟨before, functions, after, rfl, hlast, hfound, k, r, hkey, hr⟩ :=
        ih (getElem?_results_of_apply hother h)
      refine ⟨before, functions, after ++ [op], by simp, ?_, hfound, k, r, hkey, fun n => ?_⟩
      · simp only [List.mem_append, List.mem_singleton]
        rintro op' (hop' | rfl)
        · exact hlast op' hop'
        · exact hother
      · by_cases hn : n ≤ after.length
        · rw [List.take_append_of_le_length hn]
          exact hr n
        · have hall := hr after.length
          rw [List.take_length] at hall
          have hnext := get?_of_results_apply hkey ⟨settings, _, rfl⟩ hall hother h
          rw [List.take_of_length_le (by simp; omega), ← List.cons_append, ← List.append_assoc,
            run_append]
          exact hnext

lemma FoundFor.holdsFormula {settings : Settings} {ops : List Operation}
    (h : FoundFor settings ops p v) : ((empty settings).run ops).HoldsFormula p := by
  obtain ⟨before, functions, after, rfl, -, -, k, r, hkey, hr⟩ := h
  have hall := hr after.length
  rw [List.take_length] at hall
  exact (holdsFormula_iff (Reachable.coherent ⟨settings, _, rfl⟩)).mpr ⟨k, r, hall, hkey⟩

/-! ### Runs -/

/-- **What the cells hold, whatever was done to a workbook.** No constant is blank, and each result
that is kept was found for the formula of its cell, which has not changed since. So a cell shows
blank, a constant, but no formula is there, or what was found for the formula that is. Two things
come to be in one cell if and only if a deletion on the way leaves out a cell that it should have
deleted, and moves it onto another one, or another one onto it. -/
theorem run_cellContents (settings : Settings) (ops : List Operation) :
    let w := (empty settings).run ops
    (∀ p, w.constant? p ≠ some .blank) ∧
      (∀ p v, w.results[p]? = some v → w.HoldsFormula p ∧ FoundFor settings ops p v) ∧
      (∀ p, w.cellValue p = .blank ∨
        ¬w.HoldsFormula p ∧ w.constant? p = some (w.cellValue p) ∨
          FoundFor settings ops p (w.cellValue p)) ∧
      ((∀ n, ((empty settings).run (ops.take n)).OneThing) ↔
        ∀ n sheet axis change start count, ops[n]? = some (.edit sheet axis change start count) →
          ¬((empty settings).run (ops.take n)).Collides
            (.ofLimits sheet axis change start count settings.limits)) := by
  intro w
  have hw : w.Reachable := ⟨settings, ops, rfl⟩
  refine ⟨hw.constant?_ne_blank, fun p v hv => ?_, fun p => ?_, oneThing_run_iff settings ops⟩
  · have hfound : FoundFor settings ops p v := foundFor_of_results hv
    exact ⟨hfound.holdsFormula, hfound⟩
  · by_cases hformula : w.HoldsFormula p
    · have hvalue : w.cellValue p = (w.results[p]?).getD .blank := by
        rw [← Std.HashMap.getD_eq_getD_getElem?]
        exact if_pos hformula
      rw [hvalue]
      rcases hresult : w.results[p]? with _ | v
      · exact Or.inl rfl
      · exact Or.inr (Or.inr (foundFor_of_results hresult))
    · have hvalue : w.cellValue p = (w.constant? p).getD .blank := if_neg hformula
      rw [hvalue]
      rcases hconstant : w.constant? p with _ | v
      · exact Or.inl rfl
      · exact Or.inr (Or.inl ⟨hformula, rfl⟩)

namespace EscapedCell

/-- A constant in front of the last row of all, and a formula in that row. -/
def ops : List Operation := [.addSheet "Data", .setValue ⟨0, ⟨4294967285, 0⟩⟩ (.bool true),
  .setFormula ⟨0, ⟨4294967295, 0⟩⟩ [.int 7]]

/-- The last ten rows and the next four, which do not exist. -/
def deletion : GridEdit := .ofLimits 0 .rows .delete 4294967290 10 {}

lemma collides : ((empty {}).run ops).Collides deletion := by
  have hconstant : ((empty {}).run ops).HoldsConstant ⟨0, ⟨4294967285, 0⟩⟩ := by
    have hsheets : ((empty {}).run ops).sheets = ((((empty {}).apply (.addSheet "Data")).setValue
        ⟨0, ⟨4294967285, 0⟩⟩ (.bool true)).eraseConstant ⟨0, ⟨4294967295, 0⟩⟩).sheets := rfl
    rw [HoldsConstant, constant?_congr hsheets]
    simp [constant?, eraseConstant, sheets_setValue_of_ne, storeConstant, apply, addSheet, empty]
  have hformula : ((empty {}).run ops).HoldsFormula ⟨0, ⟨4294967295, 0⟩⟩ := by
    have hbefore : ((empty {}).run (ops.take 2)).formulas.Coherent :=
      Reachable.coherent ⟨{}, _, rfl⟩
    exact holdsFormula_insertRecord (w := touch { ((empty {}).run (ops.take 2)).eraseConstant
      ⟨0, ⟨4294967295, 0⟩⟩ with results := _ }) hbefore rfl
  exact ⟨⟨4294967285, 0⟩, ⟨4294967295, 0⟩, ⟨4294967285, 0⟩, hconstant, hformula, by decide,
    by decide, Or.inr (by decide)⟩

/-- The formula should have been deleted, but comes to the cell of the constant. -/
theorem two_things_after_deletion :
    ¬((empty {}).run (ops ++ [.edit 0 .rows .delete 4294967290 10])).OneThing := by
  have hlimits : ((empty {}).run ops).limits = {} := congrArg Settings.limits (settings_run ops)
  rw [run_append]
  show ¬(((empty {}).run ops).edit (.ofLimits 0 .rows .delete 4294967290 10
    ((empty {}).run ops).limits)).OneThing
  rw [hlimits]
  exact collides.not_oneThing_edit (Reachable.coherent ⟨{}, ops, rfl⟩)

end EscapedCell

end Workbook

end Spreadsheet
