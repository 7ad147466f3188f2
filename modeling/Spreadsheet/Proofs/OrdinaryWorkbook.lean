import Spreadsheet.Proofs.EditWorkbook

/-!
Ordinary workbooks: links come before formulas, a formula belongs to one cell, and all is on the
grid.

In such a workbook the observers are exact, so that what they record follows from the tokens. An
edit leaves a workbook ordinary.
-/

namespace Spreadsheet

/-! ### Histories -/

/-- An operation that brings formulas into the workbook. -/
def Operation.StoresFormula : Operation → Prop
  | setFormula .. | setShared .. | setArray .. => True
  | _ => False

instance : DecidablePred Operation.StoresFormula
  | .setFormula .. | .setShared .. | .setArray .. => inferInstanceAs (Decidable True)
  | .addSheet _ | .addLink _ | .addName _ | .addLinkedName .. | .setValue .. | .edit ..
  | .deleteSheet _ | .recalculate _ => inferInstanceAs (Decidable False)

/-- An operation that adds a link. -/
def Operation.AddsLink : Operation → Prop
  | addLink _ => True
  | _ => False

instance : DecidablePred Operation.AddsLink
  | .addLink _ => inferInstanceAs (Decidable True)
  | .addSheet _ | .addName _ | .addLinkedName .. | .setValue .. | .setFormula .. | .setShared ..
  | .setArray .. | .edit .. | .deleteSheet _ | .recalculate _ => inferInstanceAs (Decidable False)

namespace FormulaStore

/-- No formula is stored. -/
def Vacant (s : FormulaStore) : Prop := ∀ id, s.get? id = none

variable {s : FormulaStore}

lemma Vacant.remove (hs : s.Vacant) (id : Nat) : (s.remove id).Vacant := by
  rwa [remove_of_none (hs id)]

lemma Vacant.update (hs : s.Vacant) (links : SheetLinks) (id : Nat)
    (f : FormulaRecord → FormulaRecord) : (s.update links id f).Vacant := by
  rwa [update_of_none (hs id)]

lemma Vacant.replaceToken (hs : s.Vacant) (links : SheetLinks) (h : Handle) (t : Token) :
    (s.replaceToken links h t).Vacant := by
  rwa [replaceToken_of_none (by simp [token?, hs h.formula])]

lemma Vacant.withoutSheet (hs : s.Vacant) (links links' : SheetLinks) (removed : Nat) :
    ((s.breakObservers links removed).withoutSheet links' removed).Vacant := by
  have hbroken : (s.breakObservers links removed).Vacant := by
    refine List.foldlRecOn _ _ hs fun t ht h _ => ?_
    split
    · exact ht.replaceToken links h _
    · exact ht
  refine List.foldlRecOn _ _ hbroken fun t ht id _ => ?_
  split
  · exact ht.remove id
  · exact ht.update links' id _

end FormulaStore

namespace Workbook

variable {w : Workbook}

lemma vacant_apply (hw : w.formulas.Vacant) {op : Operation} (hop : ¬op.StoresFormula) :
    (w.apply op).formulas.Vacant := by
  cases op with
  | addSheet _ | addLink _ | addName _ | addLinkedName _ _ | recalculate _ => exact hw
  | setFormula | setShared | setArray => exact absurd trivial hop
  | setValue p v =>
    show (w.setValue p v).formulas.Vacant
    rw [formulas_setValue]
    split
    · exact hw.remove _
    · exact hw
  | edit sheet axis change start count =>
    show (w.edit _).formulas.Vacant
    unfold Workbook.edit
    split_ifs
    · exact hw
    · exact FormulaStore.edit_induction (fun _ h t ht => ht.replaceToken w.links h t)
        (fun _ id ht => ht.remove id) (fun _ id ht => ht.update w.links id _) hw
  | deleteSheet sheet =>
    show (w.deleteSheet sheet).formulas.Vacant
    unfold deleteSheet
    split
    · exact hw
    · exact hw.withoutSheet _ _ sheet

/-- Before there are formulas, links can be added as well. -/
lemma agrees_run_of_vacant {ops : List Operation} (hops : ∀ op ∈ ops, ¬op.StoresFormula)
    (hw : w.Agrees Agreement.full) (hv : w.formulas.Vacant) :
    (w.run ops).Agrees Agreement.full := by
  induction ops generalizing w with
  | nil => exact hw
  | cons op ops ih =>
    have hop := hops op List.mem_cons_self
    refine ih (fun o ho => hops o (List.mem_cons_of_mem _ ho)) ?_ (vacant_apply hv hop)
    by_cases hlink : ∃ link, op = .addLink link
    · obtain ⟨link, rfl⟩ := hlink
      refine hw.addLink ?_
      rintro ⟨id, r, -, -, hr, -⟩
      cases (hv id).symm.trans hr
    · exact hw.apply (fun _ _ => rfl) fun link h => hlink ⟨link, h⟩

lemma agrees_run_of_linked {ops : List Operation} (hops : ∀ op ∈ ops, ¬op.AddsLink)
    (hw : w.Agrees Agreement.full) : (w.run ops).Agrees Agreement.full := by
  induction ops generalizing w with
  | nil => exact hw
  | cons op ops ih =>
    refine ih (fun o ho => hops o (List.mem_cons_of_mem _ ho)) (hw.apply (fun _ _ => rfl) ?_)
    rintro link rfl
    exact hops _ List.mem_cons_self trivial

/-! ### Ordinary workbooks -/

/-- All cells are on the grid, and so are those that formulas and the references of names through
links refer to. There are formulas of single cells only. -/
structure Bounded (w : Workbook) : Prop where
  rows_lt : w.limits.maxRows < 2 ^ 32
  cols_lt : w.limits.maxCols < 2 ^ 32
  constants : ∀ p v, w.constant? p = some v → w.limits.Holds p.cell
  formulas : ∀ id r, w.formulas.get? id = some r → r.OnGrid w.limits
  names : ∀ n ∈ w.names, ∀ t ∈ n.body, t.link?.isSome → t.OnGrid w.limits

/-- A bounded workbook whose links were added before its formulas. -/
structure Ordinary (w : Workbook) : Prop extends w.Bounded where
  built : ∃ settings setup ops, (∀ op ∈ setup, ¬op.StoresFormula) ∧
    (∀ op ∈ ops, ¬op.AddsLink) ∧ w = ((empty settings).run setup).run ops

lemma Ordinary.store (hw : w.Ordinary) : w.formulas.OnGrid w.limits w.links := by
  refine ⟨?_, hw.formulas⟩
  obtain ⟨settings, setup, ops, hsetup, hops, rfl⟩ := hw.built
  exact agrees_run_of_linked hops
    (agrees_run_of_vacant hsetup (agrees_empty (fun _ _ => rfl) settings)
      fun id => by simp [empty, FormulaStore.empty, FormulaStore.get?])

lemma Ordinary.suits (hw : w.Ordinary) (sheet : Nat) (axis : Axis) (change : GridChange)
    (start count : Nat) :
    (GridEdit.ofLimits sheet axis change start count w.limits).Suits w.limits :=
  ⟨rfl, hw.rows_lt, hw.cols_lt⟩

/-- An edit keeps all on the grid. -/
lemma Bounded.edit {e : GridEdit} (hw : w.Bounded) (hstore : w.formulas.OnGrid w.limits w.links)
    (he : e.Suits w.limits) : (w.edit e).Bounded := by
  by_cases hidle : e.count = 0 ∨ w.sheets.size ≤ e.sheet
  · rwa [edit_of_idle hidle]
  have hs : e.sheet < w.sheets.size := by omega
  have hc : 1 ≤ e.count := by omega
  have hlimits := limits_edit (w := w) (e := e)
  refine ⟨hlimits ▸ hw.rows_lt, hlimits ▸ hw.cols_lt, fun p v hv => ?_, fun id r hr => ?_,
    fun n hn t ht hlink => ?_⟩
  · rw [hlimits]
    exact holds_constant?_edit he hs hc hw.constants hv
  · rw [hlimits]
    rw [formulas_edit hs hc] at hr
    exact (hstore.edit he).records id r hr
  · rw [hlimits]
    rw [names_edit hs hc, Array.mem_map] at hn
    obtain ⟨m, hm, rfl⟩ := hn
    obtain ⟨u, hu, rfl⟩ := List.mem_map.mp ht
    split_ifs at hlink ⊢ with hmoved
    · refine GridEdit.onGrid_moveToken he (hw.names m hm u hu ?_)
      obtain ⟨link, hl, -⟩ := Option.bind_eq_some_iff.mp hmoved
      exact Option.isSome_iff_exists.mpr ⟨link, hl⟩
    · exact hw.names m hm u hu hlink

/-- An edit leaves a workbook ordinary. -/
theorem Ordinary.edit (hw : w.Ordinary) (sheet : Nat) (axis : Axis) (change : GridChange)
    (start count : Nat) :
    (w.edit (.ofLimits sheet axis change start count w.limits)).Ordinary := by
  refine ⟨hw.toBounded.edit hw.store (hw.suits sheet axis change start count), ?_⟩
  obtain ⟨settings, setup, ops, hsetup, hops, hrun⟩ := hw.built
  refine ⟨settings, setup, ops ++ [.edit sheet axis change start count], hsetup, ?_, ?_⟩
  · intro op hop
    rcases List.mem_append.mp hop with hop | hop
    · exact hops op hop
    · obtain rfl := List.mem_singleton.mp hop
      exact id
  · rw [run_append, ← hrun]
    rfl

/-! ### Filling a workbook -/

/-- Whatever the workbook holds was brought in by one of the operations. -/
structure FilledBy (w : Workbook) (ops : List Operation) : Prop where
  constants : ∀ p v, w.constant? p = some v → .setValue p v ∈ ops
  formulas : ∀ id r, w.formulas.get? id = some r → ∃ p tokens, .setFormula p tokens ∈ ops ∧
    r = ⟨p.sheet, .cell p.cell tokens⟩
  names : ∀ n ∈ w.names, .addName n ∈ ops

end Workbook

/-- An operation that adds a sheet, a link or a name, or fills a cell. -/
def Operation.Fills : Operation → Prop
  | addSheet _ | addLink _ | addName _ | addLinkedName _ _ | setValue _ _ | setFormula _ _ => True
  | _ => False

/-- Whatever the operation brings into the workbook is on the grid. -/
def Operation.OnGrid (limits : Limits) : Operation → Prop
  | setValue p _ => limits.Holds p.cell
  | setFormula p tokens => limits.Holds p.cell ∧ ∀ t ∈ tokens, t.OnGrid limits
  | addName n => ∀ t ∈ n.body, t.link?.isSome → t.OnGrid limits
  | _ => True

instance : DecidablePred Operation.Fills
  | .addSheet _ | .addLink _ | .addName _ | .addLinkedName .. | .setValue .. | .setFormula .. =>
    inferInstanceAs (Decidable True)
  | .setShared .. | .setArray .. | .edit .. | .deleteSheet _ | .recalculate _ =>
    inferInstanceAs (Decidable False)

instance (limits : Limits) : DecidablePred (Operation.OnGrid limits)
  | .setValue p _ => inferInstanceAs (Decidable (limits.Holds p.cell))
  | .setFormula _ _ => inferInstanceAs (Decidable (_ ∧ _))
  | .addName n => inferInstanceAs (Decidable (∀ t ∈ n.body, t.link?.isSome → t.OnGrid limits))
  | .addSheet _ | .addLink _ | .addLinkedName .. | .setShared .. | .setArray .. | .edit ..
  | .deleteSheet _ | .recalculate _ => inferInstanceAs (Decidable True)

namespace Workbook

variable {w : Workbook} {p q : Place} {u v : Value}

lemma names_setValue (p : Place) (v : Value) : (w.setValue p v).names = w.names := by
  unfold setValue
  cases w.formulas.cellFormula? p <;> dsimp only <;> split <;> rfl

lemma constant?_congr {w' : Workbook} (h : w'.sheets = w.sheets) (q : Place) :
    w'.constant? q = w.constant? q := by
  rw [constant?, h]
  rfl

lemma constant?_eraseConstant (h : (w.eraseConstant p).constant? q = some u) :
    w.constant? q = some u := by
  unfold constant? eraseConstant at h
  obtain ⟨s', hs', hu⟩ := Option.bind_eq_some_iff.mp h
  rw [Array.getElem?_modify] at hs'
  split_ifs at hs' with hsheet
  · obtain ⟨s, hs, hs''⟩ := Option.map_eq_some_iff.mp hs'
    rw [← hs'', Std.HashMap.getElem?_erase] at hu
    split_ifs at hu
    exact Option.bind_eq_some_iff.mpr ⟨s, hs, hu⟩
  · exact Option.bind_eq_some_iff.mpr ⟨s', hs', hu⟩

lemma constant?_storeConstant (h : (w.storeConstant p v).constant? q = some u) :
    q = p ∧ u = v ∨ w.constant? q = some u := by
  unfold constant? storeConstant at h
  obtain ⟨s', hs', hu⟩ := Option.bind_eq_some_iff.mp h
  rw [Array.getElem?_modify] at hs'
  split_ifs at hs' with hsheet
  · obtain ⟨s, hs, hs''⟩ := Option.map_eq_some_iff.mp hs'
    rw [← hs'', Std.HashMap.getElem?_insert] at hu
    split_ifs at hu with hcell
    · exact Or.inl
        ⟨(congrArg₂ Place.mk hsheet (beq_iff_eq.mp hcell)).symm, (Option.some.inj hu).symm⟩
    · exact Or.inr (Option.bind_eq_some_iff.mpr ⟨s, hs, hu⟩)
  · exact Or.inr (Option.bind_eq_some_iff.mpr ⟨s', hs', hu⟩)

lemma sheets_setValue (p : Place) (v : Value) :
    (w.setValue p v).sheets = (w.eraseConstant p).sheets ∨
      (w.setValue p v).sheets = (w.storeConstant p v).sheets := by
  unfold setValue
  cases w.formulas.cellFormula? p <;> dsimp only <;> split <;> first
    | exact Or.inl rfl
    | exact Or.inr rfl

/-- A value that is set brings no constant but itself. -/
lemma constant?_of_setValue (h : (w.setValue p v).constant? q = some u) :
    q = p ∧ u = v ∨ w.constant? q = some u := by
  rcases sheets_setValue (w := w) p v with hsheets | hsheets <;> rw [constant?_congr hsheets] at h
  · exact Or.inr (constant?_eraseConstant h)
  · exact constant?_storeConstant h

lemma constant?_addSheet {name : String} (h : (w.addSheet name).2.constant? q = some u) :
    w.constant? q = some u := by
  unfold constant? addSheet at h
  obtain ⟨s, hs, hu⟩ := Option.bind_eq_some_iff.mp h
  rw [Array.getElem?_push] at hs
  split_ifs at hs
  · rw [← Option.some.inj hs] at hu
    simp at hu
  · exact Option.bind_eq_some_iff.mpr ⟨s, hs, hu⟩

lemma FilledBy.apply {ops : List Operation} (hw : w.FilledBy ops) (hs : w.formulas.Coherent)
    {op : Operation} (hop : op.Fills) (hmem : op ∈ ops) : (w.apply op).FilledBy ops := by
  cases op with
  | addSheet name =>
    exact ⟨fun q u hu => hw.constants q u (constant?_addSheet hu), hw.formulas, hw.names⟩
  | addName n =>
    refine ⟨hw.constants, hw.formulas, fun m hm => ?_⟩
    rcases Array.mem_push.mp hm with hm | rfl
    · exact hw.names m hm
    · exact hmem
  | addLink _ | addLinkedName _ _ => exact ⟨hw.constants, hw.formulas, hw.names⟩
  | setValue p v =>
    refine ⟨fun q u hu => ?_, fun id r hr => hw.formulas id r (get?_of_setValue hs p v hr),
      fun n hn => hw.names n (names_setValue (w := w) p v ▸ hn)⟩
    rcases constant?_of_setValue hu with ⟨rfl, rfl⟩ | hu
    · exact hmem
    · exact hw.constants q u hu
  | setFormula p tokens =>
    refine ⟨fun q u hu => hw.constants q u (constant?_eraseConstant hu), fun id r hr => ?_,
      hw.names⟩
    have hput := (FormulaStore.put_insert w.links ⟨p.sheet, .cell p.cell tokens⟩ hs).get? id
    have hr' := hput.symm.trans hr
    split_ifs at hr'
    · exact ⟨p, tokens, hmem, (Option.some.inj hr').symm⟩
    · exact hw.formulas id r (Option.filter_eq_some_iff.mp hr').1
  | _ => exact hop.elim

lemma limits_apply_of_fills (w : Workbook) {op : Operation} (hop : op.Fills) :
    (w.apply op).limits = w.limits := by
  cases op <;> first | rfl | exact limits_setValue w _ _ | exact hop.elim

lemma filledBy_run (settings : Settings) (ops : List Operation) (hops : ∀ op ∈ ops, op.Fills) :
    ((empty settings).run ops).FilledBy ops ∧
      ((empty settings).run ops).limits = settings.limits := by
  have hempty : (empty settings).FilledBy ops := by
    refine ⟨fun p v hv => ?_, fun id r hr => ?_, fun n hn => ?_⟩
    · simp [constant?, empty] at hv
    · simp [empty, FormulaStore.empty, FormulaStore.get?] at hr
    · simp [empty] at hn
  have hrun : ∀ (xs : List Operation) (w : Workbook), (∀ op ∈ xs, op ∈ ops) →
      w.Agrees Agreement.sound → w.FilledBy ops → (w.run xs).FilledBy ops ∧
        (w.run xs).limits = w.limits := by
    intro xs
    induction xs with
    | nil => exact fun w _ _ hw => ⟨hw, rfl⟩
    | cons op xs ih =>
      intro w hxs hs hw
      have hmem := hxs op List.mem_cons_self
      obtain ⟨hfilled, hlimits⟩ := ih (w.apply op) (fun o ho => hxs o (List.mem_cons_of_mem _ ho))
        (hs.run_sound [op]) (hw.apply hs.coherent (hops op hmem) hmem)
      exact ⟨hfilled, hlimits.trans (w.limits_apply_of_fills (hops op hmem))⟩
  exact hrun ops (empty settings) (fun _ h => h) (agrees_empty (fun _ _ => Or.inl rfl) settings)
    hempty

/-- **A workbook that was prepared first and then filled, within the grid, is ordinary.** -/
theorem ordinary_of_filling {settings : Settings} {setup ops : List Operation}
    (hrows : settings.limits.maxRows < 2 ^ 32) (hcols : settings.limits.maxCols < 2 ^ 32)
    (hfills : ∀ op ∈ setup ++ ops, op.Fills)
    (hgrid : ∀ op ∈ setup ++ ops, op.OnGrid settings.limits)
    (hsetup : ∀ op ∈ setup, ¬op.StoresFormula) (hops : ∀ op ∈ ops, ¬op.AddsLink) :
    (((empty settings).run setup).run ops).Ordinary := by
  obtain ⟨hfilled, hlimits⟩ := filledBy_run settings _ hfills
  rw [run_append] at hfilled hlimits
  refine ⟨⟨hlimits ▸ hrows, hlimits ▸ hcols, fun p v hv => ?_, fun id r hr => ?_, fun n hn => ?_⟩,
    settings, setup, ops, hsetup, hops, rfl⟩ <;> rw [hlimits]
  · exact hgrid _ (hfilled.constants p v hv)
  · obtain ⟨p, tokens, hmem, rfl⟩ := hfilled.formulas id r hr
    exact ⟨rfl, (hgrid _ hmem).1, (hgrid _ hmem).2⟩
  · exact hgrid _ (hfilled.names n hn)

/-! ### Workbooks with the same content -/

/-- The two hold the same, under the same numbers, and record the same. -/
structure Alike (w w' : Workbook) : Prop where
  constants : ∀ p, w'.constant? p = w.constant? p
  formulas : ∀ id, w'.formulas.get? id = w.formulas.get? id
  cells : ∀ p, w'.formulas.cellFormula? p = w.formulas.cellFormula? p
  observers : ∀ h, w'.formulas.observers.area? h = w.formulas.observers.area? h
  names : w'.names = w.names
  sheets : ∀ i, w'.sheetName? i = w.sheetName? i
  links : w'.links = w.links
  linkedNames : w'.linkedNames = w.linkedNames
  settings : w'.settings = w.settings

end Workbook

namespace FormulaStore

variable {s s' : FormulaStore} {links : SheetLinks} {limits : Limits}

/-- The places follow from the formulas. -/
lemma OnGrid.cellFormula?_congr (hs : s.OnGrid limits links) (hs' : s'.OnGrid limits links)
    (h : ∀ id, (s'.get? id).map FormulaRecord.place = (s.get? id).map FormulaRecord.place)
    (p : Place) : s'.cellFormula? p = s.cellFormula? p := by
  refine Option.ext fun id => ?_
  rw [hs.cellFormula?_eq_some, hs'.cellFormula?_eq_some]
  simp only [← Option.map_eq_some_iff, h]

/-- What is recorded follows from the formulas. -/
lemma OnGrid.area?_congr (hs : s.OnGrid limits links) (hs' : s'.OnGrid limits links)
    (h : ∀ id, s'.get? id = s.get? id) (k : Handle) :
    s'.observers.area? k = s.observers.area? k := by
  refine (hs'.agrees.agrees k).trans (Eq.trans ?_ (hs.agrees.agrees k).symm)
  unfold due?
  rw [h, hs.agrees.limits_eq, hs'.agrees.limits_eq]

end FormulaStore

end Spreadsheet
