import Spreadsheet.Proofs.EditWorkbook

/-!
An edit against a scan of the whole workbook.

The scan looks at every constant, every token of every formula and every token of every name once.
It takes constants and formulas of the edited sheet to the new places of their cells, and gives
each token that refers to that sheet its new form. In a plain workbook an edit does just that.
-/

namespace Spreadsheet

/-! ### Plain workbooks -/

namespace FormulaStore

/-- Only formulas of single cells are stored. -/
structure Single (s : FormulaStore) : Prop where
  coherent : s.Coherent
  kind : ∀ k r, s.get? k = some r → r.body.kind = .cell

variable {s s' : FormulaStore} {links : SheetLinks}

lemma Single.remove (hs : s.Single) (id : Nat) : (s.remove id).Single := by
  have hd := drop_remove hs.coherent id
  refine ⟨hd.coherent, fun k r hr => ?_⟩
  rw [hd.get?] at hr
  split_ifs at hr
  exact hs.kind k r hr

lemma Single.put (hs : s.Single) {id : Nat} {r : FormulaRecord} (hp : Put s s' links id r)
    (hr : r.body.kind = .cell) : s'.Single := by
  refine ⟨hp.coherent, fun k d hd => ?_⟩
  rw [hp.get?] at hd
  split_ifs at hd
  · cases hd
    exact hr
  · exact hs.kind k d (Option.filter_eq_some_iff.mp hd).1

lemma Single.replaceToken (hs : s.Single) (links : SheetLinks) (h : Handle) (t : Token) :
    (s.replaceToken links h t).Single := by
  rcases ht : s.token? h with _ | u
  · rwa [replaceToken_of_none ht]
  have hc := change_replaceToken (h := h) hs.coherent (by simp [ht]) links t
  refine ⟨hc.coherent, fun k r hr => ?_⟩
  rw [hc.get?] at hr
  obtain ⟨d, hd, rfl⟩ := Option.map_eq_some_iff.mp hr
  exact (d.kind_mapTokens _).trans (hs.kind k d hd)

lemma Single.update (hs : s.Single) (links : SheetLinks) (id : Nat)
    {f : FormulaRecord → FormulaRecord} (hf : ∀ r, (f r).body.kind = r.body.kind) :
    (s.update links id f).Single := by
  rcases hr : s.get? id with _ | r
  · rwa [update_of_none hr]
  · exact hs.put (put_update hs.coherent hr links f) ((hf r).trans (hs.kind id r hr))

lemma Single.edit (hs : s.Single) (links : SheetLinks) (e : GridEdit) :
    (s.edit links e).Single := by
  refine edit_induction (fun t h u ht => ht.replaceToken links h u) (fun t id ht => ht.remove id)
    (fun t id ht => ht.update links id fun r => ?_) hs
  obtain ⟨sheet, body⟩ := r
  cases body <;> rfl

end FormulaStore

namespace Operation

/-- An operation that prepares an empty workbook. -/
def IsSetup : Operation → Prop
  | addSheet _ | addLink _ | addName _ | addLinkedName _ _ => True
  | _ => False

/-- An operation that fills cells or edits the grid. -/
def IsPlain : Operation → Prop
  | setValue _ _ | setFormula _ _ | edit .. => True
  | _ => False

end Operation

namespace Workbook

/-- All that is stored is on a grid of at least two rows and columns. Areas have their top-left
corner first, and there are no placeholders. -/
structure OnGrid (w : Workbook) : Prop where
  fit : w.limits.Fit
  constants : ∀ p v, w.constant? p = some v → w.limits.Holds p.cell
  formulas : ∀ id r, w.formulas.get? id = some r →
    w.limits.Holds r.position ∧ ∀ t ∈ r.tokens, t.Plain w.limits

/-- A workbook that was prepared first, and in which then only cells were filled and the grid was
edited. -/
structure Plain (w : Workbook) : Prop where
  built : ∃ settings setup ops, (∀ op ∈ setup, op.IsSetup) ∧ (∀ op ∈ ops, op.IsPlain) ∧
    w = ((empty settings).run setup).run ops
  onGrid : w.OnGrid

/-- `w'` is what the scan makes of `w`. -/
structure Scans (w w' : Workbook) (e : GridEdit) : Prop where
  constants : ∀ q v, w'.constant? ⟨e.sheet, q⟩ = some v ↔
    ∃ p, e.cell? p = some q ∧ w.constant? ⟨e.sheet, p⟩ = some v
  other_constants : ∀ p, p.sheet ≠ e.sheet → w'.constant? p = w.constant? p
  formulas : ∀ id, w'.formulas.get? id = (w.formulas.get? id).bind (e.scanRecord w.links)
  cells : ∀ q id, w'.formulas.cellFormula? ⟨e.sheet, q⟩ = some id ↔
    ∃ p, e.cell? p = some q ∧ w.formulas.cellFormula? ⟨e.sheet, p⟩ = some id
  other_cells : ∀ p, p.sheet ≠ e.sheet →
    w'.formulas.cellFormula? p = w.formulas.cellFormula? p
  names : w'.names = w.names.map (e.scanName w.links)
  sheets : ∀ i, w'.sheetName? i = w.sheetName? i
  links : w'.links = w.links
  linkedNames : w'.linkedNames = w.linkedNames
  settings : w'.settings = w.settings

section
variable {w : Workbook}

lemma run_setup {ops : List Operation} (h : ∀ op ∈ ops, op.IsSetup) :
    (w.run ops).formulas = w.formulas ∧ (w.run ops).limits = w.limits := by
  induction ops generalizing w with
  | nil => exact ⟨rfl, rfl⟩
  | cons op ops ih =>
    obtain ⟨hformulas, hlimits⟩ := ih (w := w.apply op) fun o ho => h o (List.mem_cons_of_mem _ ho)
    have hop := h op List.mem_cons_self
    rw [run_cons, hformulas, hlimits]
    cases op <;> first | exact ⟨rfl, rfl⟩ | exact hop.elim

lemma single_apply (hw : w.formulas.Single) {op : Operation} (hop : op.IsPlain) :
    (w.apply op).formulas.Single := by
  cases op with
  | setValue p v =>
    show (w.setValue p v).formulas.Single
    rw [formulas_setValue]
    split
    · exact hw.remove _
    · exact hw
  | setFormula p tokens => exact hw.put (FormulaStore.put_insert w.links _ hw.coherent) rfl
  | edit sheet axis change start count =>
    show (w.edit _).formulas.Single
    unfold Workbook.edit
    split_ifs
    · exact hw
    · exact hw.edit w.links _
  | _ => exact hop.elim

lemma agrees_run {ops : List Operation} (hops : ∀ op ∈ ops, op.IsPlain)
    (hw : w.Agrees Agreement.full) (hs : w.formulas.Single) :
    (w.run ops).Agrees Agreement.full ∧ (w.run ops).formulas.Single := by
  induction ops generalizing w with
  | nil => exact ⟨hw, hs⟩
  | cons op ops ih =>
    have hop := hops op List.mem_cons_self
    refine ih (fun o ho => hops o (List.mem_cons_of_mem _ ho)) ?_ (single_apply hs hop)
    refine hw.apply (fun _ _ => rfl) ?_
    rintro link rfl
    exact hop

lemma Plain.store (hw : w.Plain) : w.formulas.Plain w.limits w.links := by
  obtain ⟨settings, setup, ops, hsetup, hops, rfl⟩ := hw.built
  have hgrid := hw.onGrid.formulas
  obtain ⟨hformulas, hlimits⟩ := run_setup (w := empty settings) hsetup
  have hagrees : ((empty settings).run setup).Agrees Agreement.full := by
    unfold Agrees
    rw [hformulas, hlimits]
    exact FormulaStore.agrees_empty fun _ _ => rfl
  have hsingle : ((empty settings).run setup).formulas.Single := by
    rw [hformulas]
    refine ⟨FormulaStore.coherent_empty _, fun k r hr => ?_⟩
    simp [empty, FormulaStore.empty, FormulaStore.get?] at hr
  obtain ⟨hagrees, hsingle⟩ := agrees_run hops hagrees hsingle
  exact ⟨hagrees, fun k r hr => ⟨hsingle.kind k r hr, (hgrid k r hr).1, (hgrid k r hr).2⟩⟩

variable {e : GridEdit}

lemma Plain.scans_edit (hw : w.Plain) (he : e.Fits w.limits) (hs : e.sheet < w.sheets.size)
    (hc : 1 ≤ e.count) : w.Scans (w.edit e) e where
  constants := constant?_edit he.suits hs hc hw.onGrid.constants
  other_constants _ hp := constant?_edit_of_ne hs hc hp
  formulas id := by rw [formulas_edit hs hc, hw.store.get?_edit he]
  cells q id := by rw [formulas_edit hs hc, hw.store.onGrid.cellFormula?_edit he.suits]
  other_cells _ hp := by
    rw [formulas_edit hs hc, hw.store.onGrid.cellFormula?_edit_of_ne he.suits hp]
  names := names_edit hs hc
  sheets := sheetName?_edit
  links := links_edit
  linkedNames := linkedNames_edit
  settings := settings_edit

lemma Plain.onGrid_edit (hw : w.Plain) (he : e.Fits w.limits) (hs : e.sheet < w.sheets.size)
    (hc : 1 ≤ e.count) : (w.edit e).OnGrid := by
  have hlimits := limits_edit (w := w) (e := e)
  refine ⟨hlimits ▸ he.fit, fun p v hv => ?_, fun id r hr => ?_⟩
  · rw [hlimits]
    exact holds_constant?_edit he.suits hs hc hw.onGrid.constants hv
  · rw [hlimits]
    rw [formulas_edit hs hc] at hr
    have hplain := (hw.store.edit he).records id r hr
    exact ⟨hplain.holds, hplain.tokens⟩

end

/-- **An edit is a scan.** Inserting or deleting rows or columns of a plain workbook gives each
token that refers to the edited sheet its new form once, takes constants and formulas of that sheet
to the new places of their cells and leaves all else as it is. The workbook stays plain. -/
theorem edit_eq_scan {w : Workbook} (hw : w.Plain) {sheet count : Nat}
    (hs : sheet < w.sheets.size) (hc : 1 ≤ count) (axis : Axis) (change : GridChange)
    (start : Nat) :
    let e := GridEdit.ofLimits sheet axis change start count w.limits
    w.Scans (w.edit e) e ∧ (w.edit e).Plain := by
  intro e
  have he : e.Fits w.limits := ⟨rfl, hw.onGrid.fit⟩
  refine ⟨hw.scans_edit he hs hc, ?_, hw.onGrid_edit he hs hc⟩
  obtain ⟨settings, setup, ops, hsetup, hops, hrun⟩ := hw.built
  refine ⟨settings, setup, ops ++ [.edit sheet axis change start count], hsetup, ?_, ?_⟩
  · intro op hop
    rcases List.mem_append.mp hop with hop | hop
    · exact hops op hop
    · obtain rfl := List.mem_singleton.mp hop
      trivial
  · rw [run_append, ← hrun]
    rfl

/-- A row inserted in front of a constant to which a formula refers through a link. -/
theorem edit_eq_scan_insertion :
    let w := ((empty {}).run [.addSheet "Data", .addLink (.span 0 0)]).run
      [.setFormula ⟨0, ⟨0, 0⟩⟩ [.ref3d .value 0 ⟨4, 0, true, true⟩],
        .setValue ⟨0, ⟨4, 0⟩⟩ (.scalar (.bool true))]
    let e := GridEdit.ofLimits 0 .rows .insert 2 1 w.limits
    w.Plain ∧ 0 < w.sheets.size ∧ w.Scans (w.edit e) e ∧ (w.edit e).Plain := by
  intro w e
  let r : FormulaRecord := ⟨0, .cell ⟨0, 0⟩ [.ref3d .value 0 ⟨4, 0, true, true⟩]⟩
  let w₁ := ((empty {}).run [.addSheet "Data", .addLink (.span 0 0)]).apply
    (.setFormula ⟨0, ⟨0, 0⟩⟩ r.tokens)
  have hlimits : w.limits = {} := limits_setValue w₁ ⟨0, ⟨4, 0⟩⟩ (.scalar (.bool true))
  have hsheets : w.sheets = #[⟨"Data",
      ((∅ : Std.HashMap Cell Value).erase ⟨0, 0⟩).insert ⟨4, 0⟩ (.scalar (.bool true))⟩] := by
    show (w₁.setValue ⟨0, ⟨4, 0⟩⟩ (.scalar (.bool true))).sheets = _
    unfold setValue
    cases w₁.formulas.cellFormula? ⟨0, ⟨4, 0⟩⟩ <;> rfl
  have hput := FormulaStore.put_insert #[.span 0 0] r (FormulaStore.coherent_empty {})
  have hformula : ∀ id d, w.formulas.get? id = some d → d = r := by
    intro id d hd
    have hd₁ := get?_of_setValue hput.coherent ⟨0, ⟨4, 0⟩⟩ (.scalar (.bool true)) hd
    have hd₂ := (hput.get? id).symm.trans hd₁
    split_ifs at hd₂ with h0
    · exact (Option.some.inj hd₂).symm
    · simp [FormulaStore.empty, FormulaStore.get?] at hd₂
  have hconstant : ∀ p v, w.constant? p = some v → p.cell = ⟨4, 0⟩ := by
    rintro ⟨_ | sheet, cell⟩ v hv
    · simp only [constant?, hsheets, List.getElem?_toArray, List.getElem?_cons_zero,
        Option.bind_some, Std.HashMap.getElem?_insert] at hv
      split_ifs at hv with h4
      · exact (beq_iff_eq.mp h4).symm
      · simp at hv
    · simp [constant?, hsheets] at hv
  have hw : w.Plain := by
    refine ⟨⟨{}, _, _, ?_, ?_, rfl⟩, ?_, ?_, ?_⟩
    · simp [Operation.IsSetup]
    · simp [Operation.IsPlain]
    · rw [hlimits]
      exact ⟨by decide, by decide, by decide, by decide⟩
    · intro p v hv
      rw [hlimits, hconstant p v hv]
      exact ⟨by decide, by decide⟩
    · intro id d hd
      rw [hlimits, hformula id d hd]
      refine ⟨⟨by decide, by decide⟩, fun t ht => ?_⟩
      obtain rfl := List.mem_singleton.mp ht
      exact ⟨by decide, by decide⟩
  have hs : 0 < w.sheets.size := by
    rw [hsheets]
    decide
  exact ⟨hw, hs, edit_eq_scan hw hs (Nat.le_refl 1) .rows .insert 2⟩

end Workbook

end Spreadsheet
