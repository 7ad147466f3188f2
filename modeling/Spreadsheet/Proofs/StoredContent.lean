import Spreadsheet.Proofs.Anchors
import Spreadsheet.Proofs.OrdinaryWorkbook

/-!
What a workbook stores.

Operations bring tokens and constants into a workbook, and move or break the references of tokens
that are there. So a property that does not depend on references holds of everything that is stored
if it holds of everything that was brought in.
-/

namespace Spreadsheet

/-- The property holds of placeholders and of what names of a removed sheet stand for, and it is
kept when references move or break. -/
structure Token.Lasting (T : Token → Prop) : Prop where
  placeholder : ∀ row col, T (.exp row col)
  gone : T (.error .reference)
  moved : ∀ (e : GridEdit) {t}, T t → T (e.moveToken t)
  broken : ∀ {t}, T t → T (t.broken?.getD t)

/-- An error, a number or an array is written into the token. -/
def Token.isLiteral : Token → Bool
  | error _ | num _ | array .. => true
  | _ => false

/-- What is said of literals only does not depend on references. -/
lemma Token.Lasting.of_literals {T : Token → Prop} (h : ∀ t, t.isLiteral = false → T t)
    (hgone : T (.error .reference)) : Token.Lasting T where
  placeholder _ _ := h _ rfl
  gone := hgone
  moved e t ht := by
    cases t with
    | ref | area | ref3d | area3d =>
      simp only [GridEdit.moveToken]
      split <;> exact h _ rfl
    | _ => exact ht
  broken {t} ht := by
    cases t with
    | ref3d | area3d => exact h _ rfl
    | _ => exact ht

/-- All tokens, those of names included, have `T`, and all constants have `C`. -/
structure Workbook.StoresOnly (T : Token → Prop) (C : Value → Prop) (w : Workbook) : Prop where
  formulas : ∀ id r, w.formulas.get? id = some r → ∀ t ∈ r.tokens, T t
  names : ∀ n : DefinedName, n ∈ w.names → ∀ t ∈ n.body, T t
  linkedNames : ∀ (link : UInt16) names, w.linkedNames[link]? = some names →
    ∀ n : LinkedName, n ∈ names → ∀ tokens, n.body = some tokens → ∀ t ∈ tokens, T t
  constants : ∀ s : Sheet, s ∈ w.sheets → ∀ (c : Cell) v, s.constants[c]? = some v → C v

/-- All tokens that the operation brings into a workbook have `T`, and the constant has `C`. -/
def Operation.Brings (T : Token → Prop) (C : Value → Prop) : Operation → Prop
  | setValue _ v => C v
  | setFormula _ tokens | setShared _ _ tokens | setArray _ _ tokens => ∀ t ∈ tokens, T t
  | addName n => ∀ t ∈ n.body, T t
  | addLinkedName _ n => ∀ tokens, n.body = some tokens → ∀ t ∈ tokens, T t
  | _ => True

/-- A name of a removed sheet stands for a broken reference. -/
lemma DefinedName.body_withoutSheet {T : Token → Prop} (hT : Token.Lasting T) {n : DefinedName}
    (h : ∀ t ∈ n.body, T t) (removed : Nat) : ∀ t ∈ (n.withoutSheet removed).body, T t := by
  unfold DefinedName.withoutSheet
  split
  · exact h
  · split_ifs
    · exact List.forall_mem_singleton.mpr hT.gone
    · exact h
    · exact h

/-! ### Formulas -/

section
variable {T : Token → Prop}

lemma FormulaRecord.tokens_of_mapTokens {r : FormulaRecord} {f : Nat → Token → Token}
    (h : ∀ t ∈ r.tokens, T t) (hf : ∀ i t, T t → T (f i t)) :
    ∀ t ∈ (r.mapTokens f).tokens, T t := by
  intro t ht
  rw [tokens_mapTokens] at ht
  obtain ⟨i, hi, rfl⟩ := List.mem_mapIdx.mp ht
  exact hf i _ (h _ (List.getElem_mem hi))

variable (hT : Token.Lasting T)
include hT

lemma FormulaRecord.tokens_of_moveRecord {r : FormulaRecord} (e : GridEdit)
    (h : ∀ t ∈ r.tokens, T t) : ∀ t ∈ (e.moveRecord r).tokens, T t := by
  obtain ⟨sheet, body⟩ := r
  cases body with
  | cell c tokens =>
    intro t ht
    change t ∈ e.movePlaceholder tokens at ht
    unfold GridEdit.movePlaceholder at ht
    split at ht
    · split at ht
      · rcases List.mem_cons.mp ht with rfl | ht
        · exact hT.placeholder _ _
        · exact h t (List.mem_cons_of_mem _ ht)
      · exact h t ht
    · exact h t ht
  | shared | array => exact h

namespace FormulaStore

variable {s s' : FormulaStore}

omit hT in
lemma Replaced.tokens {rule : Nat → Token → Option Token} {p : Handle → Prop} [DecidablePred p]
    (h : Replaced s s' rule p) (hrule : ∀ own t, T t → T ((rule own t).getD t))
    (hs : ∀ k r, s.get? k = some r → ∀ t ∈ r.tokens, T t) :
    ∀ k r, s'.get? k = some r → ∀ t ∈ r.tokens, T t := by
  intro k r' hr'
  rw [h.get?] at hr'
  obtain ⟨r, hr, rfl⟩ := Option.map_eq_some_iff.mp hr'
  refine FormulaRecord.tokens_of_mapTokens (hs k r hr) fun i t ht => ?_
  split_ifs
  · exact hrule r.sheet t ht
  · exact ht

lemma tokens_edit (hcoherent : s.Coherent) (links : SheetLinks) (e : GridEdit)
    (hs : ∀ k r, s.get? k = some r → ∀ t ∈ r.tokens, T t) :
    ∀ k r, (s.edit links e).get? k = some r → ∀ t ∈ r.tokens, T t := by
  have hscan : ∀ own t, T t → T (e.scanToken links own t) := by
    intro own t ht
    unfold GridEdit.scanToken
    split_ifs
    · exact hT.moved e ht
    · exact ht
  have hobserved := replaced_moveObserved hcoherent links e
  have hwhole := replaced_moveWholeAreas hobserved.coherent links e
  have hafter := hwhole.tokens (fun own t ht => by
    rw [wholeRule_getD]
    split_ifs
    · exact hscan own t ht
    · exact ht) (hobserved.tokens (fun own t ht => by
    rw [observedRule_getD]
    exact hscan own t ht) hs)
  intro k r' hr'
  obtain ⟨r, hr, rfl⟩ := of_get?_foldl_update (coherent_prepared hcoherent links e)
    (nodup_movingOrder _ e) links hr'
  rw [prepared, get?_dropDeleted hwhole.coherent] at hr
  have htokens := hafter k r (Option.filter_eq_some_iff.mp hr).1
  split_ifs
  · exact FormulaRecord.tokens_of_moveRecord hT e htokens
  · exact htokens

end FormulaStore

end

namespace Workbook

variable {T T' : Token → Prop} {C : Value → Prop} {w : Workbook} {p q : Place} {u v : Value}

/-! ### Constants -/

lemma exists_constant_of_edit {s : Sheet} {e : GridEdit} {q : Cell}
    (h : (s.edit e).constants[q]? = some v) : ∃ p : Cell, s.constants[p]? = some v := by
  have hfold : ∀ (xs : List (Cell × Value)) (m : Std.HashMap Cell Value),
      (xs.foldl (fun m x => e.moveConstant m x.1 x.2) m)[q]? = some v →
        m[q]? = some v ∨ ∃ p, (p, v) ∈ xs := by
    intro xs
    induction xs with
    | nil => exact fun m hm => .inl hm
    | cons x xs ih =>
      intro m hm
      rcases ih _ hm with hx | ⟨p, hp⟩
      · rw [GridEdit.getElem?_moveConstant] at hx
        split_ifs at hx
        · cases hx
          exact .inr ⟨x.1, List.mem_cons_self⟩
        · exact .inl hx
      · exact .inr ⟨p, List.mem_cons_of_mem x hp⟩
  have heq : (s.edit e).constants =
      s.constants.toList.foldl (fun m x => e.moveConstant m x.1 x.2) ∅ :=
    Std.HashMap.fold_eq_foldl_toList
  rw [heq] at h
  rcases hfold _ _ h with hempty | ⟨p, hp⟩
  · simp at hempty
  · exact ⟨p, Std.HashMap.mem_toList_iff_getElem?_eq_some.mp hp⟩

/-- The constants have the property, cell by cell. -/
lemma forall_constant_iff : (∀ s : Sheet, s ∈ w.sheets → ∀ (c : Cell) v, s.constants[c]? = some v →
    C v) ↔ ∀ p v, w.constant? p = some v → C v := by
  constructor
  · intro h p v hv
    obtain ⟨s, hs, hc⟩ := Option.bind_eq_some_iff.mp hv
    exact h s (Array.mem_of_getElem? hs) p.cell v hc
  · intro h s hs c v hv
    obtain ⟨i, hi⟩ := Array.mem_iff_getElem?.mp hs
    exact h ⟨i, c⟩ v (Option.bind_eq_some_iff.mpr ⟨s, hi, hv⟩)

/-! ### Operations -/

lemma linkedNames_setValue (p : Place) (v : Value) :
    (w.setValue p v).linkedNames = w.linkedNames := by
  unfold setValue
  cases w.formulas.cellFormula? p <;> dsimp only <;> split <;> rfl

namespace StoresOnly

lemma mono (h : w.StoresOnly T C) (hT : ∀ t, T t → T' t) : w.StoresOnly T' C where
  formulas id r hr t ht := hT t (h.formulas id r hr t ht)
  names n hn t ht := hT t (h.names n hn t ht)
  linkedNames link names hnames n hn tokens hbody t ht :=
    hT t (h.linkedNames link names hnames n hn tokens hbody t ht)
  constants := h.constants

lemma empty (settings : Settings) : (Workbook.empty settings).StoresOnly T C where
  formulas id r hr := by simp [Workbook.empty, FormulaStore.empty, FormulaStore.get?] at hr
  names := nofun
  linkedNames link names h := by simp [Workbook.empty] at h
  constants := nofun

section
variable (h : w.StoresOnly T C)
include h

lemma insertRecord (hw : w.formulas.Coherent) {r : FormulaRecord} (hr : ∀ t ∈ r.tokens, T t) :
    (w.insertRecord r).2.StoresOnly T C where
  formulas id r' hr' := by
    rcases of_get?_insertRecord hw hr' with rfl | hr'
    · exact hr
    · exact h.formulas id r' hr'
  names := h.names
  linkedNames := h.linkedNames
  constants := h.constants

lemma setFormula (hw : w.formulas.Coherent) (p : Place) {tokens : List Token}
    (ht : ∀ t ∈ tokens, T t) : (w.setFormula p tokens).2.StoresOnly T C := by
  have herased : (w.eraseConstant p).StoresOnly T C := {
    formulas := h.formulas
    names := h.names
    linkedNames := h.linkedNames
    constants := forall_constant_iff.mpr fun q v hv =>
      forall_constant_iff.mp h.constants q v (constant?_eraseConstant hv) }
  exact insertRecord (w := Workbook.touch { w.eraseConstant p with results := w.results.erase p })
    ⟨herased.formulas, herased.names, herased.linkedNames, herased.constants⟩ hw ht

lemma addLinkedName (link : UInt16) {n : LinkedName}
    (hn : ∀ tokens, n.body = some tokens → ∀ t ∈ tokens, T t) :
    (w.addLinkedName link n).2.StoresOnly T C where
  formulas := h.formulas
  names := h.names
  linkedNames link' names hnames m hm := by
    change (w.linkedNames.insert link _)[link']? = some names at hnames
    rw [Std.HashMap.getElem?_insert] at hnames
    split_ifs at hnames with hlink
    · cases hnames
      rcases Array.mem_push.mp hm with hm | rfl
      · rw [Std.HashMap.getD_eq_getD_getElem?] at hm
        rcases hold : w.linkedNames[link]? with _ | old
        · simp [hold] at hm
        · exact h.linkedNames link old hold m (by simpa [hold] using hm)
      · exact hn
    · exact h.linkedNames link' names hnames m hm
  constants := h.constants

lemma setValue (hw : w.formulas.Coherent) (p : Place) (hv : C v) :
    (w.setValue p v).StoresOnly T C where
  formulas id r hr := h.formulas id r (get?_of_setValue hw p v hr)
  names n hn := h.names n (names_setValue (w := w) p v ▸ hn)
  linkedNames link names hnames := h.linkedNames link names
    (linkedNames_setValue (w := w) p v ▸ hnames)
  constants := forall_constant_iff.mpr fun q u hu => by
    rcases constant?_of_setValue hu with ⟨-, rfl⟩ | hu
    · exact hv
    · exact forall_constant_iff.mp h.constants q u hu

variable (hT : Token.Lasting T)
include hT

lemma setGroup (hw : w.formulas.Coherent) (sheet : Nat) (range : CellRange) {r : FormulaRecord}
    (hr : ∀ t ∈ r.tokens, T t) :
    ((w.fillPlaceholders sheet range).insertRecord r).2.StoresOnly T C := by
  have hplaceholder : ∀ t ∈ [placeholder range.start], T t :=
    List.forall_mem_singleton.mpr (hT.placeholder _ _)
  have hfilled : (w.fillPlaceholders sheet range).formulas.Coherent ∧
      (w.fillPlaceholders sheet range).StoresOnly T C :=
    fillPlaceholders_induction hw h fun v hv hstores c _ => hstores.setFormula hv _ hplaceholder
  exact hfilled.2.insertRecord hfilled.1 hr

lemma edit (hw : w.formulas.Coherent) (e : GridEdit) : (w.edit e).StoresOnly T C := by
  by_cases hidle : e.count = 0 ∨ w.sheets.size ≤ e.sheet
  · rw [edit_of_idle hidle]
    exact h
  have hs : e.sheet < w.sheets.size := by omega
  have hc : 1 ≤ e.count := by omega
  refine ⟨?_, fun n hn t ht => ?_, ?_, forall_constant_iff.mpr fun p v hv => ?_⟩
  · rw [formulas_edit hs hc]
    exact FormulaStore.tokens_edit hT hw w.links e h.formulas
  · rw [names_edit hs hc] at hn
    obtain ⟨n, hmem, rfl⟩ := Array.mem_map.mp hn
    obtain ⟨u, hu, rfl⟩ := List.mem_map.mp ht
    have hold := h.names n hmem u hu
    split_ifs
    · exact hT.moved e hold
    · exact hold
  · rw [linkedNames_edit]
    exact h.linkedNames
  · obtain ⟨s', hs', hv⟩ := Option.bind_eq_some_iff.mp hv
    rw [sheet?_edit hs hc] at hs'
    split_ifs at hs'
    · obtain ⟨s, hs, rfl⟩ := Option.map_eq_some_iff.mp hs'
      obtain ⟨c, hc⟩ := exists_constant_of_edit hv
      exact h.constants s (Array.mem_of_getElem? hs) c v hc
    · exact h.constants s' (Array.mem_of_getElem? hs') _ v hv

lemma deleteSheet (hw : w.formulas.Coherent) (sheet : Nat) :
    (w.deleteSheet sheet).StoresOnly T C := by
  by_cases hs : sheet < w.sheets.size
  swap
  · unfold Workbook.deleteSheet
    rw [Array.getElem?_eq_none (Nat.le_of_not_lt hs)]
    exact h
  have hparts : (w.deleteSheet sheet).names = w.names.map (·.withoutSheet sheet) ∧
      (w.deleteSheet sheet).linkedNames = w.linkedNames ∧
      (w.deleteSheet sheet).sheets = w.sheets.eraseIdxIfInBounds sheet := by
    unfold Workbook.deleteSheet
    rw [Array.getElem?_eq_getElem hs]
    exact ⟨rfl, rfl, rfl⟩
  refine ⟨fun id r' hr' => ?_, fun n hn => ?_, ?_, fun s hmem => ?_⟩
  · rw [get?_deleteSheet hw hs] at hr'
    obtain ⟨r, hr, hr'⟩ := Option.bind_eq_some_iff.mp hr'
    split_ifs at hr'
    cases hr'
    refine FormulaRecord.tokens_of_mapTokens (h.formulas id r hr) fun i t ht => ?_
    unfold breaking
    split_ifs
    · exact hT.broken ht
    · exact ht
  · rw [hparts.1] at hn
    obtain ⟨n, hmem, rfl⟩ := Array.mem_map.mp hn
    exact DefinedName.body_withoutSheet hT (h.names n hmem) sheet
  · rw [hparts.2.1]
    exact h.linkedNames
  · rw [hparts.2.2] at hmem
    rw [Array.eraseIdxIfInBounds, dif_pos hs] at hmem
    exact h.constants s (Array.mem_of_mem_eraseIdx hmem)

/-- **Operations keep what holds of all that is stored.** -/
theorem apply (hw : w.formulas.Coherent) {op : Operation} (hop : op.Brings T C) :
    (w.apply op).StoresOnly T C := by
  cases op with
  | addSheet name =>
    exact ⟨h.formulas, h.names, h.linkedNames, forall_constant_iff.mpr fun q v hv =>
      forall_constant_iff.mp h.constants q v (constant?_addSheet hv)⟩
  | addLink | recalculate => exact ⟨h.formulas, h.names, h.linkedNames, h.constants⟩
  | addName n =>
    refine ⟨h.formulas, fun m hm => ?_, h.linkedNames, h.constants⟩
    rcases Array.mem_push.mp hm with hm | rfl
    · exact h.names m hm
    · exact hop
  | addLinkedName link n => exact h.addLinkedName link hop
  | setValue p v => exact h.setValue hw p hop
  | setFormula p tokens => exact h.setFormula hw p hop
  | setShared sheet range body | setArray sheet range body =>
    exact h.setGroup hT hw sheet range hop
  | edit sheet axis change start count => exact h.edit hT hw _
  | deleteSheet sheet => exact h.deleteSheet hT hw sheet

end

end StoresOnly

/-! ### Settings and results -/

lemma settings_apply (op : Operation) : (w.apply op).settings = w.settings := by
  have hfilled (sheet : Nat) (range : CellRange) :
      (w.fillPlaceholders sheet range).settings = w.settings :=
    List.foldlRecOn (motive := fun v : Workbook => v.settings = w.settings) _ _ rfl
      fun _ hv _ _ => hv
  cases op with
  | addSheet | addLink | addName | addLinkedName | setFormula | recalculate => rfl
  | setValue p v =>
    show (w.setValue p v).settings = w.settings
    unfold setValue
    cases w.formulas.cellFormula? p <;> dsimp only <;> split <;> rfl
  | setShared sheet range body | setArray sheet range body => exact hfilled sheet range
  | edit sheet axis change start count => exact settings_edit
  | deleteSheet sheet =>
    show (w.deleteSheet sheet).settings = w.settings
    unfold Workbook.deleteSheet
    split <;> rfl

lemma settings_run (ops : List Operation) : (w.run ops).settings = w.settings :=
  List.foldlRecOn (motive := fun v : Workbook => v.settings = w.settings) ops _ rfl
    fun _ hv op _ => (settings_apply op).trans hv

lemma getElem?_of_erase {results : Std.HashMap Place Value} {q : Place}
    (h : (results.erase q)[p]? = some v) : results[p]? = some v := by
  rw [Std.HashMap.getElem?_erase] at h
  split_ifs at h
  exact h

/-- Results come from recalculations only. -/
lemma getElem?_results_of_apply {op : Operation} (hop : ∀ functions, op ≠ .recalculate functions)
    (h : (w.apply op).results[p]? = some v) : w.results[p]? = some v := by
  have hfilled {sheet : Nat} {range : CellRange}
      (h : (w.fillPlaceholders sheet range).results[p]? = some v) : w.results[p]? = some v :=
    List.foldlRecOn (motive := fun u : Workbook => u.results[p]? = some v →
      w.results[p]? = some v) _ _ id (fun _ hu _ _ h => hu (getElem?_of_erase h)) h
  cases op with
  | addSheet | addLink | addName | addLinkedName => exact h
  | setValue q u =>
    have hresults : (w.setValue q u).results = w.results.erase q := by
      unfold setValue
      cases w.formulas.cellFormula? q <;> dsimp only <;> split <;> rfl
    change (w.setValue q u).results[p]? = some v at h
    exact getElem?_of_erase (hresults ▸ h)
  | setFormula q tokens => exact getElem?_of_erase h
  | setShared sheet range body | setArray sheet range body => exact hfilled h
  | edit sheet axis change start count =>
    change (w.edit _).results[p]? = some v at h
    unfold Workbook.edit at h
    split_ifs at h
    · exact h
    · simp [outdated, touch] at h
  | deleteSheet sheet =>
    change (w.deleteSheet sheet).results[p]? = some v at h
    unfold Workbook.deleteSheet at h
    split at h
    · exact h
    · simp [outdated, touch] at h
  | recalculate functions => exact absurd rfl (hop functions)

/-- A workbook stores only what was brought in. -/
theorem storesOnly_run (hT : Token.Lasting T) (settings : Settings) {ops : List Operation}
    (hops : ∀ op ∈ ops, op.Brings T C) : ((empty settings).run ops).StoresOnly T C := by
  have hrun : ∀ (ops : List Operation) (w : Workbook), (∀ op ∈ ops, op.Brings T C) →
      w.Reachable → w.StoresOnly T C → (w.run ops).StoresOnly T C := by
    intro ops
    induction ops with
    | nil => exact fun w _ _ h => h
    | cons op ops ih =>
      intro w hops hw h
      rw [List.forall_mem_cons] at hops
      exact ih (w.apply op) hops.2 (hw.apply op) (h.apply hT hw.coherent hops.1)
  exact hrun ops _ hops ⟨settings, [], rfl⟩ (.empty settings)

end Workbook

end Spreadsheet
