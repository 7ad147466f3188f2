import Spreadsheet.Proofs.LateLink

/-!
What is found at a place.

The index of a store finds a record by its kind and its place. All that a workbook answers about the
formulas at a place comes from such records, and so does the formula that a placeholder stands for.
-/

namespace Spreadsheet

namespace FormulaStore

/-- The record that the index finds. -/
def find? (s : FormulaStore) (key : FormulaKey) : Option FormulaRecord :=
  s.positions[key]?.bind s.get?

variable {s : FormulaStore} {key : FormulaKey} {r : FormulaRecord}

lemma find?_eq_some_iff (hs : s.Coherent) :
    s.find? key = some r ↔ ∃ id, s.get? id = some r ∧ r.key = key := by
  simp only [find?, Option.bind_eq_some_iff, hs.index]
  constructor
  · rintro ⟨id, ⟨r', hr', hkey⟩, hr⟩
    obtain rfl : r = r' := Option.some.inj (hr.symm.trans hr')
    exact ⟨id, hr, hkey⟩
  · rintro ⟨id, hr, hkey⟩
    exact ⟨id, ⟨r, hr, hkey⟩, hr⟩

lemma find?_empty (limits : Limits) (key : FormulaKey) :
    (FormulaStore.empty limits).find? key = none := by
  simp [find?, FormulaStore.empty]

/-- A stored record is found at its key; elsewhere the same is found as before. -/
theorem find?_insert (hs : s.Coherent) (links : SheetLinks) (r : FormulaRecord) (key : FormulaKey) :
    (s.insert links r).2.find? key = if r.key = key then some r else s.find? key := by
  have hput := put_insert links r hs
  refine Option.ext fun r' => ?_
  rw [find?_eq_some_iff hput.coherent]
  simp only [hput.get?]
  split_ifs with hkey
  · constructor
    · rintro ⟨id, hid, hr'⟩
      split_ifs at hid
      · exact hid
      · rw [Option.filter_eq_some_iff, hr', ← hkey] at hid
        simp at hid
    · rintro ⟨⟩
      exact ⟨_, if_pos rfl, hkey⟩
  · rw [find?_eq_some_iff hs]
    constructor
    · rintro ⟨id, hid, hr'⟩
      split_ifs at hid
      · cases hid
        exact absurd hr' hkey
      · exact ⟨id, (Option.filter_eq_some_iff.mp hid).1, hr'⟩
    · rintro ⟨id, hid, hr'⟩
      have hne : id ≠ s.records.size := by
        rintro rfl
        rw [get?_size] at hid
        cases hid
      refine ⟨id, ?_, hr'⟩
      rw [if_neg hne, Option.filter_eq_some_iff]
      exact ⟨hid, by simpa [hr'] using Ne.symm hkey⟩

lemma arrayAt?_eq_some_iff (hs : s.Coherent) {p : Place} {f : ArrayFormula} :
    s.arrayAt? p = some f ↔ s.find? ⟨.array, p⟩ = some ⟨p.sheet, .array f⟩ := by
  unfold arrayAt? find?
  simp only [Option.bind_eq_bind, Option.bind_eq_some_iff]
  constructor
  · rintro ⟨id, hid, ⟨sheet, body⟩, hr, hbody⟩
    obtain ⟨r, hr', hkey⟩ := (hs.index _ id).mp hid
    obtain rfl := Option.some.inj (hr.symm.trans hr')
    cases body with
    | cell c tokens => cases hbody
    | shared g => cases hbody
    | array g =>
      cases hbody
      cases hkey
      exact ⟨id, hid, hr⟩
  · rintro ⟨id, hid, hr⟩
    exact ⟨id, hid, _, hr, rfl⟩

end FormulaStore

namespace Workbook

variable {w : Workbook} {p : Place}

lemma Reachable.coherent (h : w.Reachable) : w.formulas.Coherent := by
  obtain ⟨settings, ops, rfl⟩ := h
  exact ((agrees_empty (fun _ _ => Or.inl rfl) settings).run_sound ops).coherent

lemma formula?_eq (w : Workbook) (p : Place) :
    w.formula? p = (w.formulas.find? ⟨.cell, p⟩).map FormulaRecord.tokens := by
  unfold formula? FormulaStore.find? FormulaStore.cellFormula?
  rcases w.formulas.positions[(⟨.cell, p⟩ : FormulaKey)]? with _ | id
  · rfl
  · show (do return (← w.formulas.get? id).tokens) = (w.formulas.get? id).map FormulaRecord.tokens
    rcases w.formulas.get? id with _ | r <;> rfl

/-- A cell without a formula shows its constant. -/
lemma cellValue_of_formula?_eq_none (hw : w.formulas.Coherent) (hp : w.formula? p = none) :
    w.cellValue p = ((w.sheets[p.sheet]?).bind fun s => s.constants[p.cell]?).getD .blank := by
  have hcell : ¬(w.formulas.cellFormula? p).isSome := by
    rw [Option.isSome_iff_exists]
    rintro ⟨id, hid⟩
    obtain ⟨r, hr, -⟩ := (hw.index _ id).mp hid
    rw [formula?_eq, Option.map_eq_none_iff] at hp
    exact nomatch hp.symm.trans (Option.bind_eq_some_iff.mpr ⟨id, hid, hr⟩)
  rw [cellValue, if_neg hcell]

lemma formula?_empty (settings : Settings) (p : Place) : (empty settings).formula? p = none := by
  rw [formula?_eq]
  exact congrArg _ (FormulaStore.find?_empty settings.limits _)

lemma coherent_setFormula (hw : w.formulas.Coherent) (q : Place) (tokens : List Token) :
    (w.setFormula q tokens).2.formulas.Coherent :=
  (FormulaStore.put_insert w.links ⟨q.sheet, .cell q.cell tokens⟩ hw).coherent

/-- What setting a formula keeps is kept while the cells of a group get their placeholders. -/
lemma fillPlaceholders_induction {P : Workbook → Prop} (hw : w.formulas.Coherent) (h : P w)
    {sheet : Nat} {range : CellRange}
    (hstep : ∀ u : Workbook, u.formulas.Coherent → P u → ∀ c ∈ range.cells,
      P (u.setFormula ⟨sheet, c⟩ [placeholder range.start]).2) :
    (w.fillPlaceholders sheet range).formulas.Coherent ∧ P (w.fillPlaceholders sheet range) :=
  List.foldlRecOn (motive := fun u : Workbook => u.formulas.Coherent ∧ P u) _ _ ⟨hw, h⟩
    fun u hu c hc => ⟨coherent_setFormula hu.1 _ _, hstep u hu.1 hu.2 c hc⟩

lemma find?_insertRecord (hw : w.formulas.Coherent) (r : FormulaRecord) (key : FormulaKey) :
    (w.insertRecord r).2.formulas.find? key =
      if r.key = key then some r else w.formulas.find? key :=
  FormulaStore.find?_insert hw w.links r key

lemma find?_setFormula (hw : w.formulas.Coherent) (q : Place) (tokens : List Token)
    (key : FormulaKey) : (w.setFormula q tokens).2.formulas.find? key =
      if ⟨.cell, q⟩ = key then some ⟨q.sheet, .cell q.cell tokens⟩ else w.formulas.find? key :=
  FormulaStore.find?_insert hw w.links ⟨q.sheet, .cell q.cell tokens⟩ key

lemma formula?_setFormula (hw : w.formulas.Coherent) (q : Place) (tokens : List Token)
    (p : Place) : (w.setFormula q tokens).2.formula? p =
      if q = p then some tokens else w.formula? p := by
  rw [formula?_eq, formula?_eq, find?_setFormula hw]
  have hkey : (⟨.cell, q⟩ : FormulaKey) = ⟨.cell, p⟩ ↔ q = p := by simp
  simp only [hkey]
  split_ifs <;> rfl

lemma boundTo?_eq_array_iff {anchor : Cell} {f : ArrayFormula} :
    w.boundTo? p anchor = some (.array f) ↔
      w.formulas.arrayAt? ⟨p.sheet, anchor⟩ = some f ∧ p.cell ∈ f.range := by
  have hshared : boundTo?.fromShared w p anchor ≠ some (.array f) := by
    simp [boundTo?.fromShared]
  unfold boundTo?
  rcases w.formulas.arrayAt? ⟨p.sheet, anchor⟩ with _ | g
  · simp [hshared]
  · dsimp only
    split_ifs with hp
    · simp only [Option.some.injEq, BoundFormula.array.injEq]
      exact ⟨by rintro rfl; exact ⟨rfl, hp⟩, And.left⟩
    · simp only [hshared, Option.some.injEq, false_iff, not_and]
      rintro rfl
      exact hp

/-- An array formula is bound to the cells that it covers, through their placeholders. -/
theorem instantiate_eq_array_iff {tokens : List Token} {f : ArrayFormula} :
    w.instantiate p tokens = .ok (.array f) ↔ ∃ anchor, placeholderAnchor? tokens = some anchor ∧
      w.formulas.arrayAt? ⟨p.sheet, anchor⟩ = some f ∧ p.cell ∈ f.range := by
  unfold instantiate
  rcases placeholderAnchor? tokens with _ | anchor
  · simp
  · simp only [Option.some.injEq, exists_eq_left', ← boundTo?_eq_array_iff]
    rcases w.boundTo? p anchor with _ | g <;> simp

end Workbook

end Spreadsheet
