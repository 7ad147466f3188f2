import Spreadsheet.Proofs.EditRecords

/-!
What an edit makes of a workbook on its grid.

Constants and formulas of the edited sheet come to the new places of their cells, tokens that the
edit finds get their new form, and so do all references of names through links to that sheet. Areas
may have their corners in any order here, and the grid may have any size.
-/

namespace Spreadsheet

/-! ### Constants -/

namespace GridEdit

variable {e : GridEdit} {limits : Limits}

/-- Puts a constant to its new place, if there is one. -/
def moveConstant (e : GridEdit) (moved : Std.HashMap Cell Value) (c : Cell) (v : Value) :
    Std.HashMap Cell Value :=
  match e.cell? c with
  | some c => moved.insert c v
  | none => moved

lemma getElem?_moveConstant (e : GridEdit) (moved : Std.HashMap Cell Value) (c q : Cell)
    (v : Value) :
    (e.moveConstant moved c v)[q]? = if e.cell? c = some q then some v else moved[q]? := by
  unfold moveConstant
  rcases e.cell? c with _ | d
  · simp
  · simp only [Std.HashMap.getElem?_insert, beq_iff_eq, Option.some.injEq]

/-- Constants of different cells on the grid come to different places. -/
lemma getElem?_moveConstants (he : e.Suits limits) {xs : List (Cell × Value)}
    (hxs : xs.Pairwise fun x y => x.1 ≠ y.1) (hgrid : ∀ x ∈ xs, limits.Holds x.1)
    (moved : Std.HashMap Cell Value) (q : Cell) (v : Value) :
    (xs.foldl (fun m x => e.moveConstant m x.1 x.2) moved)[q]? = some v ↔
      (∃ p, (p, v) ∈ xs ∧ e.cell? p = some q) ∨
        (∀ x ∈ xs, e.cell? x.1 ≠ some q) ∧ moved[q]? = some v := by
  induction xs generalizing moved with
  | nil => simp
  | cons x xs ih =>
    obtain ⟨hne, hxs⟩ := List.pairwise_cons.mp hxs
    have hrest : ∀ y ∈ xs, limits.Holds y.1 := fun y hy => hgrid y (List.mem_cons_of_mem x hy)
    rw [List.foldl_cons, ih hxs hrest, getElem?_moveConstant]
    by_cases hx : e.cell? x.1 = some q
    · have hnone : ∀ y ∈ xs, e.cell? y.1 ≠ some q := fun y hy hq =>
        hne y hy (cell?_inj he (hgrid x List.mem_cons_self) (hrest y hy) hx hq)
      rw [if_pos hx]
      constructor
      · rintro (⟨p, hp, hq⟩ | ⟨-, hv⟩)
        · exact absurd hq (hnone _ hp)
        · exact Or.inl ⟨x.1, by rw [← Option.some.inj hv]; exact List.mem_cons_self, hx⟩
      · rintro (⟨p, hp, hq⟩ | ⟨h, -⟩)
        · rcases List.mem_cons.mp hp with rfl | hp
          · exact Or.inr ⟨hnone, rfl⟩
          · exact absurd hq (hnone _ hp)
        · exact absurd hx (h x List.mem_cons_self)
    · rw [if_neg hx]
      constructor
      · rintro (⟨p, hp, hq⟩ | ⟨h, hv⟩)
        · exact Or.inl ⟨p, List.mem_cons_of_mem x hp, hq⟩
        · exact Or.inr ⟨List.forall_mem_cons.mpr ⟨hx, h⟩, hv⟩
      · rintro (⟨p, hp, hq⟩ | ⟨h, hv⟩)
        · rcases List.mem_cons.mp hp with rfl | hp
          · exact absurd hq hx
          · exact Or.inl ⟨p, hp, hq⟩
        · exact Or.inr ⟨(List.forall_mem_cons.mp h).2, hv⟩

theorem getElem?_constants_edit (he : e.Suits limits) {s : Sheet}
    (hgrid : ∀ (p : Cell) (v : Value), s.constants[p]? = some v → limits.Holds p) (q : Cell)
    (v : Value) : (s.edit e).constants[q]? = some v ↔
      ∃ p, e.cell? p = some q ∧ s.constants[p]? = some v := by
  have hdistinct : s.constants.toList.Pairwise fun x y => x.1 ≠ y.1 :=
    Std.HashMap.distinct_keys_toList.imp fun h => by simpa using h
  have hmem : ∀ {p : Cell} {v : Value}, (p, v) ∈ s.constants.toList ↔ s.constants[p]? = some v :=
    Std.HashMap.mem_toList_iff_getElem?_eq_some
  have heq : (s.edit e).constants =
      s.constants.toList.foldl (fun m x => e.moveConstant m x.1 x.2) ∅ :=
    Std.HashMap.fold_eq_foldl_toList
  rw [heq, getElem?_moveConstants he hdistinct fun x hx => hgrid x.1 x.2 (hmem.mp hx)]
  simp only [hmem, Std.HashMap.getElem?_empty, reduceCtorEq, and_false, or_false]
  exact exists_congr fun p => and_comm

end GridEdit

/-! ### Names -/

/-- What the scan makes of a name. Only references into other sheets can mean the edited one. -/
def GridEdit.scanName (e : GridEdit) (links : SheetLinks) (n : DefinedName) : DefinedName :=
  { n with body := n.body.map fun t =>
      if t.link?.bind links.localSheet? = some e.sheet then e.moveToken t else t }

lemma GridEdit.scanName_eq (e : GridEdit) (links : SheetLinks) (n : DefinedName) :
    n.edit links e = e.scanName links n := by
  unfold DefinedName.edit scanName
  congr 2
  funext t
  cases t <;> rfl

/-! ### The index of places -/

namespace FormulaStore

variable {s s' : FormulaStore} {links : SheetLinks} {limits : Limits} {e : GridEdit}

lemma OnGrid.cellFormula?_eq_some (hs : s.OnGrid limits links) {p : Place} {id : Nat} :
    s.cellFormula? p = some id ↔ ∃ r, s.get? id = some r ∧ r.place = p := by
  refine (hs.agrees.coherent.index _ id).trans
    (exists_congr fun r => and_congr_right fun hr => ?_)
  simp [FormulaRecord.key, (hs.records id r hr).kind]

theorem OnGrid.cellFormula?_edit (hs : s.OnGrid limits links) (he : e.Suits limits) (q : Cell)
    (id : Nat) : (s.edit links e).cellFormula? ⟨e.sheet, q⟩ = some id ↔
      ∃ p, e.cell? p = some q ∧ s.cellFormula? ⟨e.sheet, p⟩ = some id := by
  simp only [(hs.edit he).cellFormula?_eq_some, hs.cellFormula?_eq_some, hs.get?_edit he,
    Option.bind_eq_some_iff]
  constructor
  · rintro ⟨r', ⟨r, hr, hedit⟩, hplace⟩
    by_cases hsheet : r.sheet = e.sheet
    · rw [GridEdit.editRecord_of_eq hsheet] at hedit
      obtain ⟨c, hc, rfl⟩ := Option.map_eq_some_iff.mp hedit
      obtain rfl : c = q := (Place.mk.inj hplace).2
      exact ⟨r.position, hc, r, hr, by rw [FormulaRecord.place, hsheet]⟩
    · rw [GridEdit.editRecord_of_ne hsheet] at hedit
      cases hedit
      exact absurd (Place.mk.inj hplace).1 hsheet
  · rintro ⟨p, hp, r, hr, hplace⟩
    obtain ⟨hsheet, rfl⟩ := Place.mk.inj hplace
    refine ⟨⟨r.sheet, .cell q (r.tokens.map (e.editToken limits links r.sheet))⟩, ⟨r, hr, ?_⟩, ?_⟩
    · rw [GridEdit.editRecord_of_eq hsheet, hp]
      rfl
    · exact congrArg (Place.mk · q) hsheet

theorem OnGrid.cellFormula?_edit_of_ne (hs : s.OnGrid limits links) (he : e.Suits limits)
    {p : Place} (hp : p.sheet ≠ e.sheet) :
    (s.edit links e).cellFormula? p = s.cellFormula? p := by
  refine Option.ext fun id => ?_
  simp only [(hs.edit he).cellFormula?_eq_some, hs.cellFormula?_eq_some, hs.get?_edit he,
    Option.bind_eq_some_iff]
  constructor
  · rintro ⟨r', ⟨r, hr, hedit⟩, rfl⟩
    by_cases hsheet : r.sheet = e.sheet
    · rw [GridEdit.editRecord_of_eq hsheet] at hedit
      obtain ⟨c, hc, rfl⟩ := Option.map_eq_some_iff.mp hedit
      exact absurd hsheet hp
    · rw [GridEdit.editRecord_of_ne hsheet] at hedit
      cases hedit
      exact ⟨r, hr, by simp [FormulaRecord.place, FormulaRecord.position]⟩
  · rintro ⟨r, hr, rfl⟩
    exact ⟨_, ⟨r, hr, GridEdit.editRecord_of_ne hp⟩, by
      simp [FormulaRecord.place, FormulaRecord.position]⟩

end FormulaStore

/-! ### The parts of a workbook -/

namespace Workbook

/-- The constant of a cell. -/
def constant? (w : Workbook) (p : Place) : Option Value :=
  (w.sheets[p.sheet]?).bind fun s => s.constants[p.cell]?

section
variable {w : Workbook} {e : GridEdit}

/-- An edit of nothing, or of no sheet. -/
lemma edit_of_idle (h : e.count = 0 ∨ w.sheets.size ≤ e.sheet) : w.edit e = w := if_pos h

lemma edit_eq (hs : e.sheet < w.sheets.size) (hc : 1 ≤ e.count) : w.edit e = outdated { w with
    formulas := w.formulas.edit w.links e
    names := w.names.map (·.edit w.links e)
    sheets := w.sheets.modify e.sheet (·.edit e) } :=
  if_neg (by omega)

lemma links_edit : (w.edit e).links = w.links := by
  unfold edit
  split_ifs <;> rfl

lemma linkedNames_edit : (w.edit e).linkedNames = w.linkedNames := by
  unfold edit
  split_ifs <;> rfl

lemma settings_edit : (w.edit e).settings = w.settings := by
  unfold edit
  split_ifs <;> rfl

lemma limits_edit : (w.edit e).limits = w.limits := congrArg Settings.limits settings_edit

lemma sheet?_edit (hs : e.sheet < w.sheets.size) (hc : 1 ≤ e.count) (i : Nat) :
    (w.edit e).sheets[i]? =
      if e.sheet = i then (w.sheets[i]?).map (·.edit e) else w.sheets[i]? := by
  rw [edit_eq hs hc]
  exact Array.getElem?_modify

lemma size_sheets_edit : (w.edit e).sheets.size = w.sheets.size := by
  unfold edit
  split_ifs
  · rfl
  · exact Array.size_modify

lemma sheetName?_edit (i : Nat) : (w.edit e).sheetName? i = w.sheetName? i := by
  by_cases h : e.count = 0 ∨ w.sheets.size ≤ e.sheet
  · rw [edit_of_idle h]
  · simp only [sheetName?, sheet?_edit (w := w) (e := e) (by omega) (by omega)]
    split_ifs
    · rw [Option.map_map]
      rfl
    · rfl

lemma formulas_edit (hs : e.sheet < w.sheets.size) (hc : 1 ≤ e.count) :
    (w.edit e).formulas = w.formulas.edit w.links e := by
  rw [edit_eq hs hc]
  rfl

lemma names_edit (hs : e.sheet < w.sheets.size) (hc : 1 ≤ e.count) :
    (w.edit e).names = w.names.map (e.scanName w.links) := by
  rw [edit_eq hs hc]
  exact congrArg w.names.map (funext fun n => e.scanName_eq w.links n)

lemma constant?_edit (he : e.Suits w.limits) (hs : e.sheet < w.sheets.size) (hc : 1 ≤ e.count)
    (hgrid : ∀ p v, w.constant? p = some v → w.limits.Holds p.cell) (q : Cell) (v : Value) :
    (w.edit e).constant? ⟨e.sheet, q⟩ = some v ↔
      ∃ p, e.cell? p = some q ∧ w.constant? ⟨e.sheet, p⟩ = some v := by
  have hsheet : ∀ (p : Cell) (v : Value), w.sheets[e.sheet].constants[p]? = some v →
      w.limits.Holds p := by
    intro p v hv
    refine hgrid ⟨e.sheet, p⟩ v ?_
    simp [constant?, hs, hv]
  have := GridEdit.getElem?_constants_edit he hsheet q v
  simpa [constant?, sheet?_edit hs hc, hs] using this

lemma constant?_edit_of_ne (hs : e.sheet < w.sheets.size) (hc : 1 ≤ e.count) {p : Place}
    (hp : p.sheet ≠ e.sheet) : (w.edit e).constant? p = w.constant? p := by
  simp only [constant?, sheet?_edit hs hc, if_neg (Ne.symm hp)]

/-- Constants stay on the grid. -/
lemma holds_constant?_edit (he : e.Suits w.limits) (hs : e.sheet < w.sheets.size)
    (hc : 1 ≤ e.count) (hgrid : ∀ p v, w.constant? p = some v → w.limits.Holds p.cell) {p : Place}
    {v : Value} (hv : (w.edit e).constant? p = some v) : w.limits.Holds p.cell := by
  by_cases hp : p.sheet = e.sheet
  · obtain ⟨s, q⟩ := p
    obtain rfl : s = e.sheet := hp
    obtain ⟨p, hp, hv⟩ := (constant?_edit he hs hc hgrid q v).mp hv
    exact GridEdit.holds_cell? he (hgrid _ v hv) hp
  · rw [constant?_edit_of_ne hs hc hp] at hv
    exact hgrid p v hv

end

end Workbook

end Spreadsheet
