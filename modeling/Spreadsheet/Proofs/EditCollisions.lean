import Spreadsheet.Proofs.GroupEdit
import Spreadsheet.Proofs.StoredContent

/-!
What a cell holds after an edit, and where an edit brings two cells to one place.

Constants and formulas move cell by cell. So a cell holds a constant or a formula afterwards if and
only if one of the cells that come to its place held one before. At most one cell comes to a place,
but for the end of the coordinates: a deletion that reaches it leaves out the greatest one, and what
is there comes to a place in front of the deleted block, where another cell may have stayed.
-/

namespace Spreadsheet

/-! ### Cells -/

namespace GridEdit

variable {e : GridEdit} {c d q : Cell}

/-- The cell lies in the deleted block, but not before the end that the block is given. -/
def Escapes (e : GridEdit) (c : Cell) : Prop :=
  e.change = .delete ∧ e.start ≤ e.axis.coordinate c ∧
    e.axis.coordinate c < e.start + e.count ∧ maxCoordinate ≤ e.axis.coordinate c

instance (e : GridEdit) (c : Cell) : Decidable (e.Escapes c) :=
  inferInstanceAs (Decidable (_ ∧ _))

/-- Of two cells that come to the same place one has escaped the deletion. -/
lemma eq_or_escapes (hc : e.cell? c = some q) (hd : e.cell? d = some q) :
    c = d ∨ e.Escapes c ∨ e.Escapes d := by
  have hcoordinate := coordinate_cell? hc
  have hcoordinate' := coordinate_cell? hd
  by_cases hsame : e.axis.coordinate c = e.axis.coordinate d
  · obtain ⟨i, -, hi⟩ := cell?_eq_some.mp hc
    obtain ⟨j, -, hj⟩ := cell?_eq_some.mp hd
    exact Or.inl (withCoordinate_inj (hi.trans hj.symm) hsame)
  · right
    unfold index? stop at hcoordinate hcoordinate'
    cases hchange : e.change with
    | insert =>
      simp only [hchange] at hcoordinate hcoordinate'
      split_ifs at hcoordinate hcoordinate' <;>
        simp only [Option.some.injEq] at hcoordinate hcoordinate' <;> omega
    | delete =>
      refine Or.imp (fun h => ⟨hchange, h⟩) (fun h => ⟨hchange, h⟩) ?_
      simp only [hchange] at hcoordinate hcoordinate'
      split_ifs at hcoordinate hcoordinate' <;>
        simp only [Option.some.injEq] at hcoordinate hcoordinate' <;> omega

/-- Where a record comes to a cell, it is the formula of a cell that comes there. -/
lemma key_moveRecord_eq_iff {r : FormulaRecord} (hkept : e.keeps r.body) {sheet : Nat} :
    (e.moveRecord r).key = ⟨.cell, ⟨sheet, q⟩⟩ ↔
      ∃ c, r.key = ⟨.cell, ⟨sheet, c⟩⟩ ∧ e.cell? c = some q := by
  obtain ⟨own, body⟩ := r
  cases body with
  | cell c tokens =>
    obtain ⟨c', hc'⟩ := Option.isSome_iff_exists.mp hkept
    have hmoved : (e.moveRecord ⟨own, .cell c tokens⟩).key = ⟨.cell, ⟨own, c'⟩⟩ := by
      show (⟨.cell, ⟨own, (e.cell? c).getD c⟩⟩ : FormulaKey) = _
      rw [hc']
      rfl
    rw [hmoved]
    constructor
    · intro hkey
      cases hkey
      exact ⟨c, rfl, hc'⟩
    · rintro ⟨d, hkey, hd⟩
      cases hkey
      rw [Option.some.inj (hc'.symm.trans hd)]
  | shared f => exact ⟨nofun, fun ⟨_, hkey, _⟩ => nomatch hkey⟩
  | array f => exact ⟨nofun, fun ⟨_, hkey, _⟩ => nomatch hkey⟩

lemma keeps_of_key {r : FormulaRecord} {sheet : Nat} (h : r.key = ⟨.cell, ⟨sheet, c⟩⟩) :
    e.keeps r.body = (e.cell? c).isSome := by
  obtain ⟨own, body⟩ := r
  cases body with
  | cell d tokens =>
    cases h
    rfl
  | shared f => cases h
  | array f => cases h

/-- A constant is found where one comes to, whichever was moved last. -/
lemma isSome_moveConstants (e : GridEdit) (xs : List (Cell × Value))
    (moved : Std.HashMap Cell Value) (q : Cell) :
    ((xs.foldl (fun m x => e.moveConstant m x.1 x.2) moved)[q]?).isSome ↔
      (∃ x ∈ xs, e.cell? x.1 = some q) ∨ (moved[q]?).isSome := by
  induction xs generalizing moved with
  | nil => simp
  | cons x xs ih =>
    rw [List.foldl_cons, ih, getElem?_moveConstant]
    by_cases hx : e.cell? x.1 = some q
    · simp [hx]
    · simp [hx]

theorem isSome_constants_edit (e : GridEdit) (s : Sheet) (q : Cell) :
    ((s.edit e).constants[q]?).isSome ↔
      ∃ c, e.cell? c = some q ∧ (s.constants[c]?).isSome := by
  have heq : (s.edit e).constants =
      s.constants.toList.foldl (fun m x => e.moveConstant m x.1 x.2) ∅ :=
    Std.HashMap.fold_eq_foldl_toList
  rw [heq, isSome_moveConstants]
  simp only [Prod.exists, Std.HashMap.mem_toList_iff_getElem?_eq_some, Std.HashMap.getElem?_empty,
    Option.isSome_none, Bool.false_eq_true, or_false, Option.isSome_iff_exists]
  exact exists_congr fun c =>
    ⟨fun ⟨v, hv, hc⟩ => ⟨hc, v, hv⟩, fun ⟨hc, v, hv⟩ => ⟨v, hv, hc⟩⟩

end GridEdit

/-! ### Formulas -/

namespace FormulaStore

variable {s : FormulaStore} {f : FormulaRecord → FormulaRecord} {ids : List Nat} {k : Nat}
  {r : FormulaRecord} {p : Place}

lemma isSome_cellFormula?_iff (hs : s.Coherent) :
    (s.cellFormula? p).isSome ↔ ∃ k r, s.get? k = some r ∧ r.key = ⟨.cell, p⟩ := by
  rw [Option.isSome_iff_exists]
  exact exists_congr fun k => hs.index _ k

/-- A place stays taken: a formula that does not move is displaced only by one that comes there. -/
lemma exists_key_foldl_update (hs : s.Coherent) (hn : ids.Nodup) (links : SheetLinks)
    (hr : s.get? k = some r) (hk : k ∉ ids) :
    ∃ k' r', (ids.foldl (fun s id => s.update links id f) s).get? k' = some r' ∧
      r'.key = r.key := by
  induction ids generalizing s k r with
  | nil => exact ⟨k, r, hr, rfl⟩
  | cons id ids ih =>
    obtain ⟨hid, hn⟩ := List.nodup_cons.mp hn
    obtain ⟨hne, hk⟩ := List.ne_and_not_mem_of_not_mem_cons hk
    rw [List.foldl_cons]
    rcases hd : s.get? id with _ | d
    · rw [update_of_none hd]
      exact ih hs hn hr hk
    · have hput := put_update hs hd links f
      by_cases hkey : (f d).key = r.key
      · have hnew : (s.update links id f).get? id = some (f d) := hput.get?_self
        obtain ⟨k', r', hr', hkey'⟩ := ih hput.coherent hn hnew hid
        exact ⟨k', r', hr', hkey'.trans hkey⟩
      · have hsame : (s.update links id f).get? k = some r :=
          hput.get?_of_ne hr hne (Ne.symm hkey)
        exact ih hput.coherent hn hsame hk

/-- A formula whose place nothing comes to before it moves is there when its turn comes, and its new
place is taken from then on. -/
lemma exists_key_of_moved (hs : s.Coherent) (hn : ids.Nodup) (links : SheetLinks)
    (hr : s.get? k = some r) (hk : k ∈ ids)
    (hclear : ids.Pairwise fun a b => b = k → ∀ d, s.get? a = some d → (f d).key ≠ r.key) :
    ∃ k' r', (ids.foldl (fun s id => s.update links id f) s).get? k' = some r' ∧
      r'.key = (f r).key := by
  induction ids generalizing s with
  | nil => cases hk
  | cons id ids ih =>
    obtain ⟨hid, hnodup⟩ := List.nodup_cons.mp hn
    obtain ⟨hfirst, hrest⟩ := List.pairwise_cons.mp hclear
    rw [List.foldl_cons]
    rcases List.mem_cons.mp hk with rfl | hk
    · have hput := put_update hs hr links f
      have hnew : (s.update links k f).get? k = some (f r) := hput.get?_self
      exact exists_key_foldl_update hput.coherent hnodup links hnew hid
    · have hne : k ≠ id := fun h => hid (h ▸ hk)
      rcases hd : s.get? id with _ | d
      · rw [update_of_none hd]
        exact ih hs hnodup hr hk hrest
      · have hput := put_update hs hd links f
        have hsame : (s.update links id f).get? k = some r :=
          hput.get?_of_ne hr hne (Ne.symm (hfirst k hk rfl d hd))
        refine ih hput.coherent hnodup hsame hk (hrest.imp_of_mem fun {a b} ha _ h hb d' hd' => ?_)
        rw [hput.get?, if_neg fun he : a = id => hid (he ▸ ha)] at hd'
        exact h hb d' (Option.filter_eq_some_iff.mp hd').1

/-- When the formula of a cell moves nothing has come to the cell: it would have come from there. -/
lemma pairwise_movingOrder_key {e : GridEdit} {c : Cell} (hs : s.Coherent)
    (hkeeps : ∀ k r, s.get? k = some r → r.sheet = e.sheet → e.keeps r.body)
    (hr : s.get? k = some r) (hkey : r.key = ⟨.cell, ⟨e.sheet, c⟩⟩) :
    (s.movingOrder e).Pairwise fun a b => b = k → ∀ d, s.get? a = some d →
      (e.moveRecord d).key ≠ r.key := by
  refine ((s.pairwise_movingOrder e).and (s.nodup_movingOrder e)).imp_of_mem ?_
  rintro a b ha - ⟨horder, hne⟩ rfl d hd htaken
  obtain ⟨d', hd', hsheet⟩ := mem_movingOrder.mp ha
  obtain rfl := Option.some.inj (hd.symm.trans hd')
  rw [hkey, GridEdit.key_moveRecord_eq_iff (hkeeps a d hd hsheet)] at htaken
  obtain ⟨c', hc', hmoves⟩ := htaken
  have hposition : d.position = c' := congrArg (·.place.cell) hc'
  have hposition' : r.position = c := congrArg (·.place.cell) hkey
  have hle := horder d r hd hr
  rw [hposition, hposition'] at hle
  obtain rfl := GridEdit.cell?_eq_of_le hmoves hle
  exact hne (hs.key_inj hd hr (hc'.trans hkey.symm))

/-- A formula of the edited sheet has come from a cell with a formula. -/
lemma exists_of_isSome_cellFormula?_edit (hs : s.Coherent) {links : SheetLinks} {e : GridEdit}
    {q : Cell} (h : ((s.edit links e).cellFormula? ⟨e.sheet, q⟩).isSome) :
    ∃ c, e.cell? c = some q ∧ (s.cellFormula? ⟨e.sheet, c⟩).isSome := by
  obtain ⟨k, r', hr', hkey⟩ := (isSome_cellFormula?_iff (coherent_edit hs links e)).mp h
  obtain ⟨r, g, hr, -, ⟨hsheet, rfl⟩ | ⟨hsheet, hkept, rfl⟩⟩ := of_get?_edit hs hr'
  · rw [FormulaRecord.key_mapTokens] at hkey
    exact absurd (congrArg (·.place.sheet) hkey) hsheet
  · have hkept' : e.keeps (r.mapTokens g).body := by rwa [GridEdit.keeps_mapTokens]
    obtain ⟨c, hc, hmoves⟩ := (GridEdit.key_moveRecord_eq_iff hkept').mp hkey
    rw [FormulaRecord.key_mapTokens] at hc
    exact ⟨c, hmoves, (isSome_cellFormula?_iff hs).mpr ⟨k, r, hr, hc⟩⟩

/-- The cell that a formula moves to has a formula after the edit. -/
lemma isSome_cellFormula?_edit_of_moves (hs : s.Coherent) (links : SheetLinks) {e : GridEdit}
    {c q : Cell} (hmoves : e.cell? c = some q) (h : (s.cellFormula? ⟨e.sheet, c⟩).isSome) :
    ((s.edit links e).cellFormula? ⟨e.sheet, q⟩).isSome := by
  obtain ⟨k, r, hr, hkey⟩ := (isSome_cellFormula?_iff hs).mp h
  have hkept : e.keeps r.body := by
    rw [GridEdit.keeps_of_key hkey, hmoves]
    rfl
  obtain ⟨g, -, hg⟩ := exists_get?_prepared hs links e k
  rw [hr, Option.filter_some, if_pos (by simp [hkept]), Option.map_some] at hg
  have hkey' : (r.mapTokens g).key = ⟨.cell, ⟨e.sheet, c⟩⟩ := by
    rw [FormulaRecord.key_mapTokens, hkey]
  have hkeeps : ∀ k r, (s.prepared links e).get? k = some r → r.sheet = e.sheet →
      e.keeps r.body := by
    intro k r' hr' hsheet
    obtain ⟨d, g, -, -, rfl, hd⟩ := of_get?_prepared hs hr'
    rw [GridEdit.keeps_mapTokens]
    exact hd hsheet
  have hprepared := coherent_prepared hs links e
  have hmem : k ∈ (s.prepared links e).movingOrder e :=
    mem_movingOrder.mpr ⟨_, hg, congrArg (·.place.sheet) hkey⟩
  obtain ⟨k', r', hr', hfound⟩ := exists_key_of_moved hprepared (nodup_movingOrder _ e) links hg
    hmem (pairwise_movingOrder_key hprepared hkeeps hg hkey')
  have hmoved : (e.moveRecord (r.mapTokens g)).key = ⟨.cell, ⟨e.sheet, q⟩⟩ :=
    (GridEdit.key_moveRecord_eq_iff (hkeeps k _ hg (congrArg (·.place.sheet) hkey))).mpr
      ⟨c, hkey', hmoves⟩
  exact (isSome_cellFormula?_iff (coherent_edit hs links e)).mpr
    ⟨k', r', hr', hfound.trans hmoved⟩

/-- A cell of the edited sheet has a formula if and only if a cell with a formula comes there. -/
theorem isSome_cellFormula?_edit (hs : s.Coherent) (links : SheetLinks) (e : GridEdit) (q : Cell) :
    ((s.edit links e).cellFormula? ⟨e.sheet, q⟩).isSome ↔
      ∃ c, e.cell? c = some q ∧ (s.cellFormula? ⟨e.sheet, c⟩).isSome :=
  ⟨exists_of_isSome_cellFormula?_edit hs, fun ⟨_, hmoves, h⟩ =>
    isSome_cellFormula?_edit_of_moves hs links hmoves h⟩

/-- An edit brings no formula to the other sheets. -/
lemma isSome_cellFormula?_of_edit (hs : s.Coherent) {links : SheetLinks} {e : GridEdit}
    (hp : p.sheet ≠ e.sheet) (h : ((s.edit links e).cellFormula? p).isSome) :
    (s.cellFormula? p).isSome := by
  obtain ⟨k, r', hr', hkey⟩ := (isSome_cellFormula?_iff (coherent_edit hs links e)).mp h
  obtain ⟨r, g, hr, -, ⟨-, rfl⟩ | ⟨hsheet, -, rfl⟩⟩ := of_get?_edit hs hr'
  · rw [FormulaRecord.key_mapTokens] at hkey
    exact (isSome_cellFormula?_iff hs).mpr ⟨k, r, hr, hkey⟩
  · exact absurd ((congrArg (·.place.sheet) hkey).symm.trans hsheet) hp

end FormulaStore

end Spreadsheet
