import Spreadsheet.Proofs.EditRecords
import Spreadsheet.Proofs.Extents
import Spreadsheet.Proofs.Lookup
import Spreadsheet.Proofs.SheetRemoval

/-!
Anchors of groups and of array blocks.

The anchor is a corner of its range, and stays one: an edit that leaves the anchor in place leaves
some of the range, and moves the two together. So a group goes if and only if its anchor does, and
what is left of its range covers the cells that it covered before.
-/

namespace Spreadsheet

/-- The cells that a formula is for. -/
def FormulaBody.extent : FormulaBody → CellRange
  | cell c _ => .single c
  | shared f => f.range
  | array f => f.range

def CellRange.IsCorner (r : CellRange) (c : Cell) : Prop :=
  ∀ a : Axis, a.coordinate c = a.coordinate r.start ∨ a.coordinate c = a.coordinate r.stop

/-- The formula has its place in a corner of its cells. -/
def FormulaBody.Anchored (b : FormulaBody) : Prop := b.extent.IsCorner b.position

lemma FormulaBody.anchored_of_start {b : FormulaBody} (h : b.position = b.extent.start) :
    b.Anchored :=
  fun _ => Or.inl (by rw [h])

@[simp] lemma FormulaRecord.extent_mapTokens (r : FormulaRecord) (f : Nat → Token → Token) :
    (r.mapTokens f).body.extent = r.body.extent := by
  obtain ⟨sheet, body⟩ := r
  cases body <;> rfl

lemma FormulaBody.Anchored.mapTokens {r : FormulaRecord} (h : r.body.Anchored)
    (f : Nat → Token → Token) : (r.mapTokens f).body.Anchored := by
  unfold Anchored
  rw [FormulaRecord.extent_mapTokens, show (r.mapTokens f).body.position = r.position from
    r.position_mapTokens f]
  exact h

lemma CellRange.isCorner_ofCorners {c d d' : Cell}
    (h : ∀ a : Axis, a.coordinate c = a.coordinate d ∨ a.coordinate c = a.coordinate d') :
    (ofCorners d d').IsCorner c := by
  intro a
  have ha := h a
  cases a <;> simp only [ofCorners, Axis.coordinate] at ha ⊢ <;> omega

/-! ### Ranges -/

namespace GridEdit

open CellRange

variable {e : GridEdit} {i lo hi i' lo' hi' : Nat} {r r' : CellRange} {c c' : Cell}

/-- An edit takes a cell of the range to a cell of the new range, and no other cell. -/
theorem mem_range?_iff (hlast : e.last < maxCoordinate) (hr : e.axis.coordinate r.stop ≤ e.last)
    (hlt : e.axis.coordinate c < maxCoordinate) (h : e.range? r = some r')
    (hc : e.cell? c = some c') : c' ∈ r' ↔ c ∈ r := by
  obtain ⟨lo, hi, hspan, hstart, hstop⟩ := range?_eq_some_of_le hlast hr h
  have hmove := coordinate_cell? hc
  have hmem := mem_span?_iff hlast (coordinate_start_le e.axis r) hr hlt hspan hmove
  obtain ⟨i, -, rfl⟩ := cell?_eq_some.mp hc
  rw [coordinate_withCoordinate] at hmem
  rw [CellRange.mem_iff, CellRange.mem_iff, hstart, hstop]
  cases ha : e.axis <;> simp only [ha, Axis.coordinate, Axis.withCoordinate] at hmem ⊢ <;> omega

/-- The range of a block starts where its anchor comes to. -/
lemma start_range? (hlast : e.last < maxCoordinate) (hr : e.axis.coordinate r.stop ≤ e.last)
    (h : e.range? r = some r') (hc : e.cell? r.start = some c) : r'.start = c := by
  obtain ⟨lo, hi, hspan, hstart, -⟩ := range?_eq_some_of_le hlast hr h
  obtain ⟨i, hi, rfl⟩ := cell?_eq_some.mp hc
  rw [hstart, span?_fst hspan hi]

/-- A corner that stays is a corner of what is left of the range, and there is something left. -/
theorem isCorner_range? (hcorner : r.IsCorner c) (hc : e.cell? c = some c') :
    ∃ r', e.range? r = some r' ∧ r'.IsCorner c' := by
  obtain ⟨i, hi, rfl⟩ := cell?_eq_some.mp hc
  have hend : (e.index? (e.axis.coordinate r.start)).isSome ∨
      (e.index? (e.axis.coordinate r.stop)).isSome := by
    rcases hcorner e.axis with h | h <;> rw [h] at hi <;> simp [hi]
  obtain ⟨⟨lo, hi'⟩, hspan⟩ :=
    Option.isSome_iff_exists.mp (isSome_span? (coordinate_start_le e.axis r) hend)
  refine ⟨_, Option.bind_eq_some_iff.mpr ⟨_, hspan, rfl⟩, isCorner_ofCorners fun a => ?_⟩
  rcases Decidable.em (a = e.axis) with rfl | ha
  · simp only [coordinate_withCoordinate]
    rcases hcorner e.axis with h | h <;> rw [h] at hi
    · exact Or.inl (span?_fst hspan hi).symm
    · exact Or.inr (span?_snd hspan hi).symm
  · simp only [coordinate_withCoordinate_of_ne ha]
    exact hcorner a

end GridEdit

/-! ### Moved formulas -/

namespace GridEdit

variable {e : GridEdit} {b : FormulaBody} {c : Cell}

@[simp] lemma keeps_mapTokens (r : FormulaRecord) (f : Nat → Token → Token) :
    e.keeps (r.mapTokens f).body = e.keeps r.body := by
  obtain ⟨sheet, body⟩ := r
  cases body <;> rfl

@[simp] lemma kind_moveBody : (e.moveBody b).kind = b.kind := by
  cases b <;> rfl

lemma isSome_of_keeps (hk : e.keeps b) : (e.cell? b.position).isSome := by
  cases b with
  | cell c tokens => exact hk
  | shared f => exact (Bool.and_eq_true_iff.mp hk).1
  | array f => exact (Bool.and_eq_true_iff.mp hk).1

/-- A formula in a corner of its cells stays if its place does. -/
lemma keeps_of_anchored (h : b.Anchored) (hc : (e.cell? b.position).isSome) : e.keeps b := by
  obtain ⟨a, ha⟩ := Option.isSome_iff_exists.mp hc
  obtain ⟨r, hr, -⟩ := isCorner_range? h ha
  have hextent : (e.range? b.extent).isSome := Option.isSome_of_eq_some hr
  cases b with
  | cell c tokens => exact hc
  | shared f => exact Bool.and_eq_true_iff.mpr ⟨hc, hextent⟩
  | array f => exact Bool.and_eq_true_iff.mpr ⟨hc, hextent⟩

/-- The cells of a group or a block move with it. -/
lemma range?_extent (hk : e.keeps b) (hkind : b.kind ≠ .cell) :
    e.range? b.extent = some (e.moveBody b).extent := by
  cases b with
  | cell c tokens => exact absurd rfl hkind
  | shared f =>
    obtain ⟨r, hr⟩ := Option.isSome_iff_exists.mp (Bool.and_eq_true_iff.mp hk).2
    simp only [moveBody, FormulaBody.extent, hr, Option.getD_some]
  | array f =>
    obtain ⟨r, hr⟩ := Option.isSome_iff_exists.mp (Bool.and_eq_true_iff.mp hk).2
    simp only [moveBody, FormulaBody.extent, hr, Option.getD_some]

lemma position_moveBody (hlast : e.last < maxCoordinate)
    (hblock : b.kind = .array → e.axis.coordinate b.extent.stop ≤ e.last) (hk : e.keeps b)
    (hc : e.cell? b.position = some c) : (e.moveBody b).position = c := by
  cases b with
  | cell d tokens =>
    change e.cell? d = some c at hc
    simp only [moveBody, FormulaBody.position, hc, Option.getD_some]
  | shared f =>
    change e.cell? f.anchor = some c at hc
    simp only [moveBody, FormulaBody.position, hc, Option.getD_some]
  | array f =>
    exact start_range? hlast (hblock rfl) (range?_extent hk (by simp [FormulaBody.kind])) hc

lemma anchored_moveBody (h : b.Anchored) (hk : e.keeps b) : (e.moveBody b).Anchored := by
  cases b with
  | cell c tokens => exact FormulaBody.anchored_of_start rfl
  | array f => exact FormulaBody.anchored_of_start rfl
  | shared f =>
    obtain ⟨a, ha⟩ := Option.isSome_iff_exists.mp (isSome_of_keeps hk)
    obtain ⟨r, hr, hcorner⟩ := isCorner_range? h ha
    rw [range?_extent hk (by simp [FormulaBody.kind])] at hr
    change e.cell? f.anchor = some a at ha
    cases hr
    simp only [moveBody, ha, Option.getD_some] at hcorner ⊢
    exact hcorner

end GridEdit

/-! ### What an edit leaves of a formula -/

/-- Placeholders stay as they are, and no other token becomes one. -/
def KeepsPlaceholders (f : Nat → Token → Token) : Prop :=
  ∀ i t row col, f i t = .exp row col ↔ t = .exp row col

lemma placeholderAnchor?_eq_some_iff {tokens : List Token} {anchor : Cell} :
    placeholderAnchor? tokens = some anchor ↔
      ∃ row col rest, tokens = .exp row col :: rest ∧ ⟨row.toNat, col.toNat⟩ = anchor := by
  unfold placeholderAnchor?
  split
  · simp
  · simp_all

lemma KeepsPlaceholders.placeholderAnchor? {f : Nat → Token → Token} (hf : KeepsPlaceholders f)
    (tokens : List Token) :
    Spreadsheet.placeholderAnchor? (tokens.mapIdx f) = Spreadsheet.placeholderAnchor? tokens := by
  refine Option.ext fun anchor => ?_
  rw [placeholderAnchor?_eq_some_iff, placeholderAnchor?_eq_some_iff]
  cases tokens with
  | nil => simp
  | cons t tokens => simp [List.mapIdx_cons, hf 0 t]

namespace GridEdit

variable {e : GridEdit} {links : SheetLinks}

lemma moveToken_eq_exp_iff {t : Token} {row col : UInt16} :
    e.moveToken t = .exp row col ↔ t = .exp row col := by
  unfold moveToken
  split <;> first | (split <;> simp) | exact Iff.rfl

lemma scanToken_eq_exp_iff {own : Nat} {t : Token} {row col : UInt16} :
    e.scanToken links own t = .exp row col ↔ t = .exp row col := by
  unfold scanToken
  split_ifs
  · exact moveToken_eq_exp_iff
  · exact Iff.rfl

end GridEdit

namespace FormulaStore

variable {s : FormulaStore} {links : SheetLinks} {e : GridEdit} {k : Nat} {r r' : FormulaRecord}

/-- `s'` is `s` with tokens changed, but no placeholders. -/
structure Retokened (s s' : FormulaStore) : Prop where
  coherent : s'.Coherent
  get? : ∀ k, ∃ f, KeepsPlaceholders f ∧ s'.get? k = (s.get? k).map (·.mapTokens f)

lemma Retokened.trans {s₁ s₂ s₃ : FormulaStore} (h : Retokened s₁ s₂) (h' : Retokened s₂ s₃) :
    Retokened s₁ s₃ := by
  refine ⟨h'.coherent, fun k => ?_⟩
  obtain ⟨f, hf, hk⟩ := h.get? k
  obtain ⟨g, hg, hk'⟩ := h'.get? k
  refine ⟨fun i t => g i (f i t), fun i t row col => (hg i _ row col).trans (hf i t row col), ?_⟩
  rw [hk', hk, Option.map_map]
  refine congrArg (Option.map · _) (funext fun r => ?_)
  exact r.mapTokens_mapTokens f g

lemma Replaced.retokened {s' : FormulaStore} {rule : Nat → Token → Option Token}
    {p : Handle → Prop} [DecidablePred p] (h : Replaced s s' rule p)
    (hrule : ∀ own t row col, (rule own t).getD t = .exp row col ↔ t = .exp row col) :
    Retokened s s' := by
  refine ⟨h.coherent, fun k => ?_⟩
  rcases hr : s.get? k with _ | r
  · refine ⟨fun _ t => t, fun _ _ _ _ => Iff.rfl, ?_⟩
    rw [h.get?, hr]
    rfl
  · refine ⟨fun i t => if p ⟨k, i⟩ then (rule r.sheet t).getD t else t,
      fun i t row col => ?_, ?_⟩
    · dsimp only
      split_ifs
      · exact hrule r.sheet t row col
      · exact Iff.rfl
    · rw [h.get?, hr]
      rfl

lemma retokened_moveTokens (hs : s.Coherent) (links : SheetLinks) (e : GridEdit) :
    Retokened s ((s.moveObserved links e).moveWholeAreas links e) := by
  have hobserved := replaced_moveObserved hs links e
  refine (hobserved.retokened fun own t row col => ?_).trans
    ((replaced_moveWholeAreas hobserved.coherent links e).retokened fun own t row col => ?_)
  · rw [observedRule_getD]
    exact GridEdit.scanToken_eq_exp_iff
  · rw [wholeRule_getD]
    split_ifs
    · exact GridEdit.scanToken_eq_exp_iff
    · exact Iff.rfl

/-- The formulas when their tokens have changed and those without a place have gone. -/
def prepared (s : FormulaStore) (links : SheetLinks) (e : GridEdit) : FormulaStore :=
  ((s.moveObserved links e).moveWholeAreas links e).dropDeleted e

lemma coherent_prepared (hs : s.Coherent) (links : SheetLinks) (e : GridEdit) :
    (s.prepared links e).Coherent :=
  (removed_dropDeleted (retokened_moveTokens hs links e).coherent e).coherent

lemma exists_get?_prepared (hs : s.Coherent) (links : SheetLinks) (e : GridEdit) (k : Nat) :
    ∃ f, KeepsPlaceholders f ∧ (s.prepared links e).get? k =
      ((s.get? k).filter fun r => r.sheet != e.sheet || e.keeps r.body).map (·.mapTokens f) := by
  have hretokened := retokened_moveTokens hs links e
  obtain ⟨f, hf, hk⟩ := hretokened.get? k
  refine ⟨f, hf, ?_⟩
  rw [prepared, get?_dropDeleted hretokened.coherent, hk]
  rcases s.get? k with _ | r
  · rfl
  · have hbool : (!(r.sheet == e.sheet && !e.keeps r.body)) =
        (r.sheet != e.sheet || e.keeps r.body) := by
      simp [bne]
    rw [Option.map_some, Option.filter_some, Option.filter_some, FormulaRecord.sheet_mapTokens,
      GridEdit.keeps_mapTokens, hbool]
    split_ifs <;> rfl

lemma of_get?_prepared (hs : s.Coherent) (h : (s.prepared links e).get? k = some r') :
    ∃ r f, s.get? k = some r ∧ KeepsPlaceholders f ∧ r' = r.mapTokens f ∧
      (r.sheet = e.sheet → e.keeps r.body) := by
  obtain ⟨f, hf, hk⟩ := exists_get?_prepared hs links e k
  rw [hk] at h
  obtain ⟨r, hr, rfl⟩ := Option.map_eq_some_iff.mp h
  obtain ⟨hr, hkept⟩ := Option.filter_eq_some_iff.mp hr
  exact ⟨r, f, hr, hf, rfl, fun hsheet => by simpa [hsheet] using hkept⟩

/-- A formula behind an edit was there before, and had a place to move to if it is on the edited
sheet. -/
theorem of_get?_edit (hs : s.Coherent) (h : (s.edit links e).get? k = some r') :
    ∃ r f, s.get? k = some r ∧ KeepsPlaceholders f ∧
      (r.sheet ≠ e.sheet ∧ r' = r.mapTokens f ∨
        r.sheet = e.sheet ∧ e.keeps r.body ∧ r' = e.moveRecord (r.mapTokens f)) := by
  have hprepared := coherent_prepared hs links e
  obtain ⟨d, hd, rfl⟩ := of_get?_foldl_update hprepared (nodup_movingOrder _ e) links h
  obtain ⟨r, f, hr, hf, rfl, hkept⟩ := of_get?_prepared hs hd
  have hmem : k ∈ (s.prepared links e).movingOrder e ↔ r.sheet = e.sheet := by
    rw [mem_movingOrder]
    constructor
    · rintro ⟨d', hd', hsheet⟩
      rwa [← Option.some.inj (hd.symm.trans hd')] at hsheet
    · exact fun hsheet => ⟨_, hd, hsheet⟩
  refine ⟨r, f, hr, hf, ?_⟩
  by_cases hsheet : r.sheet = e.sheet
  · exact Or.inr ⟨hsheet, hkept hsheet, if_pos (hmem.mpr hsheet)⟩
  · exact Or.inl ⟨hsheet, if_neg fun hm => hsheet (hmem.mp hm)⟩

lemma key_moveRecord_mapTokens (e : GridEdit) (r : FormulaRecord) (f : Nat → Token → Token) :
    (e.moveRecord (r.mapTokens f)).key = (e.moveRecord r).key := by
  obtain ⟨sheet, body⟩ := r
  cases body <;> rfl

/-- A formula that has a place to move to is there after an edit, if none comes to its old place
while it waits, and those that come to its new place move before it. -/
theorem exists_get?_edit_of_apart (hs : s.Coherent) (links : SheetLinks) (hr : s.get? k = some r)
    (hsheet : r.sheet = e.sheet) (hkept : e.keeps r.body)
    (hold : ∀ a d, a ≠ k → s.get? a = some d → d.sheet = e.sheet → e.keeps d.body →
      (e.moveRecord d).key ≠ r.key)
    (hnew : ∀ a d, a ≠ k → s.get? a = some d → d.sheet = e.sheet → e.keeps d.body →
      (e.moveRecord d).key = (e.moveRecord r).key →
        if e.change = .insert then e.axis.coordinate r.position < e.axis.coordinate d.position
        else e.axis.coordinate d.position < e.axis.coordinate r.position) :
    ∃ f, KeepsPlaceholders f ∧
      (s.edit links e).get? k = some (e.moveRecord (r.mapTokens f)) := by
  obtain ⟨f, hf, hk⟩ := exists_get?_prepared hs links e k
  rw [hr, Option.filter_some, if_pos (by simp [hkept]), Option.map_some] at hk
  have horder := ((s.prepared links e).pairwise_movingOrder e).and
    ((s.prepared links e).nodup_movingOrder e)
  have hmem : k ∈ (s.prepared links e).movingOrder e := mem_movingOrder.mpr ⟨_, hk, hsheet⟩
  have hmoving {a : Nat} (ha : a ∈ (s.prepared links e).movingOrder e) {d' : FormulaRecord}
      (hd' : (s.prepared links e).get? a = some d') : ∃ d, s.get? a = some d ∧
        d.sheet = e.sheet ∧ e.keeps d.body ∧ d'.position = d.position ∧
        (e.moveRecord d').key = (e.moveRecord d).key := by
    obtain ⟨d, g, hd, -, rfl, hkept⟩ := of_get?_prepared hs hd'
    obtain ⟨d'', hd'', hsheet⟩ := mem_movingOrder.mp ha
    rw [← Option.some.inj (hd'.symm.trans hd'')] at hsheet
    exact ⟨d, hd, hsheet, hkept hsheet, d.position_mapTokens g, key_moveRecord_mapTokens e d g⟩
  refine ⟨f, hf, get?_foldl_update_of_moved (coherent_prepared hs links e)
    (nodup_movingOrder _ e) links hk hmem ?_ ?_⟩
  · refine horder.imp_of_mem fun {a b} ha _ hab hb d' hd' => ?_
    obtain ⟨d, hd, hdsheet, hdkept, -, hkey⟩ := hmoving ha hd'
    rw [hkey, FormulaRecord.key_mapTokens]
    exact hold a d (hb ▸ hab.2) hd hdsheet hdkept
  · refine horder.imp_of_mem fun {a b} _ hb hab ha d' hd' htaken => ?_
    obtain ⟨d, hd, hdsheet, hdkept, hposition, hkey⟩ := hmoving hb hd'
    rw [hkey, key_moveRecord_mapTokens] at htaken
    have hbefore := hnew b d (ha ▸ hab.2.symm) hd hdsheet hdkept htaken
    subst ha
    have hafter := hab.1 _ _ hk hd'
    rw [hposition, FormulaRecord.position_mapTokens] at hafter
    split_ifs at hbefore hafter <;> omega

/-- Nothing stands in the way when an edit moves the formulas of its sheet: no coordinate is as
great as the one that is never deleted, and array blocks lie on the grid. -/
structure Movable (e : GridEdit) (s : FormulaStore) : Prop where
  last_lt : e.last < GridEdit.maxCoordinate
  position_lt : ∀ k r, s.get? k = some r → r.sheet = e.sheet →
    e.axis.coordinate r.position < GridEdit.maxCoordinate
  block_le : ∀ k r, s.get? k = some r → r.sheet = e.sheet → r.body.kind = .array →
    e.axis.coordinate r.body.extent.stop ≤ e.last

lemma Movable.prepared (h : s.Movable e) (hs : s.Coherent) (links : SheetLinks) :
    (s.prepared links e).Movable e := by
  refine ⟨h.last_lt, fun k r' hr' hsheet => ?_, fun k r' hr' hsheet hkind => ?_⟩
  · obtain ⟨r, f, hr, -, rfl, -⟩ := of_get?_prepared hs hr'
    rw [FormulaRecord.position_mapTokens]
    exact h.position_lt k r hr hsheet
  · obtain ⟨r, f, hr, -, rfl, -⟩ := of_get?_prepared hs hr'
    rw [FormulaRecord.kind_mapTokens] at hkind
    rw [FormulaRecord.extent_mapTokens]
    exact h.block_le k r hr hsheet hkind

lemma Movable.placed (h : s.Movable e)
    (hkeeps : ∀ k r, s.get? k = some r → r.sheet = e.sheet → e.keeps r.body) : s.Placed e := by
  refine ⟨h.position_lt, fun k r hr hsheet => ?_⟩
  have hkept := hkeeps k r hr hsheet
  obtain ⟨c, hc⟩ := Option.isSome_iff_exists.mp (GridEdit.isSome_of_keeps hkept)
  have hposition := GridEdit.position_moveBody h.last_lt (h.block_le k r hr hsheet) hkept hc
  refine ⟨c, hc, ?_⟩
  show (⟨(e.moveBody r.body).kind, ⟨r.sheet, (e.moveBody r.body).position⟩⟩ : FormulaKey) = _
  rw [GridEdit.kind_moveBody, hposition, hsheet]

/-- Where nothing stands in the way, each formula of the edited sheet that has a place to move to
moves there. -/
theorem Movable.exists_get?_edit (h : s.Movable e) (hs : s.Coherent) (links : SheetLinks)
    (hr : s.get? k = some r) (hsheet : r.sheet = e.sheet) (hkept : e.keeps r.body) :
    ∃ f, KeepsPlaceholders f ∧
      (s.edit links e).get? k = some (e.moveRecord (r.mapTokens f)) := by
  have hplaced := (h.prepared hs links).placed fun k r' hr' hsheet' => by
    obtain ⟨d, f, -, -, rfl, hkept⟩ := of_get?_prepared hs hr'
    rw [GridEdit.keeps_mapTokens]
    exact hkept hsheet'
  obtain ⟨f, hf, hk⟩ := exists_get?_prepared hs links e k
  refine ⟨f, hf, (hplaced.get?_moveRecords (coherent_prepared hs links e) links k).trans ?_⟩
  rw [hk, hr, Option.filter_some, if_pos (by simp [hkept]), Option.map_some, Option.map_some]
  exact congrArg some (if_pos hsheet)

end FormulaStore

/-! ### Anchors in workbooks -/

namespace Workbook

variable {w : Workbook}

lemma of_get?_insertRecord (hw : w.formulas.Coherent) {d r : FormulaRecord} {k : Nat}
    (h : (w.insertRecord d).2.formulas.get? k = some r) : r = d ∨ w.formulas.get? k = some r := by
  have hget : (w.insertRecord d).2.formulas.get? k = _ :=
    (FormulaStore.put_insert w.links d hw).get? k
  rw [hget] at h
  split_ifs at h
  · exact Or.inl (Option.some.inj h).symm
  · exact Or.inr (Option.filter_eq_some_iff.mp h).1

lemma of_get?_fillPlaceholders (hw : w.formulas.Coherent) (sheet : Nat) (range : CellRange) :
    (w.fillPlaceholders sheet range).formulas.Coherent ∧
      ∀ k r, (w.fillPlaceholders sheet range).formulas.get? k = some r →
        (∃ c ∈ range.cells, r = ⟨sheet, .cell c [placeholder range.start]⟩) ∨
          w.formulas.get? k = some r := by
  refine fillPlaceholders_induction (P := fun v => ∀ k r, v.formulas.get? k = some r →
    (∃ c ∈ range.cells, r = ⟨sheet, .cell c [placeholder range.start]⟩) ∨
      w.formulas.get? k = some r) hw (fun _ _ h => Or.inr h) fun v hv hfound c hc k r hr => ?_
  rcases of_get?_insertRecord hv hr with rfl | hr
  · exact Or.inl ⟨c, hc, rfl⟩
  · exact hfound k r hr

/-- What is stored once a group is set: the group, its placeholders and what was stored before. -/
lemma of_get?_insertGroup (hw : w.formulas.Coherent) {sheet : Nat} {range : CellRange}
    {d r : FormulaRecord} {k : Nat}
    (h : ((w.fillPlaceholders sheet range).insertRecord d).2.formulas.get? k = some r) :
    r = d ∨ (∃ c ∈ range.cells, r = ⟨sheet, .cell c [placeholder range.start]⟩) ∨
      w.formulas.get? k = some r := by
  obtain ⟨hfilled, hold⟩ := of_get?_fillPlaceholders hw sheet range
  exact (of_get?_insertRecord hfilled h).imp_right (hold k r)

/-- Every formula has its place in a corner of its cells. -/
theorem Reachable.anchored (hw : w.Reachable) :
    ∀ k r, w.formulas.get? k = some r → r.body.Anchored := by
  refine hw.induction (P := fun w => ∀ k r, w.formulas.get? k = some r → r.body.Anchored)
    (fun settings k r hr => ?_) fun w op hw h => ?_
  · simp [empty, FormulaStore.empty, FormulaStore.get?] at hr
  have hcoherent := Reachable.coherent hw
  have hgroup : ∀ (sheet : Nat) (range : CellRange) {d : FormulaRecord}, d.body.Anchored →
      ∀ k r, ((w.fillPlaceholders sheet range).insertRecord d).2.formulas.get? k = some r →
        r.body.Anchored := by
    intro sheet range d hd k r hr
    rcases of_get?_insertGroup hcoherent hr with rfl | ⟨c, -, rfl⟩ | hr
    · exact hd
    · exact FormulaBody.anchored_of_start rfl
    · exact h k r hr
  cases op with
  | addSheet | addLink | addName | addLinkedName | recalculate => exact h
  | setValue p v => exact fun k r hr => h k r (get?_of_setValue hcoherent p v hr)
  | setFormula p tokens =>
    intro k r hr
    rcases of_get?_insertRecord hcoherent hr with rfl | hr
    · exact FormulaBody.anchored_of_start rfl
    · exact h k r hr
  | setShared sheet range body => exact hgroup sheet range (FormulaBody.anchored_of_start rfl)
  | setArray sheet range body => exact hgroup sheet range (FormulaBody.anchored_of_start rfl)
  | edit sheet axis change start count =>
    intro k r' hr'
    change (w.edit _).formulas.get? k = some r' at hr'
    unfold Workbook.edit at hr'
    split_ifs at hr'
    · exact h k r' hr'
    · obtain ⟨r, f, hr, -, ⟨-, rfl⟩ | ⟨-, hkept, rfl⟩⟩ :=
        FormulaStore.of_get?_edit hcoherent hr'
      · exact (h k r hr).mapTokens f
      · refine GridEdit.anchored_moveBody ((h k r hr).mapTokens f) ?_
        rwa [GridEdit.keeps_mapTokens]
  | deleteSheet sheet =>
    intro k r' hr'
    change (w.deleteSheet sheet).formulas.get? k = some r' at hr'
    by_cases hs : sheet < w.sheets.size
    · rw [get?_deleteSheet hcoherent hs] at hr'
      obtain ⟨r, hr, hr'⟩ := Option.bind_eq_some_iff.mp hr'
      split_ifs at hr'
      cases hr'
      exact (h k r hr).mapTokens _
    · refine h k r' ?_
      unfold Workbook.deleteSheet at hr'
      rwa [Array.getElem?_eq_none (Nat.le_of_not_lt hs)] at hr'

end Workbook

end Spreadsheet
