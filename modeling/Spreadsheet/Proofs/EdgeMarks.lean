import Mathlib.Tactic.Common
import Spreadsheet.Proofs.Extents

/-!
The marks on the edges of an area under an edit.

An area has a mark for each row and column of its two corners, which are also the marks of its four
edges: that of the top row is the mark of the corner further up, and so on. An edit puts the corners
in order and leaves each of them its own marks, so that edges keep their marks unless corners that
were not in order had different ones. Such an area is also given a new form by edits that do not
touch it.
-/

namespace Spreadsheet

/-- For each edge of an area, whether its row or column is relative. -/
structure EdgeMarks where
  top : Bool
  bottom : Bool
  left : Bool
  right : Bool
  deriving DecidableEq, Repr

namespace AreaAddress

variable {a : AreaAddress}

/-- The marks of the edges. Of corners in the same row or column the first is taken to be further up
or to the left. -/
def edgeMarks (a : AreaAddress) : EdgeMarks where
  top := if a.first.row ≤ a.last.row then a.first.rowRelative else a.last.rowRelative
  bottom := if a.first.row ≤ a.last.row then a.last.rowRelative else a.first.rowRelative
  left := if a.first.col ≤ a.last.col then a.first.colRelative else a.last.colRelative
  right := if a.first.col ≤ a.last.col then a.last.colRelative else a.first.colRelative

/-- The top-left corner comes first. -/
def InOrder (a : AreaAddress) : Prop := a.first.row ≤ a.last.row ∧ a.first.col ≤ a.last.col

instance (a : AreaAddress) : Decidable a.InOrder := inferInstanceAs (Decidable (_ ∧ _))

/-- The area with its corners moved to those of a range. -/
def onto (a : AreaAddress) (r : CellRange) : AreaAddress :=
  ⟨a.first.withCell r.start, a.last.withCell r.stop⟩

lemma edgeMarks_onto (r : CellRange) : (a.onto r).edgeMarks =
    ⟨a.first.rowRelative, a.last.rowRelative, a.first.colRelative, a.last.colRelative⟩ := by
  simp only [edgeMarks, onto, Address.withCell, r.row_le, r.col_le, if_true]

/-- Edges that are those of the corners in order have the marks of the corners in order. -/
lemma edgeMarks_onto_eq_iff (r : CellRange) : (a.onto r).edgeMarks = a.edgeMarks ↔
    (a.first.row ≤ a.last.row ∨ a.first.rowRelative = a.last.rowRelative) ∧
      (a.first.col ≤ a.last.col ∨ a.first.colRelative = a.last.colRelative) := by
  rw [edgeMarks_onto]
  unfold edgeMarks
  by_cases hrow : a.first.row ≤ a.last.row <;> by_cases hcol : a.first.col ≤ a.last.col <;>
    simp [hrow, hcol, eq_comm]

lemma onto_range_eq_iff : a.onto a.range = a ↔ a.InOrder := by
  obtain ⟨⟨row, col, _, _⟩, ⟨row', col', _, _⟩⟩ := a
  simp only [onto, range, CellRange.ofCorners, Address.cell, Address.withCell, InOrder, mk.injEq,
    Address.mk.injEq, and_true]
  omega

end AreaAddress

namespace GridEdit

variable {e : GridEdit} {a a' : AreaAddress}

lemma area?_eq (e : GridEdit) (a : AreaAddress) :
    e.area? a = if e.spansAxis a.range then some a else (e.range? a.range).map a.onto := rfl

lemma movedToken?_eq_none {t : Token} : e.movedToken? t = none ↔ e.moveToken t = t := by
  unfold movedToken?
  dsimp only
  split_ifs with h <;> simp [h]

/-- A range stays if its first and its last coordinate do. -/
lemma range?_of_index? {r : CellRange}
    (hstart : e.index? (e.axis.coordinate r.start) = some (e.axis.coordinate r.start))
    (hstop : e.index? (e.axis.coordinate r.stop) = some (e.axis.coordinate r.stop)) :
    e.range? r = some r := by
  obtain ⟨⟨lo, hi⟩, hspan⟩ := Option.isSome_iff_exists.mp
    (isSome_span? (coordinate_start_le e.axis r) (.inl (Option.isSome_of_mem hstart)))
  obtain rfl := span?_fst hspan hstart
  obtain rfl := span?_snd hspan hstop
  rw [range?_eq_map, hspan]
  simp [ofCorners_start_stop]

/-- The token of an area is rewritten if the area changes. -/
lemma movedToken?_area (h : e.area? a = some a') :
    (∀ cls, e.movedToken? (.area cls a) = none ↔ a' = a) ∧
      ∀ cls link, e.movedToken? (.area3d cls link a) = none ↔ a' = a := by
  constructor
  · intro cls
    simp [movedToken?_eq_none, moveToken, h]
  · intro cls link
    simp [movedToken?_eq_none, moveToken, h]

/-- The edges of an area keep their marks if and only if the area takes in the whole axis of the
edit, or its corners are in order or have the same marks. If the range of the area stays, the area
is left as it is if and only if it takes in the whole axis or its corners are in order. -/
theorem edgeMarks_area?_iff (h : e.area? a = some a') :
    (a'.edgeMarks = a.edgeMarks ↔ e.spansAxis a.range ∨
      (a.first.row ≤ a.last.row ∨ a.first.rowRelative = a.last.rowRelative) ∧
        (a.first.col ≤ a.last.col ∨ a.first.colRelative = a.last.colRelative)) ∧
    (e.range? a.range = some a.range → (a' = a ↔ e.spansAxis a.range ∨ a.InOrder)) ∧
    (∀ cls, e.movedToken? (.area cls a) = none ↔ a' = a) ∧
    ∀ cls link, e.movedToken? (.area3d cls link a) = none ↔ a' = a := by
  refine ⟨?_, fun hsame => ?_, movedToken?_area h⟩ <;> rw [area?_eq] at h
  · by_cases hspans : e.spansAxis a.range
    · rw [if_pos hspans] at h
      obtain rfl := Option.some.inj h
      exact iff_of_true rfl (.inl hspans)
    · rw [if_neg hspans] at h
      obtain ⟨r, -, rfl⟩ := Option.map_eq_some_iff.mp h
      rw [AreaAddress.edgeMarks_onto_eq_iff, or_iff_right hspans]
  · by_cases hspans : e.spansAxis a.range
    · rw [if_pos hspans] at h
      exact iff_of_true (Option.some.inj h).symm (.inl hspans)
    · rw [if_neg hspans, hsame] at h
      obtain rfl := Option.some.inj h
      rw [AreaAddress.onto_range_eq_iff, or_iff_right hspans]

/-- The area `A$2:$B5` keeps its marks when the first row is deleted. The area `$3:1` is rewritten
when a row is inserted further down. -/
theorem edgeMarks_area?_iff_rows :
    let a : AreaAddress := ⟨⟨1, 0, false, true⟩, ⟨4, 1, true, false⟩⟩
    let a' : AreaAddress := ⟨⟨0, 0, false, true⟩, ⟨3, 1, true, false⟩⟩
    let b : AreaAddress := ⟨⟨2, 0, false, true⟩, ⟨0, 255, true, true⟩⟩
    let b' : AreaAddress := ⟨⟨0, 0, false, true⟩, ⟨2, 255, true, true⟩⟩
    let e := ofLimits 0 .rows .delete 0 1 {}
    let e' := ofLimits 0 .rows .insert 10 1 {}
    (e.area? a = some a' ∧ a'.edgeMarks = a.edgeMarks) ∧
      e'.area? b = some b' ∧ e'.range? b.range = some b.range ∧ b' ≠ b := by
  intro a a' b b' e e'
  have ha : e.area? a = some a' := rfl
  have hb : e'.area? b = some b' := rfl
  have hrange : e'.range? b.range = some b.range := range?_of_index? rfl rfl
  refine ⟨⟨ha, (edgeMarks_area?_iff ha).1.mpr ?_⟩, hb, hrange, fun h => ?_⟩
  · exact .inr ⟨.inl (by decide), .inl (by decide)⟩
  · exact absurd (((edgeMarks_area?_iff hb).2.1 hrange).mp h) (by decide)

/-- A row that is inserted below the area `$3:1` turns it into `$1:3`. -/
theorem marks_change_edges :
    let a : AreaAddress := ⟨⟨2, 0, false, true⟩, ⟨0, 255, true, true⟩⟩
    let a' : AreaAddress := ⟨⟨0, 0, false, true⟩, ⟨2, 255, true, true⟩⟩
    let e := ofLimits 0 .rows .insert 10 1 {}
    (∀ i ≤ 2, e.index? i = some i) ∧ e.area? a = some a' ∧ a'.edgeMarks ≠ a.edgeMarks ∧ a' ≠ a ∧
      e.movedToken? (.area .reference a) = some (.area .reference a') := by
  decide

end GridEdit

end Spreadsheet
