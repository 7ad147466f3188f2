import Mathlib.Data.List.Nodup
import Mathlib.Tactic.Common
import Spreadsheet.Proofs.Enumeration
import Spreadsheet.Proofs.SmallestRange

/-!
Intersection, union and span of references, told by their cells.

A cell stands in the list of a reference once for each area that it lies in. The intersection has an
area for each two areas that meet, one of either side, so that the numbers multiply; the union adds
them. The span is the smallest range around all areas, as long as they lie on one sheet.
-/

namespace Spreadsheet

/-! ### Cells of ranges -/

namespace CellRange

variable {r s : CellRange} {c : Cell}

lemma nodup_cells (r : CellRange) : r.cells.Nodup := by
  refine r.pairwise_cells.imp fun {c d} h hcd => ?_
  subst hcd
  rcases h with h | ⟨-, h⟩ <;> exact Nat.lt_irrefl _ h

/-- The intersection has the cells that lie in both ranges. -/
lemma any_intersect? (r s : CellRange) (c : Cell) :
    (r.intersect? s).any (c ∈ ·) = decide (c ∈ r ∧ c ∈ s) := by
  unfold intersect?
  dsimp only
  split_ifs with h
  · simp only [Option.any_some, decide_eq_decide, mem_iff]
    omega
  · simp only [Option.any_none, eq_comm (a := false), decide_eq_false_iff_not, mem_iff]
    omega

end CellRange

/-! ### Cells of areas -/

instance : Membership Place Area where
  mem a p := p.sheet = a.sheet ∧ p.cell ∈ a.range

namespace Area

variable {a b : Area} {p : Place}

lemma mem_iff : p ∈ a ↔ p.sheet = a.sheet ∧ p.cell ∈ a.range := Iff.rfl

instance (p : Place) (a : Area) : Decidable (p ∈ a) := decidable_of_iff' _ mem_iff

lemma mem_cells_iff : p ∈ a.cells ↔ p ∈ a := by
  rw [cells, List.mem_map]
  constructor
  · rintro ⟨c, hc, rfl⟩
    exact ⟨rfl, CellRange.mem_cells_iff.mp hc⟩
  · rintro ⟨hsheet, hc⟩
    exact ⟨p.cell, CellRange.mem_cells hc, by rw [← hsheet]⟩

/-- An area lists each of its cells once. -/
lemma count_cells (a : Area) (p : Place) : a.cells.count p = if p ∈ a then 1 else 0 := by
  have hinjective : Function.Injective (Place.mk a.sheet) := fun c d h => (Place.mk.inj h).2
  have hnodup : a.cells.Nodup := List.Nodup.map hinjective a.range.nodup_cells
  simp only [hnodup.count, mem_cells_iff]

/-- What two areas have in common. -/
def meet? (a b : Area) : Option Area :=
  if b.sheet = a.sheet then (a.range.intersect? b.range).map (Area.mk a.sheet) else none

lemma any_meet? (a b : Area) (p : Place) :
    (a.meet? b).any (p ∈ ·) = decide (p ∈ a ∧ p ∈ b) := by
  unfold meet?
  split_ifs with hsheet
  · have hrange := a.range.any_intersect? b.range p.cell
    simp only [Option.any_map, mem_iff, hsheet]
    by_cases h : p.sheet = a.sheet
    · simpa [h] using hrange
    · simp [h]
  · have hboth : ¬(p ∈ a ∧ p ∈ b) := fun ⟨ha, hb⟩ => hsheet (hb.1.symm.trans ha.1)
    simp [hboth]

end Area

namespace Reference

variable {l r : Reference} {p : Place}

lemma mem_cells_iff : p ∈ r.cells ↔ ∃ a ∈ r.areas, p ∈ a := by
  simp [cells, Area.mem_cells_iff]

/-- A cell is listed once for each area that it lies in. -/
lemma count_cells (r : Reference) (p : Place) : r.cells.count p = r.areas.countP (p ∈ ·) := by
  unfold cells
  induction r.areas with
  | nil => rfl
  | cons a areas ih =>
    rw [List.flatMap_cons, List.count_append, ih, Area.count_cells, List.countP_cons, Nat.add_comm]
    simp

/-! ### Intersection -/

/-- What each two areas of two references have in common. -/
def common (l r : Reference) : List Area := l.areas.flatMap fun a => r.areas.filterMap a.meet?

lemma countP_meets (a : Area) (areas : List Area) (p : Place) :
    (areas.filterMap a.meet?).countP (p ∈ ·) = if p ∈ a then areas.countP (p ∈ ·) else 0 := by
  have hmeet (b : Area) :
      ((a.meet? b).map fun t => decide (p ∈ t)).getD false = decide (p ∈ a ∧ p ∈ b) := by
    rw [← Area.any_meet?]
    cases a.meet? b <;> rfl
  simp only [List.countP_filterMap, hmeet]
  split_ifs with hp <;> simp [hp]

/-- **Occurrences multiply.** -/
lemma countP_common (l r : Reference) (p : Place) :
    (l.common r).countP (p ∈ ·) = l.areas.countP (p ∈ ·) * r.areas.countP (p ∈ ·) := by
  unfold common
  induction l.areas with
  | nil => simp
  | cons a areas ih =>
    rw [List.flatMap_cons, List.countP_append, ih, countP_meets, List.countP_cons, Nat.add_mul,
      Nat.add_comm]
    by_cases hp : p ∈ a <;> simp [hp]

/-- Two references share a cell if an area of one and an area of the other do. -/
lemma mem_both_iff : (p ∈ l.cells ∧ p ∈ r.cells) ↔ ∃ a ∈ l.common r, p ∈ a := by
  have hmem (r : Reference) : p ∈ r.cells ↔ r.areas.countP (p ∈ ·) ≠ 0 := by
    rw [← Nat.pos_iff_ne_zero, ← count_cells, List.count_pos_iff]
  rw [hmem, hmem, ← Nat.mul_ne_zero_iff, ← countP_common, ← Nat.pos_iff_ne_zero,
    List.countP_pos_iff]
  simp

lemma intersect_eq (l r : Reference) : l.intersect r =
    if h : l.common r ≠ [] then .ok ⟨l.common r, h⟩ else .error .null := by
  unfold intersect ofAreas? common Area.meet?
  dsimp only
  split_ifs <;> rfl

lemma common_eq_nil_iff : l.common r = [] ↔ ∀ p, ¬(p ∈ l.cells ∧ p ∈ r.cells) := by
  simp only [mem_both_iff, List.eq_nil_iff_forall_not_mem]
  constructor
  · rintro h p ⟨a, ha, -⟩
    exact h a ha
  · intro h a ha
    exact h ⟨a.sheet, a.range.start⟩ ⟨a, ha, rfl, a.range.start_mem⟩

/-! ### Span -/

lemma mem_either_iff : (p ∈ l.cells ∨ p ∈ r.cells) ↔ ∃ a ∈ l.areas ++ r.areas, p ∈ a := by
  simp only [mem_cells_iff, List.mem_append, or_and_right, exists_or]

/-- All areas of two references lie on the sheet. -/
def OnSheet (l r : Reference) (sheet : Nat) : Prop := ∀ a ∈ l.areas ++ r.areas, a.sheet = sheet

/-- **The span of areas on one sheet** is the smallest range around them. -/
lemma span_of_onSheet {sheet : Nat} (h : l.OnSheet r sheet) : ∃ range : CellRange,
    l.span r = .ok (ofArea ⟨sheet, range⟩) ∧
      range.IsHull fun c => ⟨sheet, c⟩ ∈ l.cells ∨ ⟨sheet, c⟩ ∈ r.cells := by
  have hmem (c : Cell) : (⟨sheet, c⟩ ∈ l.cells ∨ ⟨sheet, c⟩ ∈ r.cells) ↔
      ∃ a ∈ l.areas ++ r.areas, c ∈ a.range := by
    rw [mem_either_iff]
    exact exists_congr fun a => and_congr_right fun ha => and_iff_right (h a ha).symm
  unfold OnSheet at h
  unfold span
  rcases hareas : l.areas ++ r.areas with _ | ⟨a, rest⟩
  · exact absurd (List.append_eq_nil_iff.mp hareas).1 l.ne_nil
  rw [hareas] at h hmem
  obtain ⟨rfl, hrest⟩ := List.forall_mem_cons.mp h
  refine ⟨rest.foldl (fun range b => range.bounding b.range) a.range, ?_, ?_⟩
  · exact if_pos (List.all_eq_true.mpr fun b hb => decide_eq_true (hrest b hb))
  · refine (a.range.isHull_self.foldl_bounding (fun b => b.range.isHull_self) rest).congr fun c => ?_
    rw [hmem, List.exists_mem_cons_iff]

lemma span_eq_error_iff : l.span r = .error .value ↔ ¬∃ sheet, l.OnSheet r sheet := by
  unfold OnSheet span
  rcases hareas : l.areas ++ r.areas with _ | ⟨a, rest⟩
  · exact absurd (List.append_eq_nil_iff.mp hareas).1 l.ne_nil
  · simp

/-! ### All three operators -/

/-- **What the operators on references give, cell by cell.** The intersection fails if no cell
belongs to both sides; otherwise a cell occurs in it as often as on the left side times as often as
on the right. The union has the areas of the left side in front of those of the right, and a cell
occurs in it as often as on both sides together. The span fails if the areas lie on several sheets;
otherwise it is one area, the smallest around all cells. -/
theorem operators_by_cells (l r : Reference) :
    (l.intersect r = .error .null ↔ ∀ p, ¬(p ∈ l.cells ∧ p ∈ r.cells)) ∧
      ((∃ p, p ∈ l.cells ∧ p ∈ r.cells) → ∃ t, l.intersect r = .ok t ∧
        ∀ p, t.cells.count p = l.cells.count p * r.cells.count p) ∧
      (l.union r).areas = l.areas ++ r.areas ∧
      (∀ p, (l.union r).cells.count p = l.cells.count p + r.cells.count p) ∧
      (l.span r = .error .value ↔ ¬∃ sheet, l.OnSheet r sheet) ∧
      ∀ sheet, l.OnSheet r sheet → ∃ range : CellRange,
        l.span r = .ok (ofArea ⟨sheet, range⟩) ∧
          range.IsHull fun c => ⟨sheet, c⟩ ∈ l.cells ∨ ⟨sheet, c⟩ ∈ r.cells := by
  refine ⟨?_, fun ⟨p, hp⟩ => ?_, rfl, fun p => ?_, span_eq_error_iff, fun sheet => span_of_onSheet⟩
  · rw [← common_eq_nil_iff, intersect_eq]
    split_ifs with h <;> simp_all
  · have hne : l.common r ≠ [] := fun h => common_eq_nil_iff.mp h p hp
    refine ⟨⟨l.common r, hne⟩, by rw [intersect_eq, dif_pos hne], fun q => ?_⟩
    simp only [count_cells, countP_common]
  · simp only [count_cells, union, List.countP_append]

/-- Two areas that overlap at B2, and a column through both of them. B2 occurs twice in the
intersection. -/
theorem operators_by_cells_overlapping :
    let l : Reference := ⟨[⟨0, .ofCorners ⟨0, 0⟩ ⟨1, 1⟩⟩, ⟨0, .ofCorners ⟨1, 1⟩ ⟨2, 2⟩⟩], nofun⟩
    let r : Reference := .ofArea ⟨0, .ofCorners ⟨1, 1⟩ ⟨5, 1⟩⟩
    (∃ p, p ∈ l.cells ∧ p ∈ r.cells) ∧
      (∃ t, l.intersect r = .ok t ∧ t.cells.count ⟨0, ⟨1, 1⟩⟩ = 2) ∧ l.OnSheet r 0 ∧
      ∃ range : CellRange, l.span r = .ok (ofArea ⟨0, range⟩) ∧
        range.IsHull fun c => ⟨0, c⟩ ∈ l.cells ∨ ⟨0, c⟩ ∈ r.cells := by
  intro l r
  obtain ⟨-, hmeet, -, -, -, hspan⟩ := operators_by_cells l r
  have hboth : ∃ p, p ∈ l.cells ∧ p ∈ r.cells := ⟨⟨0, ⟨1, 1⟩⟩, by decide, by decide⟩
  have hsheet : l.OnSheet r 0 := by
    unfold OnSheet
    decide
  obtain ⟨t, ht, hcount⟩ := hmeet hboth
  exact ⟨hboth, ⟨t, ht, (hcount _).trans (by decide)⟩, hsheet, hspan 0 hsheet⟩

end Reference

end Spreadsheet
