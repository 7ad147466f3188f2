import Mathlib.Tactic.Lemma
import Spreadsheet.Grid.Cell

/-!
Smallest ranges.

The smallest range around some cells holds all of them and lies in every other range that does. It
is found by going through the cells, or through ranges of them, and bounding each with what was
found so far.
-/

namespace Spreadsheet.CellRange

variable {r s : CellRange} {S T : Cell → Prop}

lemma start_mem (range : CellRange) : range.start ∈ range :=
  mem_iff.mpr ⟨Nat.le_refl _, range.row_le, Nat.le_refl _, range.col_le⟩

lemma stop_mem (range : CellRange) : range.stop ∈ range :=
  mem_iff.mpr ⟨range.row_le, Nat.le_refl _, range.col_le, Nat.le_refl _⟩

/-- A range lies in another one if its corners do. -/
lemma forall_mem_of_corners (hstart : r.start ∈ s) (hstop : r.stop ∈ s) : ∀ c ∈ r, c ∈ s := by
  intro c hc
  rw [mem_iff] at *
  omega

/-- The smallest range around the cells of which `S` holds. -/
structure IsHull (r : CellRange) (S : Cell → Prop) : Prop where
  holds : ∀ c, S c → c ∈ r
  least : ∀ s : CellRange, (∀ c, S c → c ∈ s) → ∀ c ∈ r, c ∈ s

lemma isHull_self (r : CellRange) : r.IsHull (· ∈ r) := ⟨fun _ => id, fun _ => id⟩

lemma isHull_single (c : Cell) : (single c).IsHull (· = c) where
  holds := by
    rintro _ rfl
    exact start_mem _
  least s h := forall_mem_of_corners (h c rfl) (h c rfl)

lemma IsHull.congr (h : r.IsHull S) (hST : ∀ c, S c ↔ T c) : r.IsHull T :=
  (funext fun c => propext (hST c)) ▸ h

lemma mem_bounding_left {c : Cell} (h : c ∈ r) : c ∈ r.bounding s := by
  rw [mem_iff] at *
  dsimp only [bounding]
  omega

lemma mem_bounding_right {c : Cell} (h : c ∈ s) : c ∈ r.bounding s := by
  rw [mem_iff] at *
  dsimp only [bounding]
  omega

/-- A range around two ranges is one around the smallest such range. -/
lemma forall_mem_bounding {range : CellRange} (h : ∀ c ∈ r, c ∈ range) (h' : ∀ c ∈ s, c ∈ range) :
    ∀ c ∈ r.bounding s, c ∈ range := by
  have hstart := mem_iff.mp (h _ r.start_mem)
  have hstop := mem_iff.mp (h _ r.stop_mem)
  have hstart' := mem_iff.mp (h' _ s.start_mem)
  have hstop' := mem_iff.mp (h' _ s.stop_mem)
  apply forall_mem_of_corners
  · rw [mem_iff]
    dsimp only [bounding]
    omega
  · rw [mem_iff]
    dsimp only [bounding]
    omega

lemma IsHull.bounding (hr : r.IsHull S) (hs : s.IsHull T) :
    (r.bounding s).IsHull fun c => S c ∨ T c where
  holds c := Or.rec (fun h => mem_bounding_left (hr.holds c h))
    fun h => mem_bounding_right (hs.holds c h)
  least range h := forall_mem_bounding (hr.least range fun c hc => h c (.inl hc))
    (hs.least range fun c hc => h c (.inr hc))

/-- **Bounding one after the other** gives the smallest range around all. -/
lemma IsHull.foldl_bounding {α : Type} {range : α → CellRange} {cells : α → Cell → Prop}
    (hrange : ∀ a, (range a).IsHull (cells a)) (hr : r.IsHull S) (as : List α) :
    (as.foldl (fun r a => r.bounding (range a)) r).IsHull fun c => S c ∨ ∃ a ∈ as, cells a c := by
  induction as generalizing r S with
  | nil => exact hr.congr fun c => by simp
  | cons a as ih => exact (ih (hr.bounding (hrange a))).congr fun c => by simp [or_assoc]

end Spreadsheet.CellRange
