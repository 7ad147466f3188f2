import Mathlib.Data.List.Pairwise
import Mathlib.Logic.Function.Iterate
import Spreadsheet.Formula.Reference

/-!
The cells of a range, one by one and as a list.

Position `k` of the list is row `k % height` of column `k / height`, counted within the range. An
enumeration that has been called `k` times stands there, and its count is what is left of the list.
-/

namespace Spreadsheet

/-- The cell stands further left, or above in the same column. -/
def Cell.Precedes (c d : Cell) : Prop := c.col < d.col ∨ c.col = d.col ∧ c.row < d.row

namespace CellRange

variable {r : CellRange} {c : Cell} {i j k : Nat}

/-! ### Positions -/

lemma height_pos (r : CellRange) : 0 < r.height := Nat.succ_pos _

/-- A position is a row and a column of the range. -/
lemma exists_eq_add_mul (r : CellRange) (k : Nat) : ∃ i j, i < r.height ∧ k = i + r.height * j :=
  ⟨k % r.height, k / r.height, Nat.mod_lt k r.height_pos, (Nat.mod_add_div k r.height).symm⟩

lemma nth_add_mul (hi : i < r.height) :
    r.nth (i + r.height * j) = ⟨r.start.row + i, r.start.col + j⟩ := by
  rw [nth, Nat.add_mul_mod_self_left, Nat.mod_eq_of_lt hi, Nat.add_mul_div_left _ _ r.height_pos,
    Nat.div_eq_of_lt hi, Nat.zero_add]

lemma add_mul_lt_cellCount_iff (hi : i < r.height) :
    i + r.height * j < r.cellCount ↔ j < r.width := by
  rw [cellCount, Nat.mul_comm r.width]
  constructor
  · intro h
    exact Nat.lt_of_mul_lt_mul_left (Nat.lt_of_le_of_lt (Nat.le_add_left _ i) h)
  · intro h
    calc i + r.height * j < r.height + r.height * j := by omega
      _ = r.height * (j + 1) := by rw [Nat.mul_add_one, Nat.add_comm]
      _ ≤ r.height * r.width := Nat.mul_le_mul_left _ h

lemma exists_eq_of_mem (h : c ∈ r) : ∃ i j, i < r.height ∧ j < r.width ∧
    c = ⟨r.start.row + i, r.start.col + j⟩ := by
  obtain ⟨hrow, hrow', hcol, hcol'⟩ := mem_iff.mp h
  refine ⟨c.row - r.start.row, c.col - r.start.col, ?_, ?_, ?_⟩
  · unfold height
    omega
  · unfold width
    omega
  · rw [Nat.add_sub_of_le hrow, Nat.add_sub_of_le hcol]

lemma mem_of_lt (hi : i < r.height) (hj : j < r.width) :
    ⟨r.start.row + i, r.start.col + j⟩ ∈ r := by
  have := r.row_le
  have := r.col_le
  unfold height at hi
  unfold width at hj
  rw [mem_iff]
  dsimp only
  omega

/-! ### The list of cells -/

lemma length_cells (r : CellRange) : r.cells.length = r.cellCount := by simp [cells]

lemma getElem?_cells : r.cells[k]? = if k < r.cellCount then some (r.nth k) else none := by
  split <;> simp_all [cells]

lemma mem_cells (h : c ∈ r) : c ∈ r.cells := by
  obtain ⟨i, j, hi, hj, rfl⟩ := exists_eq_of_mem h
  have hlt := (add_mul_lt_cellCount_iff hi).mpr hj
  exact List.mem_map.mpr ⟨_, List.mem_range.mpr hlt, nth_add_mul hi⟩

lemma mem_cells_iff : c ∈ r.cells ↔ c ∈ r := by
  refine ⟨fun h => ?_, mem_cells⟩
  obtain ⟨k, hk, rfl⟩ := List.mem_map.mp h
  obtain ⟨i, j, hi, rfl⟩ := r.exists_eq_add_mul k
  rw [nth_add_mul hi]
  exact mem_of_lt hi ((add_mul_lt_cellCount_iff hi).mp (List.mem_range.mp hk))

lemma precedes_nth {l : Nat} (h : k < l) : (r.nth k).Precedes (r.nth l) := by
  have hle : k / r.height ≤ l / r.height := Nat.div_le_div_right (Nat.le_of_lt h)
  have hk := Nat.div_add_mod k r.height
  have hl := Nat.div_add_mod l r.height
  rcases Nat.lt_or_eq_of_le hle with hcol | hcol
  · exact .inl (Nat.add_lt_add_left hcol _)
  · rw [hcol] at hk
    exact .inr ⟨by simp only [nth, hcol], by simp only [nth]; omega⟩

lemma pairwise_cells (r : CellRange) : r.cells.Pairwise Cell.Precedes :=
  List.pairwise_map.mpr (List.pairwise_lt_range.imp precedes_nth)

/-- The cell that follows another is the next one of the list. -/
lemma following?_nth (h : k < r.cellCount) : r.following? (r.nth k) = r.cells[k + 1]? := by
  obtain ⟨i, j, hi, rfl⟩ := r.exists_eq_add_mul k
  have hj := (add_mul_lt_cellCount_iff hi).mp h
  rw [nth_add_mul hi, getElem?_cells, following?]
  have := r.row_le
  have := r.col_le
  by_cases hrow : i + 1 < r.height
  · -- down the column
    have hnext : i + r.height * j + 1 = (i + 1) + r.height * j := by omega
    rw [if_pos (by unfold height at hrow; dsimp only; omega), hnext,
      if_pos ((add_mul_lt_cellCount_iff hrow).mpr hj), nth_add_mul hrow, Nat.add_assoc]
  · -- on to the next column, if there is one
    have hnext : i + r.height * j + 1 = 0 + r.height * (j + 1) := by
      rw [Nat.mul_add_one]
      omega
    have hcol : r.start.col + j < r.stop.col ↔ j + 1 < r.width := by
      unfold width
      omega
    rw [if_neg (by unfold height at hi hrow; dsimp only; omega), hnext, nth_add_mul r.height_pos]
    simp only [hcol, add_mul_lt_cellCount_iff r.height_pos, Nat.add_zero, Nat.add_assoc]

/-! ### Enumerations -/

namespace Enumeration

variable {e : Enumeration}

/-- The enumeration after `k` calls. -/
def after (e : Enumeration) (k : Nat) : Enumeration := (fun e => e.advance.2)^[k] e

lemma after_succ : e.after (k + 1) = (e.after k).advance.2 :=
  Function.iterate_succ_apply' _ k e

lemma advance_fst (e : Enumeration) : e.advance.1 = e.next := by
  unfold advance
  split <;> simp_all

lemma advance_of_next_eq_none (h : e.next = none) : e.advance = (none, e) := by
  rw [advance, h]

end Enumeration

/-- **Where an enumeration stands** after `k` calls. -/
lemma after_enumeration (r : CellRange) (k : Nat) :
    r.enumeration.after k = ⟨r, r.cells[k]?, .ofNat (r.cellCount - k)⟩ := by
  induction k with
  | zero =>
    have hpos : 0 < r.cellCount := Nat.mul_pos (Nat.succ_pos _) r.height_pos
    have hnth : r.nth 0 = r.start := by simp [nth]
    rw [getElem?_cells, if_pos hpos, hnth]
    rfl
  | succ k ih =>
    rw [Enumeration.after_succ, ih]
    rcases Nat.lt_or_ge k r.cellCount with hk | hk
    · have hcount : UInt64.ofNat (r.cellCount - k) - 1 = .ofNat (r.cellCount - (k + 1)) := by
        rw [show r.cellCount - k = r.cellCount - (k + 1) + 1 by omega, UInt64.ofNat_add]
        exact UInt64.add_sub_cancel _ _
      have hnext := following?_nth hk
      have hk' : r.cells[k]? = some (r.nth k) := by rw [getElem?_cells, if_pos hk]
      simp only [Enumeration.advance, hk', hnext, hcount]
    · have hend (l : Nat) (hl : r.cellCount ≤ l) : r.cells[l]? = none := by
        rw [getElem?_cells, if_neg (by omega)]
      rw [Enumeration.advance_of_next_eq_none (hend k hk), hend k hk, hend (k + 1) (by omega),
        show r.cellCount - k = r.cellCount - (k + 1) by omega]

lemma toList_after (r : CellRange) (k : Nat) :
    (r.enumeration.after k).toList = r.cells.drop k := by
  induction hn : r.cellCount - k generalizing k with
  | zero =>
    have hk : r.cells.length ≤ k := by
      rw [length_cells]
      omega
    rw [Enumeration.toList, List.drop_eq_nil_of_le hk]
    split
    · rfl
    next c hc =>
      rw [after_enumeration, List.getElem?_eq_none hk] at hc
      cases hc
  | succ n ih =>
    have hk : k < r.cells.length := by
      rw [length_cells]
      omega
    rw [Enumeration.toList, List.drop_eq_getElem_cons hk, ← ih (k + 1) (by omega),
      Enumeration.after_succ]
    split
    next hc =>
      rw [after_enumeration, List.getElem?_eq_getElem hk] at hc
      cases hc
    next c hc =>
      rw [after_enumeration, List.getElem?_eq_getElem hk] at hc
      rw [Option.some.inj hc]

/-- **An enumeration lists the cells of its range.** -/
lemma toList_enumeration (r : CellRange) : r.enumeration.toList = r.cells := toList_after r 0

/-- Behind the last cell an enumeration stays where it is. -/
lemma after_add_of_le (h : r.cellCount ≤ k) (n : Nat) :
    r.enumeration.after (k + n) = r.enumeration.after k := by
  rw [after_enumeration, after_enumeration, getElem?_cells, getElem?_cells, if_neg (by omega),
    if_neg (by omega), show r.cellCount - (k + n) = r.cellCount - k by omega]

lemma take_after (r : CellRange) (n k : Nat) : (r.enumeration.after k).take n =
    ((r.cells.drop k).take n, r.enumeration.after (k + n)) := by
  induction n generalizing k with
  | zero => rfl
  | succ n ih =>
    rw [Enumeration.take]
    rcases hc : r.cells[k]? with _ | c
    · have hk : r.cells.length ≤ k := List.getElem?_eq_none_iff.mp hc
      have hnext : (r.enumeration.after k).next = none := by rw [after_enumeration, hc]
      rw [Enumeration.advance_of_next_eq_none hnext, List.drop_eq_nil_of_le hk, List.take_nil,
        after_add_of_le (r.length_cells ▸ hk)]
    · obtain ⟨hk, rfl⟩ := List.getElem?_eq_some_iff.mp hc
      have hadvance : (r.enumeration.after k).advance =
          (some r.cells[k], r.enumeration.after (k + 1)) := by
        refine Prod.ext ?_ Enumeration.after_succ.symm
        rw [Enumeration.advance_fst, after_enumeration, hc]
      rw [hadvance, List.drop_eq_getElem_cons hk, List.take_succ_cons, Nat.add_comm n,
        ← Nat.add_assoc]
      simp only [ih]

/-- **The first cells of a range** are taken from the front of its list. -/
theorem firstCells_eq (r : CellRange) (n : Nat) : r.firstCells n = r.cells.take n :=
  congrArg Prod.fst (take_after r n 0)

end CellRange

/-! ### References -/

namespace Reference

lemma cells_eq (r : Reference) : r.cells =
    r.areas.flatMap fun a => a.range.enumeration.toList.map (Place.mk a.sheet) := by
  simp only [CellRange.toList_enumeration]
  rfl

lemma length_cells (r : Reference) : r.cells.length = r.cellCount := by
  have harea (a : Area) : a.cells.length = a.range.cellCount := by
    rw [Area.cells, List.length_map, CellRange.length_cells]
  simp only [cells, cellCount, List.length_flatMap, harea, List.sum_eq_foldl, List.foldl_map]

end Reference

/-- The list holds the cells of the range, from left to right and each column from the top. -/
structure CellRange.ListedBy (r : CellRange) (cs : List Cell) : Prop where
  mem_iff : ∀ c, c ∈ cs ↔ c ∈ r
  /-- Each cell stands before all later ones, so that none comes twice. -/
  ascending : cs.Pairwise Cell.Precedes
  length_eq : cs.length = r.width * r.height

/-- **Enumerations.** An enumeration gives the cells of its range and nothing else, each once, column
by column and from the top. Call `k` answers with cell `k` of this list, and with nothing from the
end of the list on, where the enumeration stays as it is. If the width and the height are numbers of
32 bits, then its own count is after `k` calls what is left of the list. The cells of a reference
are those of its areas in this order, and it has as many as it says. -/
theorem CellRange.enumeration_exact :
    (∀ r : CellRange, r.ListedBy r.enumeration.toList ∧
      (∀ k, (r.enumeration.after k).advance.1 = r.enumeration.toList[k]?) ∧
      (∀ k, r.cellCount ≤ k →
        (r.enumeration.after k).advance = (none, r.enumeration.after k)) ∧
      (r.width < UInt32.size → r.height < UInt32.size →
        ∀ k, (r.enumeration.after k).remaining.toNat = r.cellCount - k)) ∧
    ∀ r : Reference,
      r.cells = r.areas.flatMap (fun a => a.range.enumeration.toList.map (Place.mk a.sheet)) ∧
        r.cells.length = r.cellCount := by
  refine ⟨fun r => ⟨?_, fun k => ?_, fun k hk => ?_, fun hwidth hheight k => ?_⟩,
    fun r => ⟨r.cells_eq, r.length_cells⟩⟩
  · rw [toList_enumeration]
    exact ⟨fun c => mem_cells_iff, r.pairwise_cells, r.length_cells⟩
  · rw [Enumeration.advance_fst, after_enumeration, toList_enumeration]
  · refine Enumeration.advance_of_next_eq_none ?_
    rw [after_enumeration, getElem?_cells, if_neg (Nat.not_lt.mpr hk)]
  · have hcount : r.cellCount < UInt64.size :=
      calc r.width * r.height < UInt32.size * UInt32.size := Nat.mul_lt_mul'' hwidth hheight
        _ = UInt64.size := rfl
    rw [after_enumeration]
    exact UInt64.toNat_ofNat_of_lt' (by omega)

/-- Two columns of three cells. The fourth call has come to the top of the second column, and two
cells are left; the seventh finds none. -/
theorem CellRange.enumeration_exact_columns :
    let r := CellRange.ofCorners ⟨6, 2⟩ ⟨4, 1⟩
    r.width < UInt32.size ∧ r.height < UInt32.size ∧
      (r.enumeration.after 3).advance.1 = some ⟨4, 2⟩ ∧
      (r.enumeration.after 4).remaining.toNat = 2 ∧
      (r.enumeration.after 6).advance = (none, r.enumeration.after 6) ∧
      (r.enumeration.after 6).remaining.toNat = 0 := by
  intro r
  have hwidth : r.width < UInt32.size := by decide
  have hheight : r.height < UInt32.size := by decide
  obtain ⟨-, -, hend, hcount⟩ := CellRange.enumeration_exact.1 r
  have hcount := hcount hwidth hheight
  exact ⟨hwidth, hheight, by decide, hcount 4, hend 6 (by decide), hcount 6⟩

end Spreadsheet
