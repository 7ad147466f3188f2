import Spreadsheet.Proofs.CellContents
import Spreadsheet.Proofs.MembersObserved

/-!
The cells in use, and what is left of whole rows and columns.

The used extent of a sheet is the smallest range around its cells that hold something. So an area of
whole rows or columns may be cut at its last row or column. The cells that hold something are not
lost, the area goes no further than they do, and as long as they are on the grid, it does not grow.
-/

namespace Spreadsheet

namespace Workbook

variable {w : Workbook} {sheet : Nat} {r : CellRange} {c : Cell}

/-- A constant or a formula is stored for the cell. -/
def Occupied (w : Workbook) (p : Place) : Prop := w.HoldsConstant p ∨ w.HoldsFormula p

lemma Bounded.holds_of_occupied (h : w.Bounded) (hw : w.formulas.Coherent) {p : Place}
    (hp : w.Occupied p) : w.limits.Holds p.cell := by
  rcases hp with hconstant | hformula
  · obtain ⟨v, hv⟩ := Option.isSome_iff_exists.mp hconstant
    exact h.constants p v hv
  · obtain ⟨k, d, hd, hkey⟩ := (holdsFormula_iff hw).mp hformula
    have hposition : d.position = p.cell := congrArg (fun key => key.place.cell) hkey
    exact hposition ▸ (h.formulas k d hd).holds

/-! ### A cell that holds nothing -/

section
variable {p : Place} (hp : ¬w.Occupied p)
include hp

lemma formula?_of_not_occupied : w.formula? p = none := by
  have hformula : w.formulas.cellFormula? p = none :=
    Option.not_isSome_iff_eq_none.mp fun h => hp (.inr h)
  rw [formula?, hformula]
  rfl

lemma cellValue_of_not_occupied : w.cellValue p = .blank := by
  have hconstant : w.constant? p = none := Option.not_isSome_iff_eq_none.mp fun h => hp (.inl h)
  have hvalue : w.cellValue p = (w.constant? p).getD .blank := if_neg fun h => hp (.inr h)
  rw [hvalue, hconstant]
  rfl

lemma compute_of_not_occupied (functions : Dispatcher) :
    w.compute functions p = pure Value.blank := by
  rw [compute, nestingBound, Recalculation.compute, formula?_of_not_occupied hp,
    ← cellValue_of_not_occupied hp]

end

/-! ### The used extent -/

/-- The cells of a sheet for which something is stored, constants first. -/
def usedCells (w : Workbook) (sheet : Nat) (s : Sheet) : List Cell :=
  s.constants.keys ++
    w.formulaPlaces.filterMap fun p => if p.sheet = sheet then some p.cell else none

lemma mem_usedCells (hw : w.formulas.Coherent) {s : Sheet} (hs : w.sheets[sheet]? = some s) :
    c ∈ w.usedCells sheet s ↔ w.Occupied ⟨sheet, c⟩ := by
  have hconstant : c ∈ s.constants.keys ↔ w.HoldsConstant ⟨sheet, c⟩ := by
    rw [Std.HashMap.mem_keys, ← Std.HashMap.isSome_getElem?_iff_mem, HoldsConstant, constant?, hs]
    rfl
  have hformula : (∃ p ∈ w.formulaPlaces, (if p.sheet = sheet then some p.cell else none) = some c) ↔
      w.HoldsFormula ⟨sheet, c⟩ := by
    rw [holdsFormula_iff hw, ← mem_formulaPlaces]
    constructor
    · rintro ⟨p, hp, hc⟩
      split_ifs at hc with hsheet
      rwa [← Option.some.inj hc, ← hsheet]
    · exact fun hp => ⟨_, hp, if_pos rfl⟩
  rw [usedCells, List.mem_append, List.mem_filterMap, hconstant, hformula, Occupied]

lemma usedExtent?_eq {s : Sheet} (hs : w.sheets[sheet]? = some s) : w.usedExtent? sheet =
    match w.usedCells sheet s with
    | [] => none
    | c :: cs => some (cs.foldl (fun range d => range.bounding (.single d)) (.single c)) := by
  rw [usedExtent?, hs]
  rfl

/-- **The used extent** is the smallest range around the occupied cells of a sheet, unless there are
none. -/
lemma isHull_usedExtent? (hw : w.formulas.Coherent) (h : w.usedExtent? sheet = some r) :
    r.IsHull fun c => w.Occupied ⟨sheet, c⟩ := by
  obtain ⟨s, hs, -⟩ := Option.bind_eq_some_iff.mp h
  refine CellRange.IsHull.congr ?_ fun c => mem_usedCells hw hs
  rw [usedExtent?_eq hs] at h
  rcases hcells : w.usedCells sheet s with _ | ⟨c, cs⟩ <;> rw [hcells] at h
  · cases h
  · rw [← Option.some.inj h]
    refine ((CellRange.isHull_single c).foldl_bounding CellRange.isHull_single cs).congr fun d => ?_
    simp

lemma not_occupied_of_usedExtent? (hw : w.formulas.Coherent) (hsheet : sheet < w.sheets.size)
    (h : w.usedExtent? sheet = none) (c : Cell) : ¬w.Occupied ⟨sheet, c⟩ := by
  have hs : w.sheets[sheet]? = some w.sheets[sheet] := Array.getElem?_eq_getElem hsheet
  rw [usedExtent?_eq hs] at h
  rw [← mem_usedCells hw hs]
  rcases hcells : w.usedCells sheet w.sheets[sheet] with _ | ⟨c, cs⟩ <;> rw [hcells] at h
  · exact List.not_mem_nil
  · cases h

/-- The last row and the last column in use, or the first ones if none is. -/
def lastUsed (w : Workbook) (sheet : Nat) : Cell := (w.usedExtent? sheet).elim ⟨0, 0⟩ (·.stop)

lemma le_lastUsed (hw : w.formulas.Coherent) (hsheet : sheet < w.sheets.size)
    (hc : w.Occupied ⟨sheet, c⟩) :
    c.row ≤ (w.lastUsed sheet).row ∧ c.col ≤ (w.lastUsed sheet).col := by
  unfold lastUsed
  rcases h : w.usedExtent? sheet with _ | r
  · exact absurd hc (not_occupied_of_usedExtent? hw hsheet h c)
  · obtain ⟨-, hrow, -, hcol⟩ := CellRange.mem_iff.mp ((isHull_usedExtent? hw h).holds c hc)
    exact ⟨hrow, hcol⟩

/-- Nothing is in use behind the last occupied cells. -/
lemma lastUsed_le (hw : w.formulas.Coherent) {m n : Nat}
    (h : ∀ c, w.Occupied ⟨sheet, c⟩ → c.row ≤ m ∧ c.col ≤ n) :
    (w.lastUsed sheet).row ≤ m ∧ (w.lastUsed sheet).col ≤ n := by
  unfold lastUsed
  rcases hextent : w.usedExtent? sheet with _ | r
  · exact ⟨Nat.zero_le _, Nat.zero_le _⟩
  · let corner : CellRange := .ofCorners ⟨0, 0⟩ ⟨m, n⟩
    have hmem (c : Cell) : c ∈ corner ↔ c.row ≤ m ∧ c.col ≤ n := by
      simp [corner, CellRange.mem_iff, CellRange.ofCorners]
    have hcorner := (isHull_usedExtent? hw hextent).least corner fun c hc => (hmem c).mpr (h c hc)
    exact (hmem r.stop).mp (hcorner _ r.stop_mem)

lemma exists_occupied_of_le_row (hw : w.formulas.Coherent) (hsheet : sheet < w.sheets.size)
    {k : Nat} (hk : k ≤ (w.lastUsed sheet).row) :
    k = 0 ∨ ∃ c, w.Occupied ⟨sheet, c⟩ ∧ k ≤ c.row := by
  by_contra! hnone
  obtain ⟨hpos, hbefore⟩ := hnone
  have hle := (lastUsed_le hw fun c hc =>
    ⟨Nat.le_sub_one_of_lt (hbefore c hc), (le_lastUsed hw hsheet hc).2⟩).1
  omega

lemma exists_occupied_of_le_col (hw : w.formulas.Coherent) (hsheet : sheet < w.sheets.size)
    {k : Nat} (hk : k ≤ (w.lastUsed sheet).col) :
    k = 0 ∨ ∃ c, w.Occupied ⟨sheet, c⟩ ∧ k ≤ c.col := by
  by_contra! hnone
  obtain ⟨hpos, hbefore⟩ := hnone
  have hle := (lastUsed_le hw fun c hc =>
    ⟨(le_lastUsed hw hsheet hc).1, Nat.le_sub_one_of_lt (hbefore c hc)⟩).2
  omega

/-! ### Areas that are cut -/

/-- Where an area ends after the cut. -/
lemma stop_areaOn (w : Workbook) (sheet : Nat) (a : AreaAddress) :
    (w.surroundings.areaOn sheet a w.limits).range.stop =
      ⟨if a.isWholeColumn w.limits then max (w.lastUsed sheet).row a.range.start.row
        else a.range.stop.row,
       if a.isWholeRow w.limits then max (w.lastUsed sheet).col a.range.start.col
        else a.range.stop.col⟩ := by
  have hrow : (w.lastUsed sheet).row = (w.usedExtent? sheet).elim 0 (·.stop.row) := by
    unfold lastUsed
    cases w.usedExtent? sheet <;> rfl
  have hcol : (w.lastUsed sheet).col = (w.usedExtent? sheet).elim 0 (·.stop.col) := by
    unfold lastUsed
    cases w.usedExtent? sheet <;> rfl
  rw [Surroundings.areaOn_eq_cut, hrow, hcol]
  rfl

lemma isWholeColumn_iff {a : AreaAddress} {limits : Limits} : a.isWholeColumn limits ↔
    a.range.start.row = 0 ∧ limits.maxRows ≤ a.range.stop.row + 1 := by
  simp [AreaAddress.isWholeColumn, CellRange.hasAllRows]

lemma isWholeRow_iff {a : AreaAddress} {limits : Limits} : a.isWholeRow limits ↔
    a.range.start.col = 0 ∧ limits.maxCols ≤ a.range.stop.col + 1 := by
  simp [AreaAddress.isWholeRow, CellRange.hasAllCols]

/-- A cell of an area is left if it does not come behind the last row and the last column in use. -/
lemma mem_areaOn {a : AreaAddress} (hc : c ∈ a.range)
    (hrow : c.row ≤ (w.lastUsed sheet).row) (hcol : c.col ≤ (w.lastUsed sheet).col) :
    c ∈ (w.surroundings.areaOn sheet a w.limits).range := by
  obtain ⟨htop, hbottom, hleft, hright⟩ := CellRange.mem_iff.mp hc
  rw [CellRange.mem_iff, stop_areaOn]
  refine ⟨htop, ?_, hleft, ?_⟩
  · dsimp only
    split_ifs
    · exact Nat.le_trans hrow (Nat.le_max_left _ _)
    · exact hbottom
  · dsimp only
    split_ifs
    · exact Nat.le_trans hcol (Nat.le_max_left _ _)
    · exact hright

/-- An area of whole columns ends at the last row in use. -/
lemma row_le_of_mem_areaOn {a : AreaAddress} (hwhole : a.isWholeColumn w.limits)
    (hc : c ∈ (w.surroundings.areaOn sheet a w.limits).range) : c.row ≤ (w.lastUsed sheet).row := by
  rw [CellRange.mem_iff, stop_areaOn] at hc
  have hbottom := hc.2.1
  dsimp only at hbottom
  rwa [if_pos hwhole, (isWholeColumn_iff.mp hwhole).1, Nat.max_zero] at hbottom

/-- An area of whole rows ends at the last column in use. -/
lemma col_le_of_mem_areaOn {a : AreaAddress} (hwhole : a.isWholeRow w.limits)
    (hc : c ∈ (w.surroundings.areaOn sheet a w.limits).range) : c.col ≤ (w.lastUsed sheet).col := by
  rw [CellRange.mem_iff, stop_areaOn] at hc
  have hright := hc.2.2.2
  dsimp only at hright
  rwa [if_pos hwhole, (isWholeRow_iff.mp hwhole).1, Nat.max_zero] at hright

/-- The cut leaves no row or column that the area did not have. -/
lemma mem_of_mem_areaOn {a : AreaAddress} (hrow : (w.lastUsed sheet).row ≤ w.limits.lastRow)
    (hcol : (w.lastUsed sheet).col ≤ w.limits.lastCol)
    (hc : c ∈ (w.surroundings.areaOn sheet a w.limits).range) : c ∈ a.range := by
  have hlastRow : w.limits.lastRow = w.limits.maxRows - 1 := rfl
  have hlastCol : w.limits.lastCol = w.limits.maxCols - 1 := rfl
  rw [CellRange.mem_iff, stop_areaOn] at hc
  obtain ⟨htop, hbottom, hleft, hright⟩ := hc
  refine CellRange.mem_iff.mpr ⟨htop, ?_, hleft, ?_⟩
  · dsimp only at hbottom
    split_ifs at hbottom with hwhole
    · have := isWholeColumn_iff.mp hwhole
      omega
    · exact hbottom
  · dsimp only at hright
    split_ifs at hright with hwhole
    · have := isWholeRow_iff.mp hwhole
      omega
    · exact hright

/-- **Cutting whole rows and columns loses nothing.** Let the occupied cells of a sheet be on the
grid. What an area on the sheet comes to are cells of the area, and all of them if it takes in
neither all rows nor all columns; if it does, it goes no further than the cells in use, the first
row and column apart. None of the area's occupied cells is missing, so that a missing one is blank,
both as it is stored and as a recalculation computes it. -/
theorem areaOn_keeps_occupied (hw : w.Reachable) (hsheet : sheet < w.sheets.size)
    (hgrid : ∀ c, w.Occupied ⟨sheet, c⟩ → w.limits.Holds c) (a : AreaAddress) :
    let kept := w.surroundings.areaOn sheet a w.limits
    kept.sheet = sheet ∧ (∀ c ∈ kept.range, c ∈ a.range) ∧
      (a.isWholeColumn w.limits = false → a.isWholeRow w.limits = false →
        kept.range = a.range) ∧
      (a.isWholeColumn w.limits → ∀ c ∈ kept.range,
        c.row = 0 ∨ ∃ d, w.Occupied ⟨sheet, d⟩ ∧ c.row ≤ d.row) ∧
      (a.isWholeRow w.limits → ∀ c ∈ kept.range,
        c.col = 0 ∨ ∃ d, w.Occupied ⟨sheet, d⟩ ∧ c.col ≤ d.col) ∧
      (∀ c ∈ a.range, w.Occupied ⟨sheet, c⟩ → c ∈ kept.range) ∧
      ∀ c ∈ a.range, c ∉ kept.range → w.cellValue ⟨sheet, c⟩ = .blank ∧
        ∀ functions, w.compute functions ⟨sheet, c⟩ = pure Value.blank := by
  intro kept
  have hlast : (w.lastUsed sheet).row ≤ w.limits.lastRow ∧
      (w.lastUsed sheet).col ≤ w.limits.lastCol := lastUsed_le hw.coherent fun c hc =>
    ⟨Nat.le_sub_one_of_lt (hgrid c hc).1, Nat.le_sub_one_of_lt (hgrid c hc).2⟩
  have hoccupied : ∀ c ∈ a.range, w.Occupied ⟨sheet, c⟩ → c ∈ kept.range := by
    intro c hc hstored
    have hle := le_lastUsed hw.coherent hsheet hstored
    exact mem_areaOn hc hle.1 hle.2
  refine ⟨rfl, fun c => mem_of_mem_areaOn hlast.1 hlast.2, fun hrows hcols => ?_,
    fun hwhole c hc => ?_, fun hwhole c hc => ?_, hoccupied, fun c hc hmissing => ?_⟩
  · have hstop : kept.range.stop = a.range.stop := by
      rw [stop_areaOn, hrows, hcols]
      rfl
    exact CellRange.ext rfl hstop
  · exact exists_occupied_of_le_row hw.coherent hsheet (row_le_of_mem_areaOn hwhole hc)
  · exact exists_occupied_of_le_col hw.coherent hsheet (col_le_of_mem_areaOn hwhole hc)
  · have hempty : ¬w.Occupied ⟨sheet, c⟩ := fun h => hmissing (hoccupied c hc h)
    exact ⟨cellValue_of_not_occupied hempty, compute_of_not_occupied hempty⟩

namespace ColumnExample

/-- A truth value at A3. -/
def constants : Workbook := (empty {}).run [.addSheet "Sheet1", .setValue ⟨0, ⟨2, 0⟩⟩ (.bool true)]

/-- The same with a formula at D10. -/
def book : Workbook := constants.run [.setFormula ⟨0, ⟨9, 3⟩⟩ [.int 3]]

/-- The columns A to D. -/
def columns : AreaAddress := ⟨⟨0, 0, false, true⟩, ⟨65535, 3, false, true⟩⟩

lemma reachable_book : book.Reachable := ⟨{}, _, (run_append _ [_, _] [_]).symm⟩

lemma bounded_book : book.Bounded := by
  have hordinary : (((empty {}).run [.addSheet "Sheet1", .setValue ⟨0, ⟨2, 0⟩⟩ (.bool true)]).run
      [.setFormula ⟨0, ⟨9, 3⟩⟩ [.int 3]]).Ordinary :=
    ordinary_of_filling (by decide) (by decide) (by decide) (by decide) (by decide) (by decide)
  exact hordinary.toBounded

lemma sheets_constants : constants.sheets =
    #[{ name := "Sheet1", constants := Std.HashMap.insert ∅ ⟨2, 0⟩ (.bool true) }] := by
  simp [constants, apply, sheets_setValue_of_ne, storeConstant, addSheet, empty]

lemma occupied_a3 : book.Occupied ⟨0, ⟨2, 0⟩⟩ := by
  have hsheets : book.sheets = (constants.eraseConstant ⟨0, ⟨9, 3⟩⟩).sheets := rfl
  refine .inl ?_
  rw [HoldsConstant, constant?_congr hsheets]
  simp [constant?, eraseConstant, sheets_constants]

lemma occupied_d10 : book.Occupied ⟨0, ⟨9, 3⟩⟩ := by
  have hcoherent : constants.formulas.Coherent := Reachable.coherent ⟨{}, _, rfl⟩
  refine .inr ?_
  exact holdsFormula_insertRecord (w := touch { constants.eraseConstant ⟨0, ⟨9, 3⟩⟩ with
    results := _ }) hcoherent rfl

/-- A3 and D10 are still in the columns A to D after the cut. -/
theorem areaOn_keeps_occupied_columns :
    let kept := book.surroundings.areaOn 0 columns book.limits
    book.Reachable ∧ 0 < book.sheets.size ∧
      (∀ c, book.Occupied ⟨0, c⟩ → book.limits.Holds c) ∧
      (∀ c ∈ kept.range, c ∈ columns.range) ∧ ⟨2, 0⟩ ∈ kept.range ∧ ⟨9, 3⟩ ∈ kept.range := by
  intro kept
  have hsheet : 0 < book.sheets.size := by
    simp [book, apply, setFormula, insertRecord, eraseConstant, touch, sheets_constants]
  have hgrid : ∀ c, book.Occupied ⟨0, c⟩ → book.limits.Holds c := fun c =>
    bounded_book.holds_of_occupied reachable_book.coherent
  obtain ⟨-, hsub, -, -, -, hkept, -⟩ := areaOn_keeps_occupied reachable_book hsheet hgrid columns
  exact ⟨reachable_book, hsheet, hgrid, hsub, hkept _ (by decide) occupied_a3,
    hkept _ (by decide) occupied_d10⟩

end ColumnExample

end Workbook

end Spreadsheet
