import Spreadsheet.Proofs.FormulaStore
import Spreadsheet.Workbook.Edit

/-!
Coordinates, cells and tokens under an edit.

On the grid an edit moves coordinates without letting two meet, away from the edited place or
toward it, and never off the grid. A token before the edited place stays, if its corners are in
order. A token whose new form takes in a whole axis is one that a second application of the edit
leaves alone, unless it took in the other axis before.
-/

namespace Spreadsheet

/-- The cell is on the grid. -/
def Limits.Holds (limits : Limits) (c : Cell) : Prop :=
  c.row < limits.maxRows ∧ c.col < limits.maxCols

instance (limits : Limits) (c : Cell) : Decidable (limits.Holds c) :=
  inferInstanceAs (Decidable (_ ∧ _))

/-- A grid of at least two rows and two columns, which can be counted with 32 bits. -/
structure Limits.Fit (limits : Limits) : Prop where
  rows : 2 ≤ limits.maxRows
  cols : 2 ≤ limits.maxCols
  rows_lt : limits.maxRows < 2 ^ 32
  cols_lt : limits.maxCols < 2 ^ 32

/-- The range of a token that refers to fixed cells. -/
def Token.range? : Token → Option CellRange
  | ref _ a | ref3d _ _ a => some (.single a.cell)
  | area _ a | area3d _ _ a => some a.range
  | _ => none

/-- The area is on the grid and has its top-left corner first. -/
structure AreaAddress.Plain (limits : Limits) (a : AreaAddress) : Prop where
  holds_last : limits.Holds a.last.cell
  row_le : a.first.row ≤ a.last.row
  col_le : a.first.col ≤ a.last.col

/-- Both corners of the area are on the grid, in whatever order. -/
structure AreaAddress.OnGrid (limits : Limits) (a : AreaAddress) : Prop where
  holds_first : limits.Holds a.first.cell
  holds_last : limits.Holds a.last.cell

/-- The token is no placeholder, the cell that it refers to is on the grid, and `Q` holds of the
area that it refers to. -/
def Token.Within (limits : Limits) (Q : AreaAddress → Prop) : Token → Prop
  | exp .. => False
  | ref _ a | ref3d _ _ a => limits.Holds a.cell
  | area _ a | area3d _ _ a => Q a
  | _ => True

/-- The token is no placeholder, and the corners of what it refers to are on the grid. -/
def Token.OnGrid (limits : Limits) : Token → Prop := Token.Within limits (AreaAddress.OnGrid limits)

instance (limits : Limits) : DecidablePred (AreaAddress.OnGrid limits) := fun a =>
  decidable_of_iff (limits.Holds a.first.cell ∧ limits.Holds a.last.cell)
    ⟨fun h => ⟨h.1, h.2⟩, fun h => ⟨h.1, h.2⟩⟩

instance (limits : Limits) (Q : AreaAddress → Prop) [DecidablePred Q] :
    DecidablePred (Token.Within limits Q)
  | .exp .. => inferInstanceAs (Decidable False)
  | .ref _ a | .ref3d _ _ a => inferInstanceAs (Decidable (limits.Holds a.cell))
  | .area _ a | .area3d _ _ a => inferInstanceAs (Decidable (Q a))
  | .table .. | .binary _ | .unary _ | .paren | .missing | .text _ | .attr _ | .error _ | .bool _
  | .int _ | .num _ | .array .. | .func .. | .funcVar .. | .name .. | .nameX .. | .memory _
  | .refErr .. | .areaErr .. | .refN .. | .areaN .. | .refErr3d .. | .areaErr3d .. =>
    inferInstanceAs (Decidable True)

instance (limits : Limits) : DecidablePred (Token.OnGrid limits) :=
  inferInstanceAs (DecidablePred (Token.Within limits _))

/-- The token is no placeholder, and what it refers to is on the grid. -/
def Token.Plain (limits : Limits) : Token → Prop
  | exp .. => False
  | ref _ a | ref3d _ _ a => limits.Holds a.cell
  | area _ a | area3d _ _ a => a.Plain limits
  | _ => True

lemma AreaAddress.Plain.onGrid {limits : Limits} {a : AreaAddress} (h : a.Plain limits) :
    a.OnGrid limits :=
  ⟨⟨Nat.lt_of_le_of_lt h.row_le h.holds_last.1, Nat.lt_of_le_of_lt h.col_le h.holds_last.2⟩,
    h.holds_last⟩

lemma Token.plain_iff_within {limits : Limits} {t : Token} :
    t.Plain limits ↔ t.Within limits (AreaAddress.Plain limits) := by
  cases t <;> rfl

lemma Token.Plain.onGrid {limits : Limits} {t : Token} (h : t.Plain limits) : t.OnGrid limits := by
  cases t with
  | area | area3d => exact AreaAddress.Plain.onGrid h
  | _ => exact h

lemma AreaAddress.OnGrid.holds_stop {limits : Limits} {a : AreaAddress} (h : a.OnGrid limits) :
    limits.Holds a.range.stop :=
  ⟨Nat.max_lt.mpr ⟨h.holds_first.1, h.holds_last.1⟩,
    Nat.max_lt.mpr ⟨h.holds_first.2, h.holds_last.2⟩⟩

lemma Token.OnGrid.holds_stop {limits : Limits} {t : Token} {r : CellRange} (ht : t.OnGrid limits)
    (hr : t.range? = some r) : limits.Holds r.stop := by
  cases t <;> simp only [range?, Option.some.injEq, reduceCtorEq] at hr <;> subst hr
  case ref => exact ht
  case ref3d => exact ht
  case area => exact AreaAddress.OnGrid.holds_stop ht
  case area3d => exact AreaAddress.OnGrid.holds_stop ht

namespace GridEdit

/-- The edit was made for a grid of the given size, which can be counted with 32 bits. -/
structure Suits (e : GridEdit) (limits : Limits) : Prop where
  last_eq : e.last = e.axis.last limits
  rows_lt : limits.maxRows < 2 ^ 32
  cols_lt : limits.maxCols < 2 ^ 32

/-- The edit is one of a grid of the given size, which it was made for. -/
structure Fits (e : GridEdit) (limits : Limits) : Prop where
  last_eq : e.last = e.axis.last limits
  fit : limits.Fit

variable {e : GridEdit} {limits : Limits} {i j k lo hi : Nat} {c c' : Cell}

lemma Fits.suits (he : e.Fits limits) : e.Suits limits :=
  ⟨he.last_eq, he.fit.rows_lt, he.fit.cols_lt⟩

/-! ### Coordinates -/

lemma Suits.last_lt (he : e.Suits limits) : e.last < maxCoordinate := by
  obtain ⟨hlast, hrows, hcols⟩ := he
  unfold maxCoordinate
  cases ha : e.axis <;> simp only [ha, Axis.last, Limits.lastRow, Limits.lastCol] at hlast <;> omega

lemma Suits.coordinate_le (he : e.Suits limits) (hc : limits.Holds c) :
    e.axis.coordinate c ≤ e.last := by
  obtain ⟨hrow, hcol⟩ := hc
  rw [he.last_eq]
  cases e.axis <;> simp only [Axis.coordinate, Axis.last, Limits.lastRow, Limits.lastCol] <;> omega

lemma stop_le_iff (hi : i < maxCoordinate) : e.stop ≤ i ↔ e.start + e.count ≤ i := by
  unfold stop
  omega

lemma index?_of_lt (h : i < e.start) : e.index? i = some i := by
  rw [index?, if_pos h]

lemma index?_le_last (h : e.index? i = some k) (hi : i ≤ e.last) : k ≤ e.last := by
  unfold index? at h
  cases hc : e.change <;> simp only [hc] at h <;> split_ifs at h <;> cases h <;> omega

/-- A deletion moves coordinates toward the front. -/
lemma index?_le (hc : e.change = .delete) (h : e.index? i = some k) : k ≤ i := by
  unfold index? at h
  simp only [hc] at h
  split_ifs at h <;> cases h <;> omega

/-- An insertion moves coordinates toward the end. -/
lemma le_index? (hc : e.change = .insert) (h : e.index? i = some k) : i ≤ k := by
  unfold index? at h
  simp only [hc] at h
  split_ifs at h <;> cases h <;> omega

/-- No two coordinates come to the same place. -/
theorem index?_inj (hi : i < maxCoordinate) (hj : j < maxCoordinate)
    (h : e.index? i = some k) (h' : e.index? j = some k) : i = j := by
  unfold index? at h h'
  cases hc : e.change with
  | insert =>
    simp only [hc] at h h'
    split_ifs at h h' <;> simp only [Option.some.injEq] at h h' <;> omega
  | delete =>
    simp only [hc, stop_le_iff hi] at h
    simp only [hc, stop_le_iff hj] at h'
    split_ifs at h h' <;> simp only [Option.some.injEq] at h h' <;> omega

lemma index?_insert (hc : e.change = .insert) (hi : e.start ≤ i) :
    e.index? i = if i + e.count ≤ e.last then some (i + e.count) else none := by
  simp only [index?, hc, if_neg (Nat.not_lt.mpr hi)]

lemma index?_delete (hc : e.change = .delete) (hi : e.start ≤ i) (hlt : i < maxCoordinate) :
    e.index? i = if e.start + e.count ≤ i then some (i - e.count) else none := by
  simp only [index?, hc, if_neg (Nat.not_lt.mpr hi), stop_le_iff hlt]

/-- Where an insertion takes a coordinate behind which there is room. -/
def pushed (e : GridEdit) (i : Nat) : Nat := if i < e.start then i else i + e.count

lemma index?_eq_pushed (hc : e.change = .insert) (h : e.index? i = some k) : k = e.pushed i := by
  unfold pushed
  split_ifs with hs
  · rw [index?_of_lt hs] at h
    exact (Option.some.inj h).symm
  · rw [index?_insert hc (by omega)] at h
    split_ifs at h
    exact (Option.some.inj h).symm

lemma pushed_le_iff : e.pushed i ≤ e.pushed j ↔ i ≤ j := by
  unfold pushed
  split_ifs <;> omega

lemma pushed_lt_iff : e.pushed i < e.pushed j ↔ i < j := by
  simp only [← Nat.not_le, pushed_le_iff]

lemma pushed_inj : e.pushed i = e.pushed j ↔ i = j := by
  simp only [Nat.le_antisymm_iff, pushed_le_iff]

/-! ### Cells -/

@[simp] lemma coordinate_withCoordinate (a : Axis) (c : Cell) (i : Nat) :
    a.coordinate (a.withCoordinate c i) = i := by
  cases a <;> rfl

/-- Along the other axis an edit moves nothing. -/
lemma coordinate_withCoordinate_of_ne {a b : Axis} (h : a ≠ b) (c : Cell) (i : Nat) :
    a.coordinate (b.withCoordinate c i) = a.coordinate c := by
  cases a <;> cases b <;> first | rfl | exact absurd rfl h

@[simp] lemma withCoordinate_withCoordinate (a : Axis) (c : Cell) (i j : Nat) :
    a.withCoordinate (a.withCoordinate c i) j = a.withCoordinate c j := by
  cases a <;> rfl

@[simp] lemma withCoordinate_eta (a : Axis) (c : Cell) (i : Nat) :
    a.withCoordinate (a.withCoordinate c i) = a.withCoordinate c := by
  funext j
  exact withCoordinate_withCoordinate a c i j

/-- Two cells are the same if they agree along the axis and were moved to the same place. -/
lemma withCoordinate_inj {a : Axis} (h : a.withCoordinate c i = a.withCoordinate c' j)
    (hc : a.coordinate c = a.coordinate c') : c = c' := by
  obtain ⟨row, col⟩ := c
  obtain ⟨row', col'⟩ := c'
  cases a <;> simp_all [Axis.withCoordinate, Axis.coordinate]

lemma cell?_eq_some : e.cell? c = some c' ↔
    ∃ i, e.index? (e.axis.coordinate c) = some i ∧ e.axis.withCoordinate c i = c' := by
  rw [cell?, Option.map_eq_some_iff]

lemma coordinate_cell? (h : e.cell? c = some c') :
    e.index? (e.axis.coordinate c) = some (e.axis.coordinate c') := by
  obtain ⟨i, hi, rfl⟩ := cell?_eq_some.mp h
  rw [hi, coordinate_withCoordinate]

lemma holds_cell? (he : e.Suits limits) (hc : limits.Holds c) (h : e.cell? c = some c') :
    limits.Holds c' := by
  have hle := index?_le_last (coordinate_cell? h) (he.coordinate_le hc)
  obtain ⟨i, -, rfl⟩ := cell?_eq_some.mp h
  obtain ⟨hrow, hcol⟩ := hc
  have hlast := he.last_eq
  unfold Limits.Holds
  cases ha : e.axis <;>
    simp only [ha, Axis.withCoordinate, Axis.coordinate, Axis.last, Limits.lastRow,
      Limits.lastCol] at hle hlast ⊢ <;> omega

/-- No two cells come to the same place. -/
lemma cell?_inj_of_lt {d : Cell} (hc : e.axis.coordinate c < maxCoordinate)
    (hd : e.axis.coordinate d < maxCoordinate) (h : e.cell? c = some c')
    (h' : e.cell? d = some c') : c = d := by
  have hcoord : e.axis.coordinate c = e.axis.coordinate d :=
    index?_inj hc hd (coordinate_cell? h) (coordinate_cell? h')
  obtain ⟨i, -, hi⟩ := cell?_eq_some.mp h
  obtain ⟨j, -, hj⟩ := cell?_eq_some.mp h'
  exact withCoordinate_inj (hi.trans hj.symm) hcoord

theorem cell?_inj {d : Cell} (he : e.Suits limits) (hc : limits.Holds c) (hd : limits.Holds d)
    (h : e.cell? c = some c') (h' : e.cell? d = some c') : c = d :=
  cell?_inj_of_lt (Nat.lt_of_le_of_lt (he.coordinate_le hc) he.last_lt)
    (Nat.lt_of_le_of_lt (he.coordinate_le hd) he.last_lt) h h'

/-- A cell that comes to the place of another one which is not moved before it is that one. -/
lemma cell?_eq_of_le (h : e.cell? c = some c')
    (hle : if e.change = .insert then e.axis.coordinate c' ≤ e.axis.coordinate c
      else e.axis.coordinate c ≤ e.axis.coordinate c') : c = c' := by
  have hmove := coordinate_cell? h
  obtain ⟨i, hi, rfl⟩ := cell?_eq_some.mp h
  rw [coordinate_withCoordinate] at hmove hle
  have hsame : i = e.axis.coordinate c := by
    cases hc : e.change with
    | insert =>
      have := le_index? hc hmove
      simp only [hc, if_true] at hle
      omega
    | delete =>
      have := index?_le hc hmove
      simp only [hc, reduceCtorEq, if_false] at hle
      omega
  rw [hsame]
  cases e.axis <;> rfl

/-! ### Ranges -/

lemma span?_insert (hc : e.change = .insert) : e.span? lo hi = (e.index? lo).map fun lo =>
    (lo, if hi < e.start then hi else min (hi + e.count) e.last) := by
  unfold span?
  rw [hc]
  cases e.index? lo <;> rfl

lemma span?_delete (hc : e.change = .delete) (hle : lo ≤ hi) (hlt : hi < maxCoordinate) :
    e.span? lo hi =
      if hi < e.start then some (lo, hi)
      else if e.start + e.count ≤ hi then
        some (if lo < e.start then lo else max (lo - e.count) e.start, hi - e.count)
      else if lo < e.start then some (lo, e.start - 1) else none := by
  unfold span?
  simp only [hc, stop_le_iff hlt, stop_le_iff (show lo < maxCoordinate by omega)]
  split_ifs <;> simp <;> omega

lemma range?_eq_map (e : GridEdit) (r : CellRange) : e.range? r =
    (e.span? (e.axis.coordinate r.start) (e.axis.coordinate r.stop)).map fun x =>
      .ofCorners (e.axis.withCoordinate r.start x.1) (e.axis.withCoordinate r.stop x.2) := by
  unfold range?
  cases e.span? (e.axis.coordinate r.start) (e.axis.coordinate r.stop) <;> rfl

/-- A range stays one: its first coordinate does not pass its last, which stays on the grid. -/
lemma span?_le {lo' hi' : Nat} (hlast : e.last < maxCoordinate) (hlo : lo ≤ hi)
    (hhi : hi ≤ e.last) (h : e.span? lo hi = some (lo', hi')) : lo' ≤ hi' ∧ hi' ≤ e.last := by
  have hstop := stop_le_iff (e := e) (show hi < maxCoordinate by omega)
  have hstop' := stop_le_iff (e := e) (show lo < maxCoordinate by omega)
  unfold span? at h
  cases hc : e.change with
  | insert =>
    simp only [hc] at h
    obtain ⟨k, hk, h⟩ := Option.bind_eq_some_iff.mp h
    simp only [index?, hc] at hk
    split_ifs at hk h <;> simp only [Option.some.injEq, pure, Prod.mk.injEq] at hk h <;> omega
  | delete =>
    simp only [hc, hstop, hstop'] at h
    split_ifs at h <;> simp only [Option.some.injEq, Prod.mk.injEq] at h <;> omega

/-- A range before the edited place stays. -/
lemma span?_of_lt (hlo : lo ≤ hi) (h : hi < e.start) : e.span? lo hi = some (lo, hi) := by
  unfold span?
  cases hc : e.change with
  | insert =>
    simp only [index?_of_lt (show lo < e.start by omega), h, if_true]
    rfl
  | delete => simp only [h, show lo < e.start by omega, if_true]

lemma coordinate_start_le (a : Axis) (r : CellRange) :
    a.coordinate r.start ≤ a.coordinate r.stop := by
  have hrow := r.row_le
  have hcol := r.col_le
  cases a <;> assumption

lemma range?_eq_some_of_le {r r' : CellRange} (hlast : e.last < maxCoordinate)
    (hr : e.axis.coordinate r.stop ≤ e.last) (h : e.range? r = some r') : ∃ lo hi,
      e.span? (e.axis.coordinate r.start) (e.axis.coordinate r.stop) = some (lo, hi) ∧
      r'.start = e.axis.withCoordinate r.start lo ∧ r'.stop = e.axis.withCoordinate r.stop hi := by
  obtain ⟨⟨lo, hi⟩, hspan, h⟩ := Option.bind_eq_some_iff.mp h
  cases h
  have hrow := r.row_le
  have hcol := r.col_le
  have hle := (span?_le hlast (coordinate_start_le e.axis r) hr hspan).1
  refine ⟨lo, hi, hspan, ?_, ?_⟩ <;>
    cases ha : e.axis <;>
    simp only [CellRange.ofCorners, Axis.withCoordinate, Nat.min_eq_left, Nat.max_eq_right, hrow,
      hcol, hle]

lemma range?_eq_some {r r' : CellRange} (he : e.Suits limits) (hr : limits.Holds r.stop)
    (h : e.range? r = some r') : ∃ lo hi,
      e.span? (e.axis.coordinate r.start) (e.axis.coordinate r.stop) = some (lo, hi) ∧
      r'.start = e.axis.withCoordinate r.start lo ∧ r'.stop = e.axis.withCoordinate r.stop hi :=
  range?_eq_some_of_le he.last_lt (he.coordinate_le hr) h

lemma ofCorners_start_stop (r : CellRange) : CellRange.ofCorners r.start r.stop = r := by
  obtain ⟨start, stop, hrow, hcol⟩ := r
  simp only [CellRange.ofCorners, Nat.min_eq_left hrow, Nat.min_eq_left hcol,
    Nat.max_eq_right hrow, Nat.max_eq_right hcol]

@[simp] lemma withCoordinate_coordinate (a : Axis) (c : Cell) :
    a.withCoordinate c (a.coordinate c) = c := by
  cases a <;> rfl

lemma range?_of_lt {r : CellRange} (h : e.axis.coordinate r.stop < e.start) :
    e.range? r = some r := by
  unfold range?
  rw [span?_of_lt (coordinate_start_le e.axis r) h]
  simp [ofCorners_start_stop]

/-- An edit of rows leaves the columns of a range, and the other way round. -/
lemma spansAxis_of_isWhole {r r' : CellRange} (he : e.Suits limits) (hr : limits.Holds r.stop)
    (h : e.range? r = some r') (hwhole : r.isWhole limits = false)
    (hwhole' : r'.isWhole limits = true) : e.spansAxis r' = true := by
  obtain ⟨lo, hi, -, hstart, hstop⟩ := range?_eq_some he hr h
  have hlast := he.last_eq
  unfold CellRange.isWhole CellRange.hasAllRows CellRange.hasAllCols at hwhole hwhole'
  unfold spansAxis
  rw [hstart, hstop] at hwhole' ⊢
  cases ha : e.axis <;>
    simp [ha, Axis.withCoordinate, Axis.coordinate, Axis.last, Limits.lastRow,
      Limits.lastCol] at hlast hwhole hwhole' ⊢ <;>
    exact ⟨by omega, decide_eq_true (by omega)⟩

/-! ### Areas -/

section
variable {a a' : AreaAddress}

lemma start_range (ha : a.Plain limits) : a.range.start = a.first.cell := by
  simp only [AreaAddress.range, CellRange.ofCorners, Address.cell, Nat.min_eq_left ha.row_le,
    Nat.min_eq_left ha.col_le]

lemma stop_range (ha : a.Plain limits) : a.range.stop = a.last.cell := by
  simp only [AreaAddress.range, CellRange.ofCorners, Address.cell, Nat.max_eq_right ha.row_le,
    Nat.max_eq_right ha.col_le]

lemma area?_of_lt (ha : a.Plain limits) (h : e.axis.coordinate a.range.stop < e.start) :
    e.area? a = some a := by
  unfold area?
  split_ifs
  · rfl
  · rw [range?_of_lt h, Option.map_some, start_range ha, stop_range ha]
    rfl

/-- What the new form of an area is, if it has to change. -/
lemma area?_eq_some (h : e.area? a = some a') : a' = a ∨ ∃ r', e.range? a.range = some r' ∧
    a' = ⟨a.first.withCell r'.start, a.last.withCell r'.stop⟩ := by
  unfold area? at h
  split_ifs at h
  · exact Or.inl (Option.some.inj h).symm
  · obtain ⟨r', hr', rfl⟩ := Option.map_eq_some_iff.mp h
    exact Or.inr ⟨r', hr', rfl⟩

lemma range_withCells (r : CellRange) :
    (⟨a.first.withCell r.start, a.last.withCell r.stop⟩ : AreaAddress).range = r :=
  ofCorners_start_stop r

/-- What is left of a range on the grid is on the grid. -/
lemma holds_range? {r r' : CellRange} (he : e.Suits limits) (hr : limits.Holds r.stop)
    (h : e.range? r = some r') : limits.Holds r'.stop := by
  obtain ⟨lo, hi, hspan, -, hstop⟩ := range?_eq_some he hr h
  have hhi := (span?_le he.last_lt (coordinate_start_le e.axis r) (he.coordinate_le hr) hspan).2
  rw [hstop]
  obtain ⟨hrow, hcol⟩ := hr
  have hlast := he.last_eq
  unfold Limits.Holds
  cases hax : e.axis <;>
    simp only [hax, Axis.withCoordinate, Axis.last, Limits.lastRow, Limits.lastCol]
      at hlast ⊢ <;> omega

/-- An area that had to change has its corners in order. -/
lemma plain_withCells {r : CellRange} (hr : limits.Holds r.stop) :
    (⟨a.first.withCell r.start, a.last.withCell r.stop⟩ : AreaAddress).Plain limits :=
  ⟨hr, r.row_le, r.col_le⟩

lemma plain_area? (he : e.Suits limits) (ha : a.Plain limits) (h : e.area? a = some a') :
    a'.Plain limits := by
  rcases area?_eq_some h with rfl | ⟨r', hr', rfl⟩
  · exact ha
  · exact plain_withCells (holds_range? he ha.onGrid.holds_stop hr')

lemma onGrid_area? (he : e.Suits limits) (ha : a.OnGrid limits) (h : e.area? a = some a') :
    a'.OnGrid limits := by
  rcases area?_eq_some h with rfl | ⟨r', hr', rfl⟩
  · exact ha
  · exact (plain_withCells (holds_range? he ha.holds_stop hr')).onGrid

/-- An area that comes to take in a whole axis is left alone from then on. -/
lemma area?_settled (he : e.Suits limits) (ha : a.OnGrid limits)
    (hwhole : a.isWhole limits = false) (h : e.area? a = some a')
    (hwhole' : a'.isWhole limits = true) : e.area? a' = some a' := by
  rcases area?_eq_some h with rfl | ⟨r', hr', rfl⟩
  · exact h
  have hspans : e.spansAxis r' = true := by
    refine spansAxis_of_isWhole he ha.holds_stop hr' hwhole ?_
    rw [← hwhole', AreaAddress.isWhole, AreaAddress.isWholeColumn, AreaAddress.isWholeRow,
      range_withCells]
    rfl
  unfold area?
  rw [range_withCells, if_pos hspans]

end

/-! ### Tokens -/

section
variable {t : Token}

lemma address?_of_lt {a : Address} (h : e.axis.coordinate a.cell < e.start) :
    e.address? a = some a := by
  unfold address? cell?
  rw [index?_of_lt h, Option.map_some, withCoordinate_coordinate]
  rfl

lemma holds_address? {a a' : Address} (he : e.Suits limits) (ha : limits.Holds a.cell)
    (h : e.address? a = some a') : limits.Holds a'.cell := by
  obtain ⟨c, hc, rfl⟩ := Option.map_eq_some_iff.mp h
  exact holds_cell? he ha hc

lemma movedToken?_getD (e : GridEdit) (t : Token) : (e.movedToken? t).getD t = e.moveToken t := by
  unfold movedToken?
  dsimp only
  split_ifs with h
  · exact h.symm
  · rfl

/-- What an edit keeps true of areas it keeps true of tokens. -/
lemma within_moveToken {Q : AreaAddress → Prop} (he : e.Suits limits)
    (hQ : ∀ a a', Q a → e.area? a = some a' → Q a') (ht : t.Within limits Q) :
    (e.moveToken t).Within limits Q := by
  unfold moveToken
  split
  · split
    · exact holds_address? he ht ‹_›
    · trivial
  · split
    · exact hQ _ _ ht ‹_›
    · trivial
  · split
    · exact holds_address? he ht ‹_›
    · trivial
  · split
    · exact hQ _ _ ht ‹_›
    · trivial
  · exact ht

lemma onGrid_moveToken (he : e.Suits limits) (ht : t.OnGrid limits) :
    (e.moveToken t).OnGrid limits :=
  within_moveToken he (fun _ _ ha h => onGrid_area? he ha h) ht

lemma plain_moveToken (he : e.Suits limits) (ht : t.Plain limits) :
    (e.moveToken t).Plain limits :=
  Token.plain_iff_within.mpr
    (within_moveToken he (fun _ _ ha h => plain_area? he ha h) (Token.plain_iff_within.mp ht))

lemma moveToken_of_range?_eq_none (h : t.range? = none) : e.moveToken t = t := by
  cases t <;> first | rfl | cases h

/-- A token before the edited place stays. -/
lemma moveToken_of_lt {r : CellRange} (ht : t.Plain limits) (hr : t.range? = some r)
    (h : e.axis.coordinate r.stop < e.start) : e.moveToken t = t := by
  cases t <;> simp only [Token.range?, Option.some.injEq, reduceCtorEq] at hr <;> subst hr
  case ref => simp only [moveToken, address?_of_lt h]
  case ref3d => simp only [moveToken, address?_of_lt h]
  case area => simp only [moveToken, area?_of_lt ht h]
  case area3d => simp only [moveToken, area?_of_lt ht h]

/-- A token whose new form is an area of whole rows or columns is left alone from then on. -/
lemma moveToken_settled (he : e.Suits limits) (ht : t.OnGrid limits)
    (hwhole : t.isWholeArea limits = false) (hwhole' : (e.moveToken t).isWholeArea limits = true) :
    e.moveToken (e.moveToken t) = e.moveToken t := by
  cases t with
  | area cls a =>
    rcases ha : e.area? a with _ | a'
    · simp only [moveToken, ha]
    · simp only [moveToken, ha] at hwhole' ⊢
      rw [area?_settled he ht hwhole ha hwhole']
  | area3d cls link a =>
    rcases ha : e.area? a with _ | a'
    · simp only [moveToken, ha]
    · simp only [moveToken, ha] at hwhole' ⊢
      rw [area?_settled he ht hwhole ha hwhole']
  | ref cls a =>
    rcases ha : e.address? a with _ | a' <;> simp [moveToken, ha, Token.isWholeArea] at hwhole'
  | ref3d cls link a =>
    rcases ha : e.address? a with _ | a' <;> simp [moveToken, ha, Token.isWholeArea] at hwhole'
  | _ => rfl

lemma isWhole_single (hl : limits.Fit) (c : Cell) :
    (CellRange.single c).isWhole limits = false := by
  have hrows := hl.rows
  have hcols := hl.cols
  simp only [CellRange.isWhole, CellRange.hasAllRows, CellRange.hasAllCols,
    Bool.or_eq_false_iff, Bool.and_eq_false_iff, decide_eq_false_iff_not]
  dsimp only [CellRange.single]
  omega

/-- On a grid that fits, only areas take in whole rows or columns. -/
lemma isWhole_eq_isWholeArea {r : CellRange} (hl : limits.Fit) (hr : t.range? = some r) :
    r.isWhole limits = t.isWholeArea limits := by
  cases t <;> simp only [Token.range?, Option.some.injEq, reduceCtorEq] at hr <;> subst hr
  case ref => exact isWhole_single hl _
  case ref3d => exact isWhole_single hl _
  case area => rfl
  case area3d => rfl

lemma start_region : (e.region limits).start =
    e.axis.withCoordinate ⟨0, 0⟩ (min e.start (e.axis.last limits)) := by
  cases ha : e.axis <;> simp [region, ha, CellRange.ofCorners, Axis.withCoordinate, Axis.last]

lemma stop_region : (e.region limits).stop = ⟨limits.lastRow, limits.lastCol⟩ := by
  cases ha : e.axis <;> simp only [region, ha, CellRange.ofCorners, Axis.withCoordinate,
    Axis.last, Cell.mk.injEq] <;> omega

/-- A range that the region of an edit does not meet ends before the edited place. -/
lemma lt_start_of_region {r : CellRange} (hr : limits.Holds r.stop)
    (h : (r.intersect? (e.region limits)).isSome = false) : e.axis.coordinate r.stop < e.start := by
  obtain ⟨hrow, hcol⟩ := hr
  have hrow' := r.row_le
  have hcol' := r.col_le
  unfold CellRange.intersect? at h
  dsimp only at h
  split_ifs at h with hmeet
  · cases h
  · rw [start_region, stop_region] at hmeet
    cases ha : e.axis <;>
      simp only [ha, Axis.withCoordinate, Axis.coordinate, Axis.last, Limits.lastRow,
        Limits.lastCol] at hmeet ⊢ <;> omega

end

end GridEdit

end Spreadsheet
