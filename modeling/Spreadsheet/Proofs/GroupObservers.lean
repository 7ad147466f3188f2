import Mathlib.Tactic.Set
import Spreadsheet.Proofs.GridEdit

/-!
The area that a group is recorded with for one of its tokens, against what its members refer to.

The area is the smallest one around what the first and the last member see. Along an axis, a
coordinate of a reference is fixed, or it moves with the member: an offset wraps around the edges of
the grid, and a reference into another sheet ends at them. Between two cells without an edge in
between, a coordinate stays between its two values. So the area covers what all members refer to if
and only if it is there as soon as one of them refers to anything, and takes in every axis along
which an offset passes the edge inside the group.
-/

namespace Spreadsheet

/-- The number of coordinates on the grid. -/
def Axis.extent : Axis → Limits → Nat
  | rows, limits => limits.maxRows
  | cols, limits => limits.maxCols

/-- How a coordinate of a reference depends on the cell of its formula. -/
inductive Coordinate
  | fixed (i : Nat)
  /-- At a distance from the cell, around the edges of the grid. -/
  | offset (d : Int)
  /-- As seen from the anchor of the group, and moved with the cell. -/
  | anchored (i : Nat)

namespace Coordinate

/-- The coordinate for a formula in a cell at `n`, if there is one on the grid. -/
def at? (anchor n extent : Nat) : Coordinate → Option Nat
  | fixed i => some i
  | offset d => some (OffsetAddress.wrap n d extent)
  | anchored i => shiftWithin i (n - anchor) extent

/-- Between two cells the coordinate passes an edge of the grid and goes on from the other one. -/
def Wraps (lo hi extent : Nat) : Coordinate → Prop
  | offset d => (lo + d) / (extent : Int) ≠ (hi + d) / (extent : Int)
  | _ => False

variable {k : Coordinate} {anchor lo hi n extent i j : Nat}

/-- A coordinate that passes no edge stays between its values at the two ends. -/
lemma at?_between (hi' : k.at? anchor lo extent = some i) (hj : k.at? anchor hi extent = some j)
    (hwraps : ¬k.Wraps lo hi extent) (hlo : lo ≤ n) (hhi : n ≤ hi) {m : Nat}
    (hm : k.at? anchor n extent = some m) : min i j ≤ m ∧ m ≤ max i j := by
  cases k with
  | fixed =>
    cases hi'
    cases hj
    cases hm
    omega
  | anchored =>
    simp only [at?, shiftWithin, Option.ite_none_right_eq_some, Option.some.injEq] at hi' hj hm
    omega
  | offset d =>
    have hquot : (lo + d) / (extent : Int) = (hi + d) / (extent : Int) := not_not.mp hwraps
    have hquot' : (n + d) / (extent : Int) = (hi + d) / (extent : Int) := by
      rcases extent.eq_zero_or_pos with rfl | hpos
      · simp
      · have hpos' : 0 < (extent : Int) := by omega
        refine Int.le_antisymm (Int.ediv_le_ediv hpos' (by omega)) ?_
        rw [← hquot]
        exact Int.ediv_le_ediv hpos' (by omega)
    simp only [at?, OffsetAddress.wrap, Option.some.injEq, Int.emod_def, hquot, hquot'] at hi' hj hm
    omega

lemma Wraps.extent_pos (h : k.Wraps lo hi extent) : 0 < extent := by
  cases k with
  | fixed => exact h.elim
  | anchored => exact h.elim
  | offset d =>
    by_contra hc
    obtain rfl : extent = 0 := by omega
    simp [Wraps] at h

/-- A coordinate that depends on the cell is on the grid. -/
lemma at?_lt_or_eq (hpos : 0 < extent) (hi : k.at? anchor lo extent = some i)
    (hj : k.at? anchor n extent = some j) : j < extent ∨ j = i := by
  cases k with
  | fixed =>
    cases hi
    cases hj
    exact Or.inr rfl
  | anchored =>
    simp only [at?, shiftWithin, Option.ite_none_right_eq_some, Option.some.injEq] at hj
    omega
  | offset d =>
    cases hj
    have hnonneg : 0 ≤ ((n : Int) + d) % extent := Int.emod_nonneg _ (by omega)
    have hlt : ((n : Int) + d) % extent < extent := Int.emod_lt_of_pos _ (by omega)
    refine Or.inl ?_
    unfold OffsetAddress.wrap
    omega

/-- Where a coordinate passes an edge it comes to the last coordinate and to the first. -/
lemma Wraps.exists_edges (h : k.Wraps lo hi extent) (anchor : Nat) (hle : lo ≤ hi) :
    (∃ n, lo ≤ n ∧ n ≤ hi ∧ k.at? anchor n extent = some 0) ∧
      ∃ n, lo ≤ n ∧ n ≤ hi ∧ k.at? anchor n extent = some (extent - 1) := by
  cases k with
  | fixed => exact h.elim
  | anchored => exact h.elim
  | offset d =>
    have hpos : 0 < (extent : Int) := by exact_mod_cast h.extent_pos
    have hlt : (lo + d) / (extent : Int) < (hi + d) / extent :=
      Int.lt_iff_le_and_ne.mpr ⟨Int.ediv_le_ediv hpos (by omega), h⟩
    -- the first cell behind the edge sees a multiple of the extent
    set q : Int := (hi + d) / extent
    have hbefore : lo + d < q * extent := (Int.ediv_lt_iff_lt_mul hpos).mp hlt
    have hbehind : q * extent ≤ hi + d := Int.ediv_mul_le _ (by omega)
    refine ⟨⟨(q * extent - d).toNat, by omega, by omega, ?_⟩,
      ⟨(q * extent - d - 1).toNat, by omega, by omega, ?_⟩⟩
    · have heq : ((q * extent - d).toNat : Int) + d = q * extent := by omega
      simp only [at?, OffsetAddress.wrap, heq, Int.mul_emod_left, Int.toNat_zero]
    · have heq : ((q * extent - d - 1).toNat : Int) + d = (extent - 1) + (q - 1) * extent := by
        rw [Int.sub_mul]
        omega
      simp only [at?, OffsetAddress.wrap, heq, Int.add_mul_emod_self_right, Option.some.injEq]
      rw [Int.emod_eq_of_lt (by omega) (by omega)]
      omega

end Coordinate

/-! ### Corners -/

/-- A coordinate of an offset from the cell of the formula. -/
def OffsetAddress.coordinate (a : OffsetAddress) : Axis → Coordinate
  | .rows => a.rowOffset?.elim (.fixed a.row.toNat) .offset
  | .cols => a.colOffset?.elim (.fixed a.col.toNat) .offset

/-- A coordinate of an address as the anchor sees it. -/
def Address.coordinate (a : Address) : Axis → Coordinate
  | .rows => if a.rowRelative then .anchored a.row else .fixed a.row
  | .cols => if a.colRelative then .anchored a.col else .fixed a.col

/-- Along an axis, the coordinates of the two corners of a reference. -/
def Token.corners? (x : Axis) : Token → Option (Coordinate × Coordinate)
  | ref _ a => some (.fixed (x.coordinate a.cell), .fixed (x.coordinate a.cell))
  | area _ a => some (.fixed (x.coordinate a.first.cell), .fixed (x.coordinate a.last.cell))
  | refN _ a => some (a.coordinate x, a.coordinate x)
  | areaN _ a => some (a.first.coordinate x, a.last.coordinate x)
  | ref3d _ _ a => some (a.coordinate x, a.coordinate x)
  | area3d _ _ a => some (a.first.coordinate x, a.last.coordinate x)
  | _ => none

variable {anchor c : Cell} {limits : Limits} {r : CellRange} {t : Token}

lemma OffsetAddress.at?_coordinate (a : OffsetAddress) (x : Axis) (anchor : Nat) (c : Cell)
    (limits : Limits) : (a.coordinate x).at? anchor (x.coordinate c) (x.extent limits) =
      some (x.coordinate (a.resolve c limits).cell) := by
  cases x with
  | rows =>
    unfold coordinate resolve
    rcases a.rowOffset? with _ | d <;> rfl
  | cols =>
    unfold coordinate resolve
    rcases a.colOffset? with _ | d <;> rfl

/-- An address moves with its cell one coordinate at a time. -/
lemma Address.shiftRelative?_eq (a : Address) (anchor c : Cell) (limits : Limits) :
    a.shiftRelative? (c.row - anchor.row) (c.col - anchor.col) limits =
      ((a.coordinate .rows).at? anchor.row c.row limits.maxRows).bind fun row =>
        ((a.coordinate .cols).at? anchor.col c.col limits.maxCols).bind fun col =>
          some { a with row, col } := by
  obtain ⟨row, col, rowRelative, colRelative⟩ := a
  cases rowRelative <;> cases colRelative <;> rfl

lemma Address.at?_coordinate {a a' : Address}
    (h : a.shiftRelative? (c.row - anchor.row) (c.col - anchor.col) limits = some a') (x : Axis) :
    (a.coordinate x).at? (x.coordinate anchor) (x.coordinate c) (x.extent limits) =
      some (x.coordinate a'.cell) := by
  rw [shiftRelative?_eq] at h
  obtain ⟨row, hrow, h⟩ := Option.bind_eq_some_iff.mp h
  obtain ⟨col, hcol, h⟩ := Option.bind_eq_some_iff.mp h
  cases h
  cases x
  · exact hrow
  · exact hcol

lemma coordinate_ofCorners (x : Axis) (a b : Cell) :
    x.coordinate (CellRange.ofCorners a b).start = min (x.coordinate a) (x.coordinate b) ∧
      x.coordinate (CellRange.ofCorners a b).stop = max (x.coordinate a) (x.coordinate b) := by
  cases x <;> exact ⟨rfl, rfl⟩

/-- Along each axis, what a formula in a cell refers to lies between the two corners. -/
lemma Token.corners?_of_rangeIn? (h : t.rangeIn? anchor c limits = some r) (x : Axis) :
    ∃ k k' i i', t.corners? x = some (k, k') ∧
      k.at? (x.coordinate anchor) (x.coordinate c) (x.extent limits) = some i ∧
      k'.at? (x.coordinate anchor) (x.coordinate c) (x.extent limits) = some i' ∧
      x.coordinate r.start = min i i' ∧ x.coordinate r.stop = max i i' := by
  cases t with
  | ref cls a =>
    cases h
    exact ⟨_, _, _, _, rfl, rfl, rfl, (Nat.min_self _).symm, (Nat.max_self _).symm⟩
  | area cls a =>
    cases h
    exact ⟨_, _, _, _, rfl, rfl, rfl, coordinate_ofCorners x a.first.cell a.last.cell⟩
  | refN cls a =>
    cases h
    exact ⟨_, _, _, _, rfl, a.at?_coordinate x _ c limits, a.at?_coordinate x _ c limits,
      (Nat.min_self _).symm, (Nat.max_self _).symm⟩
  | areaN cls a =>
    cases h
    exact ⟨_, _, _, _, rfl, a.first.at?_coordinate x _ c limits, a.last.at?_coordinate x _ c limits,
      coordinate_ofCorners x _ _⟩
  | ref3d cls link a =>
    obtain ⟨a', ha, rfl⟩ := Option.map_eq_some_iff.mp h
    exact ⟨_, _, _, _, rfl, Address.at?_coordinate ha x, Address.at?_coordinate ha x,
      (Nat.min_self _).symm, (Nat.max_self _).symm⟩
  | area3d cls link a =>
    obtain ⟨a', ha, rfl⟩ := Option.map_eq_some_iff.mp h
    unfold AreaAddress.shiftRelative? at ha
    obtain ⟨first, hfirst, ha⟩ := Option.bind_eq_some_iff.mp ha
    obtain ⟨last, hlast, ha⟩ := Option.bind_eq_some_iff.mp ha
    cases ha
    exact ⟨_, _, _, _, rfl, Address.at?_coordinate hfirst x, Address.at?_coordinate hlast x,
      coordinate_ofCorners x _ _⟩
  | _ => cases h

/-- Along the axis, a corner of the reference passes the edge of the grid inside the group. -/
def Token.WrapsWithin (t : Token) (x : Axis) (group : CellRange) (limits : Limits) : Prop :=
  ∃ k k', t.corners? x = some (k, k') ∧
    (k.Wraps (x.coordinate group.start) (x.coordinate group.stop) (x.extent limits) ∨
      k'.Wraps (x.coordinate group.start) (x.coordinate group.stop) (x.extent limits))

/-- Only offsets wrap, and they mean something in every cell. -/
lemma Token.WrapsWithin.exists_range {x : Axis} {group : CellRange}
    (h : t.WrapsWithin x group limits) (anchor c : Cell) :
    ∃ r, t.rangeIn? anchor c limits = some r := by
  obtain ⟨k, k', hk, hw⟩ := h
  have hanchored : ∀ a : Address, ¬(a.coordinate x).Wraps (x.coordinate group.start)
      (x.coordinate group.stop) (x.extent limits) := by
    intro a
    cases x <;> unfold Address.coordinate <;> split_ifs <;> exact id
  cases t with
  | refN cls a => exact ⟨_, rfl⟩
  | areaN cls a => exact ⟨_, rfl⟩
  | ref cls a | area cls a =>
    cases hk
    exact (hw.elim id id).elim
  | ref3d cls link a =>
    cases hk
    exact (hw.elim (hanchored a) (hanchored a)).elim
  | area3d cls link a =>
    cases hk
    exact (hw.elim (hanchored a.first) (hanchored a.last)).elim
  | _ => cases hk

/-! ### What the members refer to -/

/-- The area on one sheet of this workbook that a token without offsets refers to. -/
def Token.area? (own : Nat) (links : SheetLinks) (t : Token) : Option Area := do
  let sheet ← t.observedSheet? own links
  let range ← t.range?
  return ⟨sheet, range⟩

/-- A member's token refers to what the group's token means in the cell of the member. -/
lemma Token.area?_bindTo (own : Nat) (links : SheetLinks) (anchor c : Cell) (limits : Limits)
    (t : Token) : (t.bindTo anchor c limits).area? own links = (do
      let sheet ← t.observedSheet? own links
      let range ← t.rangeIn? anchor c limits
      return ⟨sheet, range⟩) := by
  cases t with
  | ref3d cls link a =>
    simp only [bindTo, rangeIn?, bindTo.dRow, bindTo.dCol, rangeIn?.dRow, rangeIn?.dCol]
    rcases a.shiftRelative? (c.row - anchor.row) (c.col - anchor.col) limits with _ | a' <;>
      cases hl : links.localSheet? link <;> simp [area?, observedSheet?, range?, hl]
  | area3d cls link a =>
    simp only [bindTo, rangeIn?, bindTo.dRow, bindTo.dCol, rangeIn?.dRow, rangeIn?.dCol]
    rcases a.shiftRelative? (c.row - anchor.row) (c.col - anchor.col) limits with _ | a' <;>
      cases hl : links.localSheet? link <;> simp [area?, observedSheet?, range?, hl]
  | _ => rfl

/-! ### The recorded area -/

/-- A range lies in another one if it does so along both axes. -/
lemma CellRange.forall_mem_iff {r r' : CellRange} : (∀ c ∈ r, c ∈ r') ↔
    ∀ x : Axis, x.coordinate r'.start ≤ x.coordinate r.start ∧
      x.coordinate r.stop ≤ x.coordinate r'.stop := by
  have hrow := r.row_le
  have hcol := r.col_le
  constructor
  · intro h x
    have hstart := mem_iff.mp (h r.start (mem_iff.mpr ⟨Nat.le_refl _, hrow, Nat.le_refl _, hcol⟩))
    have hstop := mem_iff.mp (h r.stop (mem_iff.mpr ⟨hrow, Nat.le_refl _, hcol, Nat.le_refl _⟩))
    cases x <;> simp only [Axis.coordinate] <;> omega
  · intro h c hc
    have hrows := h .rows
    have hcols := h .cols
    simp only [Axis.coordinate] at hrows hcols
    rw [mem_iff] at hc ⊢
    omega

lemma coordinate_bounding (x : Axis) (r r' : CellRange) :
    x.coordinate (r.bounding r').start = min (x.coordinate r.start) (x.coordinate r'.start) ∧
      x.coordinate (r.bounding r').stop = max (x.coordinate r.stop) (x.coordinate r'.stop) := by
  cases x <;> exact ⟨rfl, rfl⟩

namespace SharedFormula

variable {f : SharedFormula} {sheet i : Nat} {links : SheetLinks} {key : Area}

/-- The area that a group on the sheet is recorded with for a token. -/
def observed? (f : SharedFormula) (sheet : Nat) (links : SheetLinks) (limits : Limits) (i : Nat) :
    Option Area :=
  FormulaRecord.observed? ⟨sheet, .shared f⟩ links limits i

/-- Whatever area a member refers to with the token is part of the recorded one. -/
def Covers (f : SharedFormula) (sheet : Nat) (links : SheetLinks) (limits : Limits) (i : Nat) :
    Prop :=
  ∀ m ∈ f.range, ∀ t a, (bindShared f.tokens f.anchor m limits)[i]? = some t →
    t.area? sheet links = some a → ∃ key, f.observed? sheet links limits i = some key ∧
      key.sheet = a.sheet ∧ ∀ c ∈ a.range, c ∈ key.range

lemma covers_iff_forall_token : f.Covers sheet links limits i ↔
    ∀ t, f.tokens[i]? = some t → ∀ s, t.observedSheet? sheet links = some s →
      ∀ m ∈ f.range, ∀ r, t.rangeIn? f.anchor m limits = some r →
        ∃ key, f.observed? sheet links limits i = some key ∧ key.sheet = s ∧
          ∀ c ∈ r, c ∈ key.range := by
  unfold Covers bindShared
  simp only [List.getElem?_map, Option.map_eq_some_iff]
  constructor
  · intro h t ht s hs m hm r hr
    refine h m hm _ ⟨s, r⟩ ⟨t, ht, rfl⟩ ?_
    rw [Token.area?_bindTo]
    simp [hs, hr]
  · rintro h m hm _ a ⟨t, ht, rfl⟩ ha
    rw [Token.area?_bindTo] at ha
    obtain ⟨s, hs, ha⟩ := Option.bind_eq_some_iff.mp ha
    obtain ⟨r, hr, ha⟩ := Option.bind_eq_some_iff.mp ha
    cases ha
    exact h t ht s hs m hm r hr

/-- Along each axis the recorded area is the smallest one around the corners that the two ends of
the group see. -/
lemma corners?_of_observed? (ht : f.tokens[i]? = some t)
    (h : f.observed? sheet links limits i = some key) (x : Axis) :
    ∃ k k' i i' j j', t.corners? x = some (k, k') ∧
      k.at? (x.coordinate f.anchor) (x.coordinate f.range.start) (x.extent limits) = some i ∧
      k'.at? (x.coordinate f.anchor) (x.coordinate f.range.start) (x.extent limits) = some i' ∧
      k.at? (x.coordinate f.anchor) (x.coordinate f.range.stop) (x.extent limits) = some j ∧
      k'.at? (x.coordinate f.anchor) (x.coordinate f.range.stop) (x.extent limits) = some j' ∧
      x.coordinate key.range.start = min (min i i') (min j j') ∧
      x.coordinate key.range.stop = max (max i i') (max j j') := by
  obtain ⟨u, first, last, hu, -, hfirst, hlast, hkey⟩ := FormulaRecord.observed?_eq_some h
  obtain rfl := Option.some.inj (ht.symm.trans hu)
  obtain ⟨k, k', i, i', hk, hi, hi', hstart, hstop⟩ := Token.corners?_of_rangeIn? hfirst x
  obtain ⟨_, _, j, j', hl, hj, hj', hstart', hstop'⟩ := Token.corners?_of_rangeIn? hlast x
  cases hk.symm.trans hl
  have hbounding := coordinate_bounding x first last
  refine ⟨k, k', i, i', j, j', hk, hi, hi', hj, hj', ?_, ?_⟩
  · rw [hkey, hbounding.1, hstart, hstart']
  · rw [hkey, hbounding.2, hstop, hstop']

/-- Along an axis where no corner wraps, or which the recorded area takes in, what a member refers
to does not go beyond that area. -/
lemma coordinate_le_of_member {m : Cell} (hm : m ∈ f.range) (ht : f.tokens[i]? = some t)
    (h : f.observed? sheet links limits i = some key) (hr : t.rangeIn? f.anchor m limits = some r)
    {x : Axis} (hwraps : t.WrapsWithin x f.range limits →
      x.coordinate key.range.start = 0 ∧ x.extent limits ≤ x.coordinate key.range.stop + 1) :
    x.coordinate key.range.start ≤ x.coordinate r.start ∧
      x.coordinate r.stop ≤ x.coordinate key.range.stop := by
  obtain ⟨k, k', i, i', j, j', hk, hi, hi', hj, hj', hstart, hstop⟩ := corners?_of_observed? ht h x
  obtain ⟨_, _, n, n', hl, hn, hn', hstart', hstop'⟩ := Token.corners?_of_rangeIn? hr x
  cases hk.symm.trans hl
  have hmem : x.coordinate f.range.start ≤ x.coordinate m ∧
      x.coordinate m ≤ x.coordinate f.range.stop := by
    rw [CellRange.mem_iff] at hm
    cases x <;> simp only [Axis.coordinate] <;> omega
  by_cases hw : t.WrapsWithin x f.range limits
  · obtain ⟨hzero, hextent⟩ := hwraps hw
    have hpos : 0 < x.extent limits := by
      obtain ⟨_, _, -, hw | hw⟩ := hw <;> exact hw.extent_pos
    have hlt := Coordinate.at?_lt_or_eq hpos hi hn
    have hlt' := Coordinate.at?_lt_or_eq hpos hi' hn'
    omega
  · have hbetween := Coordinate.at?_between hi hj (fun hc => hw ⟨k, k', hk, Or.inl hc⟩)
      hmem.1 hmem.2 hn
    have hbetween' := Coordinate.at?_between hi' hj' (fun hc => hw ⟨k, k', hk, Or.inr hc⟩)
      hmem.1 hmem.2 hn'
    omega

/-- What a corner comes to along the axis for a cell of the group, a member refers to. -/
lemma exists_member_of_at? {x : Axis} {k k' : Coordinate} {n j : Nat}
    (hk : t.corners? x = some (k, k')) (hrange : ∀ m, ∃ r, t.rangeIn? f.anchor m limits = some r)
    (hlo : x.coordinate f.range.start ≤ n) (hhi : n ≤ x.coordinate f.range.stop)
    (hj : k.at? (x.coordinate f.anchor) n (x.extent limits) = some j ∨
      k'.at? (x.coordinate f.anchor) n (x.extent limits) = some j) :
    ∃ m ∈ f.range, ∃ r, t.rangeIn? f.anchor m limits = some r ∧
      x.coordinate r.start ≤ j ∧ j ≤ x.coordinate r.stop := by
  have hrow := f.range.row_le
  have hcol := f.range.col_le
  have hm : x.withCoordinate f.range.start n ∈ f.range := by
    rw [CellRange.mem_iff]
    cases x <;> simp only [Axis.coordinate, Axis.withCoordinate] at hlo hhi ⊢ <;> omega
  obtain ⟨r, hr⟩ := hrange (x.withCoordinate f.range.start n)
  obtain ⟨_, _, i, i', hl, hi, hi', hstart, hstop⟩ := Token.corners?_of_rangeIn? hr x
  cases hk.symm.trans hl
  rw [GridEdit.coordinate_withCoordinate] at hi hi'
  refine ⟨_, hm, r, hr, ?_⟩
  rcases hj with hj | hj
  · cases hi.symm.trans hj
    omega
  · cases hi'.symm.trans hj
    omega

/-- Along an axis where a corner wraps the members see both edges of the grid. -/
lemma exists_members_of_wrapsWithin {x : Axis} (h : t.WrapsWithin x f.range limits) :
    (∃ m ∈ f.range, ∃ r, t.rangeIn? f.anchor m limits = some r ∧ x.coordinate r.start = 0) ∧
      ∃ m ∈ f.range, ∃ r, t.rangeIn? f.anchor m limits = some r ∧
        x.extent limits ≤ x.coordinate r.stop + 1 := by
  have hle := GridEdit.coordinate_start_le x f.range
  have hrange := h.exists_range f.anchor
  obtain ⟨k, k', hk, hw⟩ := h
  have hsees := fun n j hlo hhi => exists_member_of_at? (f := f) (n := n) (j := j) hk hrange hlo hhi
  rcases hw with hw | hw <;>
    obtain ⟨⟨n, hn, hn', hzero⟩, n', hlo, hhi, hlast⟩ :=
      hw.exists_edges (x.coordinate f.anchor) hle
  · obtain ⟨m, hm, r, hr, hstart, -⟩ := hsees n 0 hn hn' (Or.inl hzero)
    obtain ⟨m', hm', r', hr', -, hstop⟩ := hsees n' _ hlo hhi (Or.inl hlast)
    exact ⟨⟨m, hm, r, hr, by omega⟩, m', hm', r', hr', by omega⟩
  · obtain ⟨m, hm, r, hr, hstart, -⟩ := hsees n 0 hn hn' (Or.inr hzero)
    obtain ⟨m', hm', r', hr', -, hstop⟩ := hsees n' _ hlo hhi (Or.inr hlast)
    exact ⟨⟨m, hm, r, hr, by omega⟩, m', hm', r', hr', by omega⟩

/-- **When the recorded area covers all members.** It does so if and only if it is there as soon as
the token refers to anything for some member, and takes in all of an axis along which a corner of
the token passes an edge of the grid inside the group. -/
theorem covers_iff (f : SharedFormula) (sheet : Nat) (links : SheetLinks) (limits : Limits)
    (i : Nat) : f.Covers sheet links limits i ↔
      ∀ t, f.tokens[i]? = some t → (t.observedSheet? sheet links).isSome →
        (∃ m ∈ f.range, (t.rangeIn? f.anchor m limits).isSome) →
          ∃ key, f.observed? sheet links limits i = some key ∧
            ∀ x : Axis, t.WrapsWithin x f.range limits →
              x.coordinate key.range.start = 0 ∧
                x.extent limits ≤ x.coordinate key.range.stop + 1 := by
  rw [covers_iff_forall_token]
  constructor
  · rintro h t ht hs ⟨m, hm, hr⟩
    obtain ⟨s, hs⟩ := Option.isSome_iff_exists.mp hs
    obtain ⟨r, hr⟩ := Option.isSome_iff_exists.mp hr
    obtain ⟨key, hkey, -⟩ := h t ht s hs m hm r hr
    refine ⟨key, hkey, fun x hx => ?_⟩
    have hcovers : ∀ m ∈ f.range, ∀ r, t.rangeIn? f.anchor m limits = some r →
        x.coordinate key.range.start ≤ x.coordinate r.start ∧
          x.coordinate r.stop ≤ x.coordinate key.range.stop := by
      intro m hm r hr
      obtain ⟨_, hkey', -, hsub⟩ := h t ht s hs m hm r hr
      cases hkey.symm.trans hkey'
      exact CellRange.forall_mem_iff.mp hsub x
    obtain ⟨⟨m₀, hm₀, r₀, hr₀, hstart⟩, m₁, hm₁, r₁, hr₁, hstop⟩ := exists_members_of_wrapsWithin hx
    have hlow := (hcovers m₀ hm₀ r₀ hr₀).1
    have hhigh := (hcovers m₁ hm₁ r₁ hr₁).2
    omega
  · intro h t ht s hs m hm r hr
    obtain ⟨key, hkey, hwraps⟩ := h t ht (by simp [hs]) ⟨m, hm, by simp [hr]⟩
    refine ⟨key, hkey, ?_, CellRange.forall_mem_iff.mpr fun x =>
      coordinate_le_of_member hm ht hkey hr (hwraps x)⟩
    obtain ⟨u, first, last, hu, hsheet, -⟩ := FormulaRecord.observed?_eq_some hkey
    obtain rfl := Option.some.inj (ht.symm.trans hu)
    exact Option.some.inj (hsheet.symm.trans hs)

/-- Three cells of the first row that refer to the cell on their left, the first one around the edge
of the grid; and three cells that refer to rows near the end of it, the last one beyond. -/
theorem not_covers_at_edge :
    ¬(mk ⟨0, 0⟩ (.ofCorners ⟨0, 0⟩ ⟨0, 2⟩) [.refN .value (.ofParts 0 (-1) true true)]).Covers
        0 #[] {} 0 ∧
      ¬(mk ⟨0, 0⟩ (.ofCorners ⟨0, 0⟩ ⟨2, 0⟩) [.ref3d .value 0 ⟨65534, 0, true, true⟩]).Covers
        0 #[.span 0 0] {} 0 := by
  constructor
  · intro h
    obtain ⟨key, hkey, -, hmem⟩ := h ⟨0, 1⟩ (by decide) (.ref .value ⟨0, 0, true, true⟩)
      ⟨0, .single ⟨0, 0⟩⟩ (by decide +kernel) (by decide)
    cases (show _ = some ⟨0, .ofCorners ⟨0, 1⟩ ⟨0, 255⟩⟩ by decide +kernel).symm.trans hkey
    exact absurd (hmem ⟨0, 0⟩ (by decide)) (by decide)
  · intro h
    obtain ⟨key, hkey, -⟩ := h ⟨1, 0⟩ (by decide) (.ref3d .value 0 ⟨65535, 0, true, true⟩)
      ⟨0, .single ⟨65535, 0⟩⟩ (by decide) (by decide)
    cases (show _ = none by decide).symm.trans hkey

end SharedFormula

end Spreadsheet
