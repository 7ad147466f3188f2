import Mathlib.Data.Int.ModEq
import Spreadsheet.Proofs.GroupObservers

/-!
The formulas of two members of a group, token by token.

Each member has the formula of the group with the relative coordinates worked out for its own cell.
So the formulas of two members differ in relative coordinates only, and there by the distance of
their cells: an offset around the edges of the grid, and a reference into another sheet exactly,
unless it has left the grid for one of the two and is an error there.
-/

namespace Spreadsheet

/-- The signed distance from one cell to another. -/
def Axis.distance (x : Axis) (c c' : Cell) : Int := x.coordinate c' - x.coordinate c

def Address.isRelative (a : Address) : Axis → Bool
  | .rows => a.rowRelative
  | .cols => a.colRelative

def OffsetAddress.isRelative (a : OffsetAddress) : Axis → Bool
  | .rows => a.rowRelative
  | .cols => a.colRelative

/-- What is stored along an axis: the coordinate itself, if it is absolute. -/
def OffsetAddress.field (a : OffsetAddress) : Axis → Nat
  | .rows => a.row.toNat
  | .cols => a.col.toNat

/-- An address with the marks and the absolute coordinates of an offset. -/
def OffsetAddress.Fits (a : OffsetAddress) (b : Address) : Prop :=
  ∀ x, b.isRelative x = a.isRelative x ∧
    (a.isRelative x = false → x.coordinate b.cell = a.field x)

namespace Address

/-- The same address but for its relative coordinates, which lie on the grid and are as far apart
as two cells, counted around the edges. -/
def ApartAround (c c' : Cell) (limits : Limits) (a b : Address) : Prop :=
  ∀ x, b.isRelative x = a.isRelative x ∧
    if a.isRelative x then
      x.coordinate a.cell < x.extent limits ∧ x.coordinate b.cell < x.extent limits ∧
        (x.coordinate b.cell - x.coordinate a.cell : Int) ≡ x.distance c c' [ZMOD x.extent limits]
    else x.coordinate b.cell = x.coordinate a.cell

/-- The same address but for its relative coordinates, which are exactly as far apart as two
cells. -/
def ApartBy (c c' : Cell) (a b : Address) : Prop :=
  ∀ x, b.isRelative x = a.isRelative x ∧
    (x.coordinate b.cell - x.coordinate a.cell : Int) =
      if a.isRelative x then x.distance c c' else 0

/-- On the way from the anchor to a cell, a relative coordinate leaves the grid. -/
def LeavesGrid (anchor c : Cell) (limits : Limits) (a : Address) : Prop :=
  ∃ x, a.isRelative x ∧
    ¬(0 ≤ x.coordinate a.cell + x.distance anchor c ∧
      x.coordinate a.cell + x.distance anchor c < x.extent limits)

end Address

namespace Token

/-- The token reads otherwise in the members of a group than in its formula. -/
def isBound : Token → Bool
  | refN .. | areaN .. | ref3d .. | area3d .. => true
  | _ => false

/-- What a token of the group's formula is in the member at `c`. -/
inductive Member (anchor c : Cell) (limits : Limits) : Token → Token → Prop
  | same {t} : t.isBound = false → Member anchor c limits t t
  | ref {cls a b} : a.Fits b → Member anchor c limits (.refN cls a) (.ref cls b)
  | area {cls a b} : a.first.Fits b.first → a.last.Fits b.last →
    Member anchor c limits (.areaN cls a) (.area cls b)
  | ref3d {cls link a b} : ¬a.LeavesGrid anchor c limits → a.ApartBy anchor c b →
    Member anchor c limits (.ref3d cls link a) (.ref3d cls link b)
  | refErr3d {cls link a raw} : a.LeavesGrid anchor c limits →
    Member anchor c limits (.ref3d cls link a) (.refErr3d cls link raw)
  | area3d {cls link a b} :
    ¬(a.first.LeavesGrid anchor c limits ∨ a.last.LeavesGrid anchor c limits) →
    a.first.ApartBy anchor c b.first → a.last.ApartBy anchor c b.last →
    Member anchor c limits (.area3d cls link a) (.area3d cls link b)
  | areaErr3d {cls link a raw} :
    a.first.LeavesGrid anchor c limits ∨ a.last.LeavesGrid anchor c limits →
    Member anchor c limits (.area3d cls link a) (.areaErr3d cls link raw)

/-- How far apart two members' tokens are that come from one token of the group's formula. Where
one of them is an error there is nothing to compare. -/
def Apart (c c' : Cell) (limits : Limits) : Token → Token → Token → Prop
  | refN .., ref _ a, ref _ b => a.ApartAround c c' limits b
  | areaN .., area _ a, area _ b =>
    a.first.ApartAround c c' limits b.first ∧ a.last.ApartAround c c' limits b.last
  | ref3d .., ref3d _ _ a, ref3d _ _ b => a.ApartBy c c' b
  | area3d .., area3d _ _ a, area3d _ _ b =>
    a.first.ApartBy c c' b.first ∧ a.last.ApartBy c c' b.last
  | _, _, _ => True

end Token

variable {anchor c c' : Cell} {limits : Limits}

lemma Limits.Holds.extent_pos (h : limits.Holds c) (x : Axis) : 0 < x.extent limits := by
  obtain ⟨hrow, hcol⟩ := h
  cases x with
  | rows => exact Nat.zero_lt_of_lt hrow
  | cols => exact Nat.zero_lt_of_lt hcol

/-! ### Offsets -/

namespace OffsetAddress

lemma coe_wrap {extent : Nat} (hpos : 0 < extent) (n : Nat) (d : Int) :
    (wrap n d extent : Int) = (n + d) % extent :=
  Int.toNat_of_nonneg (Int.emod_nonneg _ (by omega))

lemma wrap_lt {extent : Nat} (hpos : 0 < extent) (n : Nat) (d : Int) :
    wrap n d extent < extent := by
  have hlt : ((n : Int) + d) % extent < extent := Int.emod_lt_of_pos _ (by omega)
  rw [← coe_wrap hpos] at hlt
  omega

lemma wrap_sub_wrap {extent : Nat} (hpos : 0 < extent) (n n' : Nat) (d : Int) :
    (wrap n' d extent - wrap n d extent : Int) ≡ n' - n [ZMOD extent] := by
  rw [coe_wrap hpos, coe_wrap hpos]
  calc ((n' + d) % extent - (n + d) % extent : Int)
      ≡ (n' + d) - (n + d) [ZMOD extent] := (Int.mod_modEq _ _).sub (Int.mod_modEq _ _)
    _ = n' - n := by omega

variable (a : OffsetAddress)

lemma isRelative_resolve (x : Axis) : (a.resolve c limits).isRelative x = a.isRelative x := by
  cases x <;> rfl

/-- A relative coordinate is found at some distance from the cell. -/
lemma exists_wrap (limits : Limits) {x : Axis} (h : a.isRelative x = true) : ∃ d : Int, ∀ c,
    x.coordinate (a.resolve c limits).cell = wrap (x.coordinate c) d (x.extent limits) := by
  cases x with
  | rows =>
    have hoffset : a.rowOffset? = some (Int.bmod a.row.toNat 65536) := if_pos h
    refine ⟨Int.bmod a.row.toNat 65536, fun c => ?_⟩
    simp only [resolve, hoffset, Axis.coordinate, Axis.extent, Address.cell]
  | cols =>
    have hoffset : a.colOffset? = some (Int.bmod a.col.toNat 256) := if_pos h
    refine ⟨Int.bmod a.col.toNat 256, fun c => ?_⟩
    simp only [resolve, hoffset, Axis.coordinate, Axis.extent, Address.cell]

lemma coordinate_resolve_of_absolute {x : Axis} (h : a.isRelative x = false) (c : Cell) :
    x.coordinate (a.resolve c limits).cell = a.field x := by
  have habsolute : ¬a.isRelative x = true := by rw [h]; exact Bool.false_ne_true
  cases x with
  | rows =>
    have hoffset : a.rowOffset? = none := if_neg habsolute
    simp only [resolve, hoffset]
    rfl
  | cols =>
    have hoffset : a.colOffset? = none := if_neg habsolute
    simp only [resolve, hoffset]
    rfl

lemma fits_resolve (c : Cell) (limits : Limits) : a.Fits (a.resolve c limits) := fun x =>
  ⟨a.isRelative_resolve x, fun h => a.coordinate_resolve_of_absolute h c⟩

lemma apartAround_resolve (hpos : ∀ x : Axis, 0 < x.extent limits) (c c' : Cell) :
    (a.resolve c limits).ApartAround c c' limits (a.resolve c' limits) := by
  intro x
  refine ⟨by rw [isRelative_resolve, isRelative_resolve], ?_⟩
  rw [isRelative_resolve]
  split_ifs with h
  · obtain ⟨d, hd⟩ := a.exists_wrap limits h
    rw [hd, hd]
    exact ⟨wrap_lt (hpos x) _ d, wrap_lt (hpos x) _ d, wrap_sub_wrap (hpos x) _ _ d⟩
  · have habsolute : a.isRelative x = false := by simpa using h
    rw [a.coordinate_resolve_of_absolute habsolute, a.coordinate_resolve_of_absolute habsolute]

end OffsetAddress

/-! ### References into other sheets -/

namespace Address

variable {a b b' : Address}

lemma coordinate_of_relative {x : Axis} (h : a.isRelative x = true) :
    a.coordinate x = .anchored (x.coordinate a.cell) := by
  cases x <;> exact if_pos h

lemma coordinate_of_absolute {x : Axis} (h : a.isRelative x = false) :
    a.coordinate x = .fixed (x.coordinate a.cell) := by
  have habsolute : ¬a.isRelative x = true := by rw [h]; exact Bool.false_ne_true
  cases x <;> exact if_neg habsolute

/-- A coordinate is missing for a cell if it is relative and has left the grid. -/
lemma at?_coordinate_eq_none_iff (x : Axis) :
    (a.coordinate x).at? (x.coordinate anchor) (x.coordinate c) (x.extent limits) = none ↔
      a.isRelative x ∧ ¬(0 ≤ x.coordinate a.cell + x.distance anchor c ∧
        x.coordinate a.cell + x.distance anchor c < x.extent limits) := by
  cases h : a.isRelative x
  · simp [coordinate_of_absolute h, Coordinate.at?]
  · simp only [coordinate_of_relative h, Coordinate.at?, shiftWithin, Axis.distance, true_and]
    simp

lemma shiftRelative?_eq_none_iff :
    a.shiftRelative? (c.row - anchor.row) (c.col - anchor.col) limits = none ↔
      a.LeavesGrid anchor c limits := by
  have hleaves : a.LeavesGrid anchor c limits ↔ ∃ x : Axis, (a.coordinate x).at?
      (x.coordinate anchor) (x.coordinate c) (x.extent limits) = none :=
    exists_congr fun x => (at?_coordinate_eq_none_iff x).symm
  rw [hleaves, shiftRelative?_eq]
  constructor
  · intro h
    rcases hrow : (a.coordinate .rows).at? anchor.row c.row limits.maxRows with _ | row
    · exact ⟨.rows, hrow⟩
    · rw [hrow, Option.bind_some] at h
      exact ⟨.cols, Option.eq_none_iff_forall_not_mem.mpr fun col hcol => by
        have hcol' : (a.coordinate .cols).at? anchor.col c.col limits.maxCols = some col := hcol
        simp [hcol'] at h⟩
  · rintro ⟨x, hx⟩
    cases x with
    | rows =>
      have hrow : (a.coordinate .rows).at? anchor.row c.row limits.maxRows = none := hx
      rw [hrow, Option.bind_none]
    | cols =>
      have hcol : (a.coordinate .cols).at? anchor.col c.col limits.maxCols = none := hx
      simp [hcol]

lemma not_leavesGrid_of_shiftRelative?
    (h : a.shiftRelative? (c.row - anchor.row) (c.col - anchor.col) limits = some b) :
    ¬a.LeavesGrid anchor c limits := by
  rw [← shiftRelative?_eq_none_iff, h]
  exact Option.some_ne_none b

lemma apartBy_of_shiftRelative?
    (h : a.shiftRelative? (c.row - anchor.row) (c.col - anchor.col) limits = some b) :
    a.ApartBy anchor c b := by
  intro x
  have hcoordinate := at?_coordinate h x
  constructor
  · rw [shiftRelative?_eq] at h
    obtain ⟨row, -, h⟩ := Option.bind_eq_some_iff.mp h
    obtain ⟨col, -, h⟩ := Option.bind_eq_some_iff.mp h
    cases h
    cases x <;> rfl
  · cases hx : a.isRelative x
    · rw [coordinate_of_absolute hx] at hcoordinate
      have heq : x.coordinate a.cell = x.coordinate b.cell := Option.some.inj hcoordinate
      rw [heq, Int.sub_self]
      rfl
    · rw [coordinate_of_relative hx] at hcoordinate
      simp only [Coordinate.at?, shiftWithin, Option.ite_none_right_eq_some,
        Option.some.injEq] at hcoordinate
      simp only [if_true, Axis.distance]
      omega

lemma ApartBy.eq (h : a.ApartBy c c b) : b = a := by
  have hself : ∀ x : Axis, x.distance c c = 0 := fun x => Int.sub_self _
  obtain ⟨hrowMark, hrow⟩ := h .rows
  obtain ⟨hcolMark, hcol⟩ := h .cols
  rw [hself, ite_self] at hrow hcol
  have hrow' : b.row = a.row := by exact_mod_cast Int.sub_eq_zero.mp hrow
  have hcol' : b.col = a.col := by exact_mod_cast Int.sub_eq_zero.mp hcol
  obtain ⟨_, _, _, _⟩ := a
  obtain ⟨_, _, _, _⟩ := b
  exact Address.mk.injEq .. ▸ ⟨hrow', hcol', hrowMark, hcolMark⟩

/-- Two moves of one address are as far apart as the cells they lead to. -/
lemma ApartBy.apartBy (h : a.ApartBy anchor c b) (h' : a.ApartBy anchor c' b') :
    b.ApartBy c c' b' := by
  intro x
  obtain ⟨hmark, hcoordinate⟩ := h x
  obtain ⟨hmark', hcoordinate'⟩ := h' x
  refine ⟨hmark'.trans hmark.symm, ?_⟩
  rw [hmark]
  unfold Axis.distance at hcoordinate hcoordinate' ⊢
  split_ifs at hcoordinate hcoordinate' ⊢ <;> omega

end Address

/-! ### Formulas -/

namespace Token

lemma bindTo_ref3d {cls : TokenClass} {link : UInt16} {a b : Address}
    (h : a.shiftRelative? (c.row - anchor.row) (c.col - anchor.col) limits = some b) :
    (ref3d cls link a).bindTo anchor c limits = ref3d cls link b := by
  simp only [bindTo, bindTo.dRow, bindTo.dCol, h]

lemma bindTo_area3d {cls : TokenClass} {link : UInt16} {a b : AreaAddress}
    (h : a.shiftRelative? (c.row - anchor.row) (c.col - anchor.col) limits = some b) :
    (area3d cls link a).bindTo anchor c limits = area3d cls link b := by
  simp only [bindTo, bindTo.dRow, bindTo.dCol, h]

lemma member_bindTo (anchor c : Cell) (limits : Limits) (t : Token) :
    t.Member anchor c limits (t.bindTo anchor c limits) := by
  cases t with
  | refN cls a => exact .ref (a.fits_resolve c limits)
  | areaN cls a => exact .area (a.first.fits_resolve c limits) (a.last.fits_resolve c limits)
  | ref3d cls link a =>
    simp only [bindTo, bindTo.dRow, bindTo.dCol]
    rcases h : a.shiftRelative? (c.row - anchor.row) (c.col - anchor.col) limits with _ | b
    · exact .refErr3d (Address.shiftRelative?_eq_none_iff.mp h)
    · exact .ref3d (Address.not_leavesGrid_of_shiftRelative? h)
        (Address.apartBy_of_shiftRelative? h)
  | area3d cls link a =>
    simp only [bindTo, bindTo.dRow, bindTo.dCol, AreaAddress.shiftRelative?]
    rcases hfirst : a.first.shiftRelative? (c.row - anchor.row) (c.col - anchor.col) limits
      with _ | first
    · exact .areaErr3d (Or.inl (Address.shiftRelative?_eq_none_iff.mp hfirst))
    rcases hlast : a.last.shiftRelative? (c.row - anchor.row) (c.col - anchor.col) limits
      with _ | last
    · exact .areaErr3d (Or.inr (Address.shiftRelative?_eq_none_iff.mp hlast))
    · have hstays := not_or.mpr ⟨Address.not_leavesGrid_of_shiftRelative? hfirst,
        Address.not_leavesGrid_of_shiftRelative? hlast⟩
      exact .area3d hstays (Address.apartBy_of_shiftRelative? hfirst)
        (Address.apartBy_of_shiftRelative? hlast)
  | _ => exact .same rfl

/-- What two members have for a token is as far apart as they are. -/
lemma apart_bindTo (hpos : ∀ x : Axis, 0 < x.extent limits) (anchor c c' : Cell) (t : Token) :
    t.Apart c c' limits (t.bindTo anchor c limits) (t.bindTo anchor c' limits) := by
  have hmember := t.member_bindTo anchor c limits
  have hmember' := t.member_bindTo anchor c' limits
  cases t with
  | refN cls a => exact a.apartAround_resolve hpos c c'
  | areaN cls a =>
    exact ⟨a.first.apartAround_resolve hpos c c', a.last.apartAround_resolve hpos c c'⟩
  | ref3d cls link a =>
    generalize bindTo anchor c limits (ref3d cls link a) = t at hmember
    generalize bindTo anchor c' limits (ref3d cls link a) = t' at hmember'
    cases hmember with
    | same hbound => cases hbound
    | refErr3d => trivial
    | ref3d _ h =>
      cases hmember' with
      | same hbound => cases hbound
      | refErr3d => trivial
      | ref3d _ h' => exact h.apartBy h'
  | area3d cls link a =>
    generalize bindTo anchor c limits (area3d cls link a) = t at hmember
    generalize bindTo anchor c' limits (area3d cls link a) = t' at hmember'
    cases hmember with
    | same hbound => cases hbound
    | areaErr3d => trivial
    | area3d _ h hlast =>
      cases hmember' with
      | same hbound => cases hbound
      | areaErr3d => trivial
      | area3d _ h' hlast' => exact ⟨h.apartBy h', hlast.apartBy hlast'⟩
  | _ => trivial

end Token

/-- **Two members of a group differ by their distance.** Their formulas are as long as the formula
of the group, each token is what the token of the group is for the member, and what two members have
for the same token is as far apart as their cells. For this the grid must have cells at all. -/
theorem bindShared_members (body : List Token) (anchor c' : Cell) (h : limits.Holds c) :
    (bindShared body anchor c limits).length = body.length ∧
      (bindShared body anchor c' limits).length = body.length ∧
      ∀ (i : Nat) (t : Token), body[i]? = some t →
        ∃ u u', (bindShared body anchor c limits)[i]? = some u ∧
          (bindShared body anchor c' limits)[i]? = some u' ∧ t.Member anchor c limits u ∧
          t.Member anchor c' limits u' ∧ t.Apart c c' limits u u' := by
  refine ⟨List.length_map _, List.length_map _, fun i t ht => ?_⟩
  have hget : ∀ m, (bindShared body anchor m limits)[i]? = some (t.bindTo anchor m limits) := by
    intro m
    rw [bindShared, List.getElem?_map, ht]
    rfl
  exact ⟨_, _, hget c, hget c', t.member_bindTo anchor c limits, t.member_bindTo anchor c' limits,
    t.apart_bindTo h.extent_pos anchor c c'⟩

/-- A reference to the last row of another sheet, seen from the first row, has left the grid in the
second one, while an offset of one row up comes around to the last row in the first. -/
theorem bindShared_members_edge :
    let body : List Token := [.refN .value ⟨65535, 0, true, true⟩, .unary .minus,
      .ref3d .value 2 ⟨65535, 3, true, false⟩]
    Limits.Holds {} ⟨0, 0⟩ ∧
      ((bindShared body ⟨0, 0⟩ ⟨0, 0⟩ {}).length = body.length ∧
        (bindShared body ⟨0, 0⟩ ⟨1, 0⟩ {}).length = body.length ∧
        ∀ (i : Nat) (t : Token), body[i]? = some t →
          ∃ u u', (bindShared body ⟨0, 0⟩ ⟨0, 0⟩ {})[i]? = some u ∧
            (bindShared body ⟨0, 0⟩ ⟨1, 0⟩ {})[i]? = some u' ∧ t.Member ⟨0, 0⟩ ⟨0, 0⟩ {} u ∧
            t.Member ⟨0, 0⟩ ⟨1, 0⟩ {} u' ∧ t.Apart ⟨0, 0⟩ ⟨1, 0⟩ {} u u') := by
  have hcorner : Limits.Holds {} ⟨0, 0⟩ := by decide
  exact ⟨hcorner, bindShared_members _ ⟨0, 0⟩ ⟨1, 0⟩ hcorner⟩

example : bindShared [.refN .value ⟨65535, 0, true, true⟩, .ref3d .value 2 ⟨65535, 3, true, false⟩]
    ⟨0, 0⟩ ⟨1, 0⟩ {} = [.ref .value ⟨0, 0, true, true⟩, .refErr3d .value 2 (.replicate 4 0)] := by
  decide +kernel

end Spreadsheet
