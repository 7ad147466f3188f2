import Spreadsheet.Proofs.EditComposition

/-!
A deletion of what was inserted before.

If nothing on the sheet has to give way, the deletion takes every coordinate and every interval
back. One thing is lost: that an area did not cover the whole axis. An area from the first row down
to exactly as many rows before the last one as are inserted in it covers all rows afterwards, and
then stands for whole columns, which no edit of rows changes. All else is as it was before.
-/

namespace Spreadsheet

namespace GridEdit

variable {e : GridEdit} {limits : Limits} {links : SheetLinks} {own lo hi i : Nat} {c : Cell}
  {a : AreaAddress} {t : Token}

/-! ### Coordinates and intervals -/

/-- The deletion of what an insertion inserts. -/
def undo (e : GridEdit) : GridEdit := { e with change := .delete }

lemma samePlace_undo (e : GridEdit) : e.SamePlace e.undo := ⟨rfl, rfl, rfl, rfl⟩

lemma Suits.undo (he : e.Suits limits) : e.undo.Suits limits := ⟨he.last_eq, he.rows_lt, he.cols_lt⟩

section
variable (hins : e.change = .insert) (hlast : e.last < maxCoordinate)
include hins hlast

lemma index?_undo (hroom : i + e.count ≤ e.last) :
    e.index? i = some (e.pushed i) ∧ e.undo.index? (e.pushed i) = some i := by
  unfold pushed
  split_ifs with hs
  · exact ⟨index?_of_lt hs, index?_of_lt (e := e.undo) hs⟩
  · refine ⟨by rw [index?_insert hins (by omega), if_pos hroom], ?_⟩
    have hdelete : e.undo.index? (i + e.count) =
        if e.start + e.count ≤ i + e.count then some (i + e.count - e.count) else none :=
      index?_delete (e := e.undo) rfl (show e.start ≤ i + e.count by omega) (by omega)
    rw [hdelete, if_pos (by omega), Nat.add_sub_cancel]

lemma span?_undo (hle : lo ≤ hi) (hroom : hi + e.count ≤ e.last) :
    e.span? lo hi = some (e.pushed lo, e.pushed hi) ∧
      e.undo.span? (e.pushed lo) (e.pushed hi) = some (lo, hi) := by
  have hpushed : e.pushed lo ≤ e.pushed hi ∧ e.pushed hi ≤ e.last := by
    unfold pushed
    split_ifs <;> omega
  constructor
  · rw [span?_insert hins, (index?_undo hins hlast (by omega)).1, Option.map_some,
      Option.some.injEq, Prod.mk.injEq]
    refine ⟨rfl, ?_⟩
    unfold pushed
    split_ifs <;> omega
  · have hdelete : e.undo.span? (e.pushed lo) (e.pushed hi) =
        if e.pushed hi < e.start then some (e.pushed lo, e.pushed hi)
        else if e.start + e.count ≤ e.pushed hi then
          some (if e.pushed lo < e.start then e.pushed lo else max (e.pushed lo - e.count) e.start,
            e.pushed hi - e.count)
        else if e.pushed lo < e.start then some (e.pushed lo, e.start - 1) else none :=
      span?_delete (e := e.undo) rfl hpushed.1 (by omega)
    rw [hdelete]
    unfold pushed
    by_cases hhi : hi < e.start
    · simp only [hhi, show lo < e.start by omega, if_true]
    · rw [if_neg hhi, if_neg (by omega), if_pos (by omega), Option.some.injEq, Prod.mk.injEq]
      exact ⟨by split_ifs <;> omega, by omega⟩

lemma cell?_undo (hroom : e.axis.coordinate c + e.count ≤ e.last) :
    ∃ d, e.cell? c = some d ∧ e.undo.cell? d = some c := by
  obtain ⟨hpush, hback⟩ := index?_undo hins hlast hroom
  have hundo : ∀ d, e.undo.cell? d =
      (e.undo.index? (e.axis.coordinate d)).map (e.axis.withCoordinate d) := fun _ => rfl
  refine ⟨e.axis.withCoordinate c (e.pushed (e.axis.coordinate c)), by rw [cell?, hpush]; rfl, ?_⟩
  rw [hundo, coordinate_withCoordinate, hback, Option.map_some, withCoordinate_withCoordinate,
    withCoordinate_coordinate]

lemma range?_undo {r : CellRange} (hroom : e.axis.coordinate r.stop + e.count ≤ e.last) :
    ∃ r', e.range? r = some r' ∧ e.undo.range? r' = some r ∧
      r'.start = e.axis.withCoordinate r.start (e.pushed (e.axis.coordinate r.start)) ∧
      r'.stop = e.axis.withCoordinate r.stop (e.pushed (e.axis.coordinate r.stop)) := by
  obtain ⟨hpush, hback⟩ := span?_undo hins hlast (coordinate_start_le e.axis r) hroom
  have hundo : ∀ r, e.undo.range? r =
      (e.undo.span? (e.axis.coordinate r.start) (e.axis.coordinate r.stop)).map fun x =>
        .ofCorners (e.axis.withCoordinate r.start x.1) (e.axis.withCoordinate r.stop x.2) :=
    fun r => e.undo.range?_eq_map r
  have hr := e.range?_eq_map r
  rw [hpush, Option.map_some] at hr
  obtain ⟨lo, hi, hspan, hstart, hstop⟩ := range?_eq_some_of_le hlast (by omega) hr
  cases hpush.symm.trans hspan
  refine ⟨_, hr, ?_, hstart, hstop⟩
  rw [hundo, hstart, hstop]
  simp only [coordinate_withCoordinate, hback, Option.map_some, withCoordinate_withCoordinate,
    withCoordinate_coordinate, ofCorners_start_stop]

end

/-! ### Areas -/

/-- The range starts at the edge of the grid, something is inserted into it, and just as much room
is left behind it. -/
def Fills (e : GridEdit) (r : CellRange) : Prop :=
  0 < e.count ∧ e.axis.coordinate r.start = 0 ∧ 0 < e.start ∧ e.start ≤ e.axis.coordinate r.stop ∧
    e.axis.coordinate r.stop + e.count = e.last

instance (e : GridEdit) (r : CellRange) : Decidable (e.Fills r) :=
  inferInstanceAs (Decidable (_ ∧ _))

/-- The area up to the edge of the grid, if the edit takes it there. -/
def filledArea (e : GridEdit) (a : AreaAddress) : AreaAddress :=
  if e.Fills a.range then
    { a with last := a.last.withCell (e.axis.withCoordinate a.last.cell e.last) }
  else a

lemma area?_undo (he : e.Suits limits) (hins : e.change = .insert) (ha : a.Plain limits)
    (hroom : e.spansAxis a.range ∨ e.axis.coordinate a.range.stop + e.count ≤ e.last) :
    (e.area? a).bind e.undo.area? = some (e.filledArea a) := by
  by_cases hspans : e.spansAxis a.range
  · have hfills : ¬e.Fills a.range := by
      rintro ⟨hc, -, -, -, hend⟩
      have hwhole := (spansAxis_iff.mp hspans).2
      omega
    rw [area?_of_spansAxis hspans, Option.bind_some, filledArea, if_neg hfills]
    exact area?_of_spansAxis (e := e.undo) hspans
  replace hroom := hroom.resolve_left hspans
  obtain ⟨r', hr', hback, hstart, hstop⟩ := range?_undo hins he.last_lt hroom
  have hle : e.axis.coordinate a.range.stop ≤ e.last := by omega
  rw [area?_of_not_spansAxis hspans, hr', Option.map_some, Option.bind_some, filledArea]
  by_cases hwhole : e.spansAxis r'
  · -- from here on the deletion does not change the area any more
    obtain ⟨-, hlo, hpos, hinside, hend, -, hlast⟩ :=
      spansAxis_range? he.last_lt hle hspans hr' hwhole
    have hpart := spansAxis_iff.not.mp hspans
    rw [if_pos ⟨by omega, hlo, hpos, hinside, by omega⟩,
      area?_of_spansAxis (by rwa [range_withCells])]
    have hfirst : r'.start = a.first.cell := by
      rw [hstart, hlo, pushed, if_pos hpos, ← hlo, withCoordinate_coordinate, start_range ha]
    have hback : r'.stop = e.axis.withCoordinate a.last.cell e.last := by
      rw [← hlast, hstop, stop_range ha, coordinate_withCoordinate]
    rw [hfirst, hback]
    rfl
  · have hfills : ¬e.Fills a.range := by
      rintro ⟨-, hlo, hpos, hinside, hend⟩
      refine hwhole (spansAxis_iff.mpr ?_)
      rw [hstart, hstop, coordinate_withCoordinate, coordinate_withCoordinate, hlo, pushed,
        if_pos hpos, pushed, if_neg (by omega)]
      exact ⟨rfl, by omega⟩
    rw [if_neg hfills, area?_of_not_spansAxis (by rwa [range_withCells]), range_withCells, hback,
      Option.map_some, start_range ha, stop_range ha]
    rfl

/-! ### Tokens and formulas -/

/-- The insertion pushes nothing off the grid that the token refers to. An area over the whole axis
takes no more room. -/
def RoomFor (e : GridEdit) : Token → Prop
  | .ref _ a | .ref3d _ _ a => e.axis.coordinate a.cell + e.count ≤ e.last
  | .area _ a | .area3d _ _ a =>
    e.spansAxis a.range ∨ e.axis.coordinate a.range.stop + e.count ≤ e.last
  | _ => True

/-- The token with its area up to the edge of the grid, if the edit takes it there. -/
def filledToken (e : GridEdit) : Token → Token
  | .area cls a => .area cls (e.filledArea a)
  | .area3d cls link a => .area3d cls link (e.filledArea a)
  | t => t

lemma moveToken_undo (he : e.Suits limits) (hins : e.change = .insert) (ht : t.Plain limits)
    (hroom : e.RoomFor t) : e.undo.moveToken (e.moveToken t) = e.filledToken t := by
  cases t with
  | ref _ a | ref3d _ _ a =>
    obtain ⟨d, hd, hback⟩ := cell?_undo hins he.last_lt hroom
    have haddress : e.address? a = some (a.withCell d) := by rw [address?, hd]; rfl
    have hundo : e.undo.address? (a.withCell d) = some a := by
      rw [address?, show (a.withCell d).cell = d from rfl, hback]
      rfl
    simp only [moveToken, haddress, hundo, filledToken]
  | area _ a | area3d _ _ a =>
    obtain ⟨a', ha', hback⟩ := Option.bind_eq_some_iff.mp (area?_undo he hins ht hroom)
    simp only [moveToken, ha', hback, filledToken]
  | _ => rfl

/-- An area that comes to cover the axis is found. -/
lemma filledToken_of_not_finds (ht : t.Plain limits) (h : ¬e.finds limits t) :
    e.filledToken t = t := by
  obtain ⟨hwhole, hmeets⟩ := not_or.mp (finds_iff.not.mp h)
  have hfills : ∀ r, t.range? = some r → t.isWholeArea limits = r.isWhole limits → ¬e.Fills r := by
    rintro r hr hsame ⟨-, -, -, hinside, -⟩
    refine hmeets ⟨r, hr, by simpa [hsame] using hwhole, ?_⟩
    by_contra hc
    have := lt_start_of_region (ht.onGrid.holds_stop hr) (by simpa using hc)
    omega
  cases t with
  | area _ a | area3d _ _ a => simp only [filledToken, filledArea, if_neg (hfills _ rfl rfl)]
  | _ => rfl

lemma editToken_undo (he : e.Suits limits) (hins : e.change = .insert) (ht : t.Plain limits)
    (hroom : t.observedSheet? own links = some e.sheet → e.RoomFor t) :
    e.undo.editToken limits links own (e.editToken limits links own t) =
      if t.observedSheet? own links = some e.sheet then e.filledToken t else t := by
  rw [e.samePlace_undo.editToken_editToken he ht.onGrid]
  by_cases hsheet : t.observedSheet? own links = some e.sheet
  · by_cases hfinds : e.finds limits t
    · rw [if_pos ⟨hsheet, hfinds⟩, if_pos hsheet, moveToken_undo he hins ht (hroom hsheet)]
    · rw [if_neg fun h => hfinds h.2, if_pos hsheet, filledToken_of_not_finds ht hfinds]
  · rw [if_neg fun h => hsheet h.1, if_neg hsheet]

/-- A formula comes back to its cell. -/
lemma editRecord_undo {r : FormulaRecord} (he : e.Suits limits) (hins : e.change = .insert)
    (hr : r.Plain limits)
    (hplace : r.sheet = e.sheet → e.axis.coordinate r.position + e.count ≤ e.last)
    (hroom : ∀ t ∈ r.tokens, t.observedSheet? r.sheet links = some e.sheet → e.RoomFor t) :
    (e.editRecord limits links r).bind (e.undo.editRecord limits links) =
      some (r.mapTokens fun _ t =>
        if t.observedSheet? r.sheet links = some e.sheet then e.filledToken t else t) := by
  have htokens : (r.tokens.map (e.editToken limits links r.sheet)).map
      (e.undo.editToken limits links r.sheet) = r.tokens.map fun t =>
        if t.observedSheet? r.sheet links = some e.sheet then e.filledToken t else t := by
    rw [List.map_map]
    exact List.map_congr_left fun t ht => editToken_undo he hins (hr.tokens t ht) (hroom t ht)
  rw [r.mapTokens_map, ← htokens]
  by_cases hsheet : r.sheet = e.sheet
  · obtain ⟨d, hd, hback⟩ := cell?_undo hins he.last_lt (hplace hsheet)
    rw [editRecord_of_eq hsheet, hd, Option.map_some, Option.bind_some]
    refine (editRecord_of_eq (e := e.undo) (by exact hsheet)).trans ?_
    obtain ⟨sheet, body⟩ := r
    have hkind := hr.kind
    cases body <;> simp [FormulaBody.kind] at hkind
    exact congrArg (Option.map _) hback
  · rw [editRecord_of_ne hsheet, Option.bind_some]
    refine (editRecord_of_ne (e := e.undo) (by exact hsheet)).trans ?_
    simp [FormulaRecord.tokens]

lemma moveLinked_undo (he : e.Suits limits) (hins : e.change = .insert)
    (ht : t.link?.isSome → t.Plain limits)
    (hroom : t.link?.bind links.localSheet? = some e.sheet → e.RoomFor t) :
    e.undo.moveLinked links (e.moveLinked links t) =
      if t.link?.bind links.localSheet? = some e.sheet then e.filledToken t else t := by
  refine (moveLinked_moveLinked (show e.undo.sheet = e.sheet from rfl) t).trans ?_
  refine ite_congr rfl (fun hc => ?_) fun _ => rfl
  obtain ⟨link, hl, -⟩ := Option.bind_eq_some_iff.mp hc
  exact moveToken_undo he hins (ht (by simp [hl])) (hroom hc)

lemma observedSheet?_filledToken (e : GridEdit) (own : Nat) (links : SheetLinks) (t : Token) :
    (e.filledToken t).observedSheet? own links = t.observedSheet? own links := by
  cases t <;> rfl

/-- A filled area is one of whole rows or columns. -/
lemma isWhole_filledToken (he : e.Suits limits) (ht : t.Plain limits) (h : e.filledToken t ≠ t) :
    ∃ r, (e.filledToken t).range? = some r ∧ r.isWhole limits := by
  have harea : ∀ a : AreaAddress, a.Plain limits → e.filledArea a ≠ a →
      (e.filledArea a).range.isWhole limits := by
    intro a ha hne
    unfold filledArea at hne ⊢
    split_ifs at hne ⊢ with hfills
    · obtain ⟨-, hlo, -⟩ := hfills
      rw [start_range ha] at hlo
      have hlast := he.last_eq
      simp only [CellRange.isWhole, CellRange.hasAllRows, CellRange.hasAllCols, Bool.or_eq_true,
        Bool.and_eq_true, decide_eq_true_eq]
      cases hax : e.axis <;>
        simp only [hax, AreaAddress.range, CellRange.ofCorners, Address.cell, Address.withCell,
          Axis.coordinate, Axis.withCoordinate, Axis.last, Limits.lastRow, Limits.lastCol]
          at hlo hlast ⊢ <;> omega
    · exact absurd rfl hne
  cases t with
  | area _ a | area3d _ _ a =>
    exact ⟨_, rfl, harea a ht fun hc => h (by simp only [filledToken, hc])⟩
  | _ => exact absurd rfl h

end GridEdit

/-! ### Workbooks -/

/-- If the token is an area, its first corner is the one at the top left. -/
def Token.TopLeftFirst : Token → Prop
  | area _ a | area3d _ _ a => a.first.row ≤ a.last.row ∧ a.first.col ≤ a.last.col
  | _ => True

lemma Token.OnGrid.plain {t : Token} {limits : Limits} (ht : t.OnGrid limits)
    (h : t.TopLeftFirst) : t.Plain limits := by
  cases t with
  | area _ a | area3d _ _ a => exact ⟨ht.holds_last, h.1, h.2⟩
  | _ => exact ht

namespace Workbook

/-- The areas of formulas, and those of names behind links, have their top-left corner first. -/
structure TopLeftFirst (w : Workbook) : Prop where
  formulas : ∀ id r, w.formulas.get? id = some r → ∀ t ∈ r.tokens, t.TopLeftFirst
  names : ∀ n ∈ w.names, ∀ t ∈ n.body, t.link?.isSome → t.TopLeftFirst

/-- The insertion pushes nothing off the grid: no constant, no formula, and no end of what formulas
and names refer to. -/
structure RoomFor (w : Workbook) (e : GridEdit) : Prop where
  constants : ∀ c v, w.constant? ⟨e.sheet, c⟩ = some v → e.axis.coordinate c + e.count ≤ e.last
  formulas : ∀ id r, w.formulas.get? id = some r → r.sheet = e.sheet →
    e.axis.coordinate r.position + e.count ≤ e.last
  tokens : ∀ id r, w.formulas.get? id = some r → ∀ t ∈ r.tokens,
    t.observedSheet? r.sheet w.links = some e.sheet → e.RoomFor t
  names : ∀ n ∈ w.names, ∀ t ∈ n.body, t.link?.bind w.links.localSheet? = some e.sheet → e.RoomFor t

/-- A token of a formula on the sheet `own`, with an area of the edited sheet up to the edge of the
grid if the edit takes it there. -/
def filled (w : Workbook) (e : GridEdit) (own : Nat) (t : Token) : Token :=
  if e.sheet < w.sheets.size ∧ t.observedSheet? own w.links = some e.sheet then e.filledToken t
  else t

/-- A token of a name, likewise. Only a reference through a link can mean the edited sheet. -/
def filledLinked (w : Workbook) (e : GridEdit) (t : Token) : Token :=
  if e.sheet < w.sheets.size ∧ t.link?.bind w.links.localSheet? = some e.sheet then e.filledToken t
  else t

def filledName (w : Workbook) (e : GridEdit) (n : DefinedName) : DefinedName :=
  { n with body := n.body.map (w.filledLinked e) }

/-- The token of a formula is an area that the edit takes up to the edge of the grid. -/
def FillsAt (w : Workbook) (e : GridEdit) (h : Handle) : Prop :=
  ∃ r t, w.formulas.get? h.formula = some r ∧ r.tokens[h.token]? = some t ∧
    w.filled e r.sheet t ≠ t

/-- The workbook `w'` holds what `w` holds, apart from areas that the edit has taken up to the edge
of the grid. Those stand for whole rows or columns, and so are not recorded. -/
structure Restores (w w' : Workbook) (e : GridEdit) : Prop where
  constants : ∀ p, w'.constant? p = w.constant? p
  formulas : ∀ id, w'.formulas.get? id =
    (w.formulas.get? id).map fun r => r.mapTokens fun _ t => w.filled e r.sheet t
  cells : ∀ p, w'.formulas.cellFormula? p = w.formulas.cellFormula? p
  observers : ∀ h, ¬w.FillsAt e h →
    w'.formulas.observers.area? h = w.formulas.observers.area? h
  observers_filled : ∀ h, w.FillsAt e h → w'.formulas.observers.area? h = none
  names : w'.names = w.names.map (w.filledName e)
  sheets : ∀ i, w'.sheetName? i = w.sheetName? i
  links : w'.links = w.links
  linkedNames : w'.linkedNames = w.linkedNames
  settings : w'.settings = w.settings

section
variable {w : Workbook} {e : GridEdit}

lemma Ordinary.plain (hw : w.Ordinary) (hfirst : w.TopLeftFirst) :
    w.formulas.Plain w.limits w.links :=
  ⟨hw.store.agrees, fun id r hr =>
    have h := hw.formulas id r hr
    ⟨h.kind, h.holds, fun t ht => (h.tokens t ht).plain (hfirst.formulas id r hr t ht)⟩⟩

/-- Without a sheet or a count nothing is filled. -/
lemma filled_of_idle (h : e.count = 0 ∨ w.sheets.size ≤ e.sheet) (own : Nat) (t : Token) :
    w.filled e own t = t ∧ w.filledLinked e t = t := by
  have hkeep : e.sheet < w.sheets.size → e.filledToken t = t := by
    intro hs
    have hfills : ∀ r, ¬e.Fills r := fun r hr => by
      have hpos := hr.1
      omega
    cases t <;> simp [GridEdit.filledToken, GridEdit.filledArea, hfills]
  constructor
  · exact ite_eq_right_iff.mpr fun hc => hkeep hc.1
  · exact ite_eq_right_iff.mpr fun hc => hkeep hc.1

/-- A formula comes back to its cell, with its tokens. -/
lemma get?_edit_undo (hw : w.Ordinary) (hfirst : w.TopLeftFirst) (he : e.Suits w.limits)
    (hins : e.change = .insert) (hroom : w.RoomFor e) (hs : e.sheet < w.sheets.size)
    (hc : 1 ≤ e.count) (id : Nat) : ((w.edit e).edit e.undo).formulas.get? id =
      (w.formulas.get? id).map fun r => r.mapTokens fun _ t => w.filled e r.sheet t := by
  have hs' : e.undo.sheet < (w.edit e).sheets.size := by rwa [size_sheets_edit]
  rw [formulas_edit hs' hc, formulas_edit hs hc, links_edit, (hw.store.edit he).get?_edit he.undo,
    hw.store.get?_edit he]
  rcases hr : w.formulas.get? id with _ | r
  · rfl
  rw [Option.bind_some, Option.map_some, GridEdit.editRecord_undo he hins
    ((hw.plain hfirst).records id r hr) (hroom.formulas id r hr) (hroom.tokens id r hr)]
  simp only [filled, hs, true_and]

/-- A constant comes back to its cell. -/
lemma constant?_edit_undo (hw : w.Ordinary) (he : e.Suits w.limits) (hins : e.change = .insert)
    (hroom : w.RoomFor e) (hs : e.sheet < w.sheets.size) (hc : 1 ≤ e.count) (p : Place) :
    ((w.edit e).edit e.undo).constant? p = w.constant? p := by
  have hs' : e.undo.sheet < (w.edit e).sheets.size := by rwa [size_sheets_edit]
  obtain ⟨sheet, q⟩ := p
  by_cases hp : sheet = e.sheet
  swap
  · rw [constant?_edit_of_ne (e := e.undo) hs' hc hp, constant?_edit_of_ne hs hc hp]
  subst hp
  have hone := constant?_edit he hs hc hw.constants
  have htwo : ∀ v, ((w.edit e).edit e.undo).constant? ⟨e.sheet, q⟩ = some v ↔
      ∃ p, e.undo.cell? p = some q ∧ (w.edit e).constant? ⟨e.sheet, p⟩ = some v :=
    constant?_edit (e := e.undo) (limits_edit (w := w) ▸ he.undo) hs' hc
      (fun p v hv => limits_edit (w := w) ▸ holds_constant?_edit he hs hc hw.constants hv) q
  refine Option.ext fun v => ?_
  rw [htwo]
  simp only [hone]
  constructor
  · rintro ⟨d, hd, c, hcd, hv⟩
    obtain ⟨d', hd', hback⟩ := GridEdit.cell?_undo hins he.last_lt (hroom.constants c v hv)
    cases hcd.symm.trans hd'
    cases hd.symm.trans hback
    exact hv
  · intro hv
    obtain ⟨d, hd, hback⟩ := GridEdit.cell?_undo hins he.last_lt (hroom.constants q v hv)
    exact ⟨d, hback, q, hd, hv⟩

/-- A filled area is recorded no longer. -/
lemma due?_of_fillsAt {s : FormulaStore} (hs : s.OnGrid w.limits w.links)
    (hplain : w.formulas.Plain w.limits w.links) (he : e.Suits w.limits)
    (hget : ∀ id, s.get? id =
      (w.formulas.get? id).map fun r => r.mapTokens fun _ t => w.filled e r.sheet t)
    {h : Handle} (hfills : w.FillsAt e h) : s.due? w.links h = none := by
  obtain ⟨r, t, hr, ht, hne⟩ := hfills
  have hr' := hget h.formula
  rw [hr, Option.map_some] at hr'
  have ht' : (r.mapTokens fun _ t => w.filled e r.sheet t).tokens[h.token]? =
      some (w.filled e r.sheet t) := by
    rw [FormulaRecord.tokens_mapTokens, List.getElem?_mapIdx, ht]
    rfl
  unfold filled at hne
  split_ifs at hne with hsheet
  · have hfilled : w.filled e r.sheet t = e.filledToken t := if_pos hsheet
    obtain ⟨range, hrange, hwhole⟩ := GridEdit.isWhole_filledToken he
      ((hplain.records h.formula r hr).tokens t (List.mem_of_getElem? ht)) hne
    have hobs := (hs.records h.formula _ hr').observed? ht'
      (by rw [hfilled, e.observedSheet?_filledToken]; exact hsheet.2)
      (by rw [hfilled]; exact hrange)
    rw [FormulaStore.due?, hr', Option.bind_some, FormulaRecord.due?, hs.agrees.limits_eq, hobs,
      Option.filter_some, if_neg (by simpa using hwhole)]
  · exact absurd rfl hne

/-- What is not filled is recorded as before. -/
lemma due?_of_not_fillsAt {s : FormulaStore} (hlimits : s.limits = w.formulas.limits)
    (hget : ∀ id, s.get? id =
      (w.formulas.get? id).map fun r => r.mapTokens fun _ t => w.filled e r.sheet t)
    {h : Handle} (hfills : ¬w.FillsAt e h) : s.due? w.links h = w.formulas.due? w.links h := by
  unfold FormulaStore.due?
  rw [hget, hlimits]
  rcases hr : w.formulas.get? h.formula with _ | r
  · rfl
  rw [Option.map_some, Option.bind_some, Option.bind_some]
  refine FormulaRecord.due?_mapTokens _ _ (fun t ht => ?_) _ _
  by_contra hne
  exact hfills ⟨r, t, hr, ht, hne⟩

end

/-- **A deletion takes back what an insertion did.** If the insertion pushes nothing off the grid,
all constants, formulas, names and recorded areas are afterwards what they were before, but for
areas from the first row or column to the one behind which there is just as much room as the
insertion inside them takes. Those cover the whole axis afterwards. -/
theorem edit_undone {w : Workbook} (hw : w.Ordinary) (hfirst : w.TopLeftFirst) (sheet : Nat)
    (axis : Axis) (start count : Nat)
    (hroom : w.RoomFor (.ofLimits sheet axis .insert start count w.limits)) :
    w.Restores ((w.edit (.ofLimits sheet axis .insert start count w.limits)).edit
        (.ofLimits sheet axis .delete start count w.limits))
      (.ofLimits sheet axis .insert start count w.limits) := by
  set e := GridEdit.ofLimits sheet axis .insert start count w.limits
  have he : e.Suits w.limits := hw.suits sheet axis .insert start count
  show w.Restores ((w.edit e).edit e.undo) e
  by_cases hidle : e.count = 0 ∨ w.sheets.size ≤ e.sheet
  · have hfilled := filled_of_idle hidle
    have hfills : ∀ h, ¬w.FillsAt e h := fun h ⟨r, t, _, _, hne⟩ => hne (hfilled r.sheet t).1
    have hnames : ∀ n ∈ w.names, w.filledName e n = n := fun n _ => by
      rw [filledName, List.map_congr_left fun t _ => (hfilled 0 t).2, List.map_id']
    rw [edit_of_idle hidle, edit_of_idle (e := e.undo) hidle]
    refine ⟨fun _ => rfl, fun id => ?_, fun _ => rfl, fun _ _ => rfl,
      fun h hh => absurd hh (hfills h), ?_, fun _ => rfl, rfl, rfl, rfl⟩
    · rcases w.formulas.get? id with _ | r
      · rfl
      · rw [Option.map_some, r.mapTokens_id]
        exact fun _ t _ => (hfilled r.sheet t).1
    · rw [Array.map_congr_left hnames, Array.map_id']
  have hs : e.sheet < w.sheets.size := by omega
  have hc : 1 ≤ e.count := by omega
  have hs' : e.undo.sheet < (w.edit e).sheets.size := by rwa [size_sheets_edit]
  have hget := get?_edit_undo hw hfirst he rfl hroom hs hc
  have hstore : ((w.edit e).edit e.undo).formulas.OnGrid w.limits w.links := by
    rw [formulas_edit (e := e.undo) hs' hc, formulas_edit hs hc, links_edit]
    exact (hw.store.edit he).edit he.undo
  refine ⟨constant?_edit_undo hw he rfl hroom hs hc, hget, ?_, fun h hh => ?_, fun h hh => ?_, ?_,
    fun i => ?_, ?_, ?_, ?_⟩
  · refine hw.store.cellFormula?_congr hstore fun id => ?_
    rw [hget, Option.map_map]
    congr 1
    funext r
    simp [FormulaRecord.place]
  · refine (hstore.agrees.agrees h).trans (Eq.trans ?_ (hw.store.agrees.agrees h).symm)
    exact due?_of_not_fillsAt (hstore.agrees.limits_eq.trans hw.store.agrees.limits_eq.symm) hget hh
  · exact (hstore.agrees.agrees h).trans
      (due?_of_fillsAt hstore (hw.plain hfirst) he hget hh)
  · rw [names_edit (e := e.undo) hs' hc, names_edit hs hc, links_edit, Array.map_map]
    refine Array.map_congr_left fun d hd => ?_
    simp only [Function.comp_apply, GridEdit.scanName_eq_map, filledName, List.map_map]
    congr 1
    refine List.map_congr_left fun t ht => (GridEdit.moveLinked_undo he rfl
      (fun hl => (hw.names d hd t ht hl).plain (hfirst.names d hd t ht hl))
      (hroom.names d hd t ht)).trans ?_
    simp only [filledLinked, hs, true_and]
  · simp only [sheetName?_edit]
  · simp only [links_edit]
  · simp only [linkedNames_edit]
  · simp only [settings_edit]

namespace FilledColumn

def column : AreaAddress := ⟨⟨0, 0, true, true⟩, ⟨65534, 0, true, true⟩⟩

def ops : List Operation :=
  [.setValue ⟨0, ⟨7, 0⟩⟩ (.scalar (.bool true)), .setFormula ⟨0, ⟨0, 2⟩⟩ [.area .reference column]]

/-- A formula about all rows of a column but the last one. -/
def book : Workbook := ((empty {}).run [.addSheet "Data"]).run ops

/-- One row is inserted near the start of the column. -/
def insertion : GridEdit := .ofLimits 0 .rows .insert 5 1 book.limits

def deletion : GridEdit := .ofLimits 0 .rows .delete 5 1 book.limits

lemma filledBy_book : book.FilledBy (.addSheet "Data" :: ops) ∧ book.limits = {} :=
  filledBy_run {} (.addSheet "Data" :: ops) (by decide)

lemma ordinary_book : book.Ordinary :=
  ordinary_of_filling (by decide) (by decide) (by decide) (by decide) (by decide) (by decide)

lemma of_get?_book {id : Nat} {r : FormulaRecord} (h : book.formulas.get? id = some r) :
    r = ⟨0, .cell ⟨0, 2⟩ [.area .reference column]⟩ := by
  obtain ⟨p, tokens, hmem, rfl⟩ := filledBy_book.1.formulas id r h
  simp [ops] at hmem
  obtain ⟨rfl, rfl⟩ := hmem
  rfl

lemma names_book : book.names = #[] :=
  names_setValue (w := (empty {}).apply (.addSheet "Data")) ⟨0, ⟨7, 0⟩⟩ (.scalar (.bool true))

lemma topLeftFirst_book : book.TopLeftFirst := by
  refine ⟨fun id r hr t ht => ?_, fun n hn => ?_⟩
  · rw [of_get?_book hr] at ht
    obtain rfl := List.mem_singleton.mp ht
    exact ⟨by decide, by decide⟩
  · simp [names_book] at hn

lemma roomFor_book : book.RoomFor insertion := by
  have hlimits := filledBy_book.2
  refine ⟨fun c v hv => ?_, fun id r hr _ => ?_, fun id r hr t ht _ => ?_, fun n hn => ?_⟩
  · have hmem := filledBy_book.1.constants _ v hv
    simp [ops, insertion, GridEdit.ofLimits] at hmem
    rw [hmem.1, insertion, hlimits]
    decide
  · rw [of_get?_book hr, insertion, hlimits]
    decide
  · rw [of_get?_book hr] at ht
    obtain rfl := List.mem_singleton.mp ht
    rw [insertion, hlimits]
    exact Or.inr (by decide)
  · simp [names_book] at hn

/-- The column is whole afterwards, and so stays when the row is deleted. -/
theorem restores_column : book.Ordinary ∧ book.TopLeftFirst ∧ book.RoomFor insertion ∧
    book.Restores ((book.edit insertion).edit deletion) insertion :=
  ⟨ordinary_book, topLeftFirst_book, roomFor_book,
    edit_undone ordinary_book topLeftFirst_book 0 .rows 5 1 roomFor_book⟩

/-- The formula does not come back as it was. -/
theorem column_not_restored : book.Ordinary ∧ book.TopLeftFirst ∧ book.RoomFor insertion ∧
    ∃ id, ((book.edit insertion).edit deletion).formulas.get? id ≠ book.formulas.get? id := by
  refine ⟨ordinary_book, topLeftFirst_book, roomFor_book, ?_⟩
  set w := ((empty {}).run [.addSheet "Data"]).apply (.setValue ⟨0, ⟨7, 0⟩⟩ (.scalar (.bool true)))
  have hcoherent : w.formulas.Coherent :=
    ((agrees_empty (R := Agreement.sound) (fun _ _ => Or.inl rfl) {}).run_sound
      [.addSheet "Data", .setValue ⟨0, ⟨7, 0⟩⟩ (.scalar (.bool true))]).coherent
  have hr : book.formulas.get? w.formulas.records.size =
      some ⟨0, .cell ⟨0, 2⟩ [.area .reference column]⟩ :=
    ((FormulaStore.put_insert w.links _ hcoherent).get? _).trans (if_pos rfl)
  have hs : insertion.sheet < book.sheets.size := by
    show 0 < (w.sheets.modify 0 _).size
    rw [Array.size_modify]
    rcases sheets_setValue (w := (empty {}).run [.addSheet "Data"]) ⟨0, ⟨7, 0⟩⟩
      (.scalar (.bool true)) with h | h <;> rw [show w.sheets = _ from h] <;> decide
  refine ⟨w.formulas.records.size, fun hsame => ?_⟩
  have hget : ((book.edit insertion).edit deletion).formulas.get? w.formulas.records.size =
      (book.formulas.get? w.formulas.records.size).map fun r =>
        r.mapTokens fun _ t => book.filled insertion r.sheet t :=
    get?_edit_undo ordinary_book topLeftFirst_book (ordinary_book.suits 0 .rows .insert 5 1) rfl
      roomFor_book hs (Nat.le_refl 1) _
  rw [hsame, hr] at hget
  have hfilled : book.filled insertion 0 (.area .reference column) =
      .area .reference ⟨⟨0, 0, true, true⟩, ⟨65535, 0, true, true⟩⟩ := by
    rw [filled, if_pos ⟨hs, rfl⟩, insertion, filledBy_book.2]
    decide
  have htokens := congrArg FormulaRecord.tokens (Option.some.inj hget)
  rw [FormulaRecord.tokens_mapTokens] at htokens
  have hcorner : column = ⟨⟨0, 0, true, true⟩, ⟨65535, 0, true, true⟩⟩ := by
    simpa [FormulaRecord.tokens, FormulaBody.tokens, hfilled] using htokens
  exact absurd hcorner (by decide)

end FilledColumn

end Workbook

end Spreadsheet
