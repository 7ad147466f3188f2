import Spreadsheet.Proofs.GridEdit
import Spreadsheet.Proofs.LateLink

/-!
What an edit makes of the tokens of the stored formulas.

The edit asks the observers for tokens that meet the moved region and then looks for areas of whole
rows and columns. Each token that one of the two searches finds gets its new form once: an area that
comes to take in a whole axis is not changed a second time.

A scan looks at every token once. If areas have their top-left corner first and the grid has more
than one row and column, the two agree: what neither search finds stays before the edited place.
-/

namespace Spreadsheet

/-! ### What plain tokens observe -/

lemma Address.shiftRelative?_zero {a : Address} {limits : Limits} (h : limits.Holds a.cell) :
    a.shiftRelative? 0 0 limits = some a := by
  obtain ⟨hrow, hcol⟩ := h
  have hwithin : ∀ i extent, i < extent → shiftWithin i 0 extent = some i := by
    intro i extent hi
    unfold shiftWithin
    simp [hi]
  unfold shiftRelative?
  rw [hwithin a.row _ hrow, hwithin a.col _ hcol]
  obtain ⟨row, col, rowRelative, colRelative⟩ := a
  cases rowRelative <;> cases colRelative <;> rfl

lemma AreaAddress.shiftRelative?_zero {a : AreaAddress} {limits : Limits} (h : a.OnGrid limits) :
    a.shiftRelative? 0 0 limits = some a := by
  unfold shiftRelative?
  rw [Address.shiftRelative?_zero h.holds_first, Address.shiftRelative?_zero h.holds_last]
  rfl

/-- In the cell of its formula a token means what it says. -/
lemma Token.rangeIn?_self {t : Token} {limits : Limits} {r : CellRange} (ht : t.OnGrid limits)
    (hr : t.range? = some r) (c : Cell) : t.rangeIn? c c limits = some r := by
  cases t <;> simp only [range?, Option.some.injEq, reduceCtorEq] at hr <;> subst hr
  case ref => rfl
  case area => rfl
  case ref3d =>
    simp only [rangeIn?, rangeIn?.dRow, rangeIn?.dCol, Int.sub_self]
    rw [Address.shiftRelative?_zero ht]
    rfl
  case area3d =>
    simp only [rangeIn?, rangeIn?.dRow, rangeIn?.dCol, Int.sub_self]
    rw [AreaAddress.shiftRelative?_zero ht]
    rfl

/-- The formula of one cell, with its cell and all its tokens on the grid. -/
structure FormulaRecord.OnGrid (limits : Limits) (r : FormulaRecord) : Prop where
  kind : r.body.kind = .cell
  holds : limits.Holds r.position
  tokens : ∀ t ∈ r.tokens, t.OnGrid limits

/-- The formula of one cell on the grid, with plain tokens. -/
structure FormulaRecord.Plain (limits : Limits) (r : FormulaRecord) : Prop where
  kind : r.body.kind = .cell
  holds : limits.Holds r.position
  tokens : ∀ t ∈ r.tokens, t.Plain limits

lemma FormulaRecord.Plain.onGrid {r : FormulaRecord} {limits : Limits} (h : r.Plain limits) :
    r.OnGrid limits :=
  ⟨h.kind, h.holds, fun t ht => (h.tokens t ht).onGrid⟩

lemma FormulaRecord.OnGrid.members {r : FormulaRecord} {limits : Limits} (h : r.OnGrid limits) :
    r.body.members = .single r.position := by
  obtain ⟨sheet, body⟩ := r
  have hkind := h.kind
  cases body <;> simp [FormulaBody.kind] at hkind
  rfl

lemma CellRange.bounding_self (r : CellRange) : r.bounding r = r := by
  simp [bounding]

lemma FormulaRecord.OnGrid.observed? {r : FormulaRecord} {limits : Limits} {links : SheetLinks}
    {i sheet : Nat} {t : Token} {range : CellRange} (h : r.OnGrid limits)
    (ht : r.tokens[i]? = some t)
    (hsheet : t.observedSheet? r.sheet links = some sheet) (hrange : t.range? = some range) :
    r.observed? links limits i = some ⟨sheet, range⟩ := by
  have hgrid := h.tokens t (List.mem_of_getElem? ht)
  unfold FormulaRecord.observed?
  rw [ht, h.members]
  simp [CellRange.single, hsheet, Token.rangeIn?_self hgrid hrange, CellRange.bounding_self]

/-! ### Tokens -/

namespace GridEdit

/-- What the scan makes of a token of a formula on the sheet `own`. -/
def scanToken (e : GridEdit) (links : SheetLinks) (own : Nat) (t : Token) : Token :=
  if t.observedSheet? own links = some e.sheet then e.moveToken t else t

/-- A token that refers to the edited sheet is found: it is an area of whole rows or columns, or it
is recorded with cells that the edit may move. -/
def finds (e : GridEdit) (limits : Limits) (t : Token) : Bool :=
  t.isWholeArea limits ||
    t.range?.any fun r => !r.isWhole limits && (r.intersect? (e.region limits)).isSome

/-- What the edit makes of a token of a formula on the sheet `own`. -/
def editToken (e : GridEdit) (limits : Limits) (links : SheetLinks) (own : Nat) (t : Token) :
    Token :=
  if t.observedSheet? own links = some e.sheet ∧ e.finds limits t then e.moveToken t else t

variable {e : GridEdit} {limits : Limits} {links : SheetLinks} {own : Nat} {t : Token}

lemma finds_iff : e.finds limits t ↔ t.isWholeArea limits ∨
    ∃ r, t.range? = some r ∧ r.isWhole limits = false ∧
      (r.intersect? (e.region limits)).isSome := by
  simp [finds, Option.any_eq_true]

lemma isWhole_of_isWholeArea {r : CellRange} (h : t.isWholeArea limits)
    (hr : t.range? = some r) : r.isWhole limits := by
  cases t <;> simp only [Token.range?, Option.some.injEq, reduceCtorEq] at hr <;> subst hr
  case ref | ref3d => cases h
  case area | area3d => exact h

/-- What is not found stays before the edited place. -/
lemma moveToken_of_not_finds (he : e.Fits limits) (ht : t.Plain limits) (h : ¬e.finds limits t) :
    e.moveToken t = t := by
  rcases hrange : t.range? with _ | r
  · exact moveToken_of_range?_eq_none hrange
  obtain ⟨hwhole, hmeets⟩ := not_or.mp (finds_iff.not.mp h)
  have hkeep : r.isWhole limits = false :=
    (isWhole_eq_isWholeArea he.fit hrange).trans (by simpa using hwhole)
  refine moveToken_of_lt ht hrange (lt_start_of_region (ht.onGrid.holds_stop hrange) ?_)
  by_contra hc
  exact hmeets ⟨r, hrange, hkeep, Bool.of_not_eq_false hc⟩

lemma editToken_eq_scanToken (he : e.Fits limits) (ht : t.Plain limits) :
    e.editToken limits links own t = e.scanToken links own t := by
  unfold editToken scanToken
  split_ifs with hfound hsheet hsheet
  · rfl
  · exact absurd hfound.1 hsheet
  · exact (moveToken_of_not_finds he ht fun h => hfound ⟨hsheet, h⟩).symm
  · rfl

end GridEdit

namespace FormulaStore

/-- What the edit makes of a token that it finds through the observers. -/
def observedRule (links : SheetLinks) (e : GridEdit) (own : Nat) (t : Token) : Option Token :=
  if t.observedSheet? own links = some e.sheet then e.movedToken? t else none

/-- What the edit makes of a token that it finds by looking at all formulas. -/
def wholeRule (limits : Limits) (links : SheetLinks) (e : GridEdit) (own : Nat) (t : Token) :
    Option Token :=
  if t.isWholeArea limits ∧ t.observedSheet? own links = some e.sheet then e.movedToken? t else none

variable {s : FormulaStore} {links : SheetLinks} {limits : Limits} {e : GridEdit}

lemma replaced_moveObserved (hs : s.Coherent) (links : SheetLinks) (e : GridEdit) :
    Replaced s (s.moveObserved links e) (observedRule links e)
      (· ∈ s.observers.overlapping ⟨e.sheet, e.region s.limits⟩) :=
  replaced_foldl hs links (observedRule links e) (s.observers.nodup_overlapping _)

lemma mem_movedWholeAreas {h : Handle} {t : Token} : (h, t) ∈ s.movedWholeAreas links e ↔
    s.replacement? (wholeRule s.limits links e) h = some t := by
  unfold movedWholeAreas replacement? wholeRule
  simp only [List.mem_flatMap, List.mem_filterMap, Prod.exists, mem_toList,
    List.mem_zipIdx_iff_getElem?, Option.bind_eq_some_iff, Option.ite_none_right_eq_some]
  constructor
  · rintro ⟨id, r, hr, u, i, hu, hc, hm⟩
    obtain ⟨t', ht', heq⟩ := Option.map_eq_some_iff.mp hm
    cases heq
    exact ⟨r, hr, u, hu, hc, ht'⟩
  · rintro ⟨r, hr, u, hu, hc, ht⟩
    exact ⟨h.formula, r, hr, u, h.token, hu, hc, by rw [ht]; rfl⟩

lemma nodup_movedWholeAreas (s : FormulaStore) (links : SheetLinks) (e : GridEdit) :
    ((s.movedWholeAreas links e).map Prod.fst).Nodup := by
  refine List.pairwise_map.mpr (List.pairwise_flatMap.mpr ⟨fun x _ => ?_, ?_⟩)
  · have hindices : x.2.tokens.zipIdx.Pairwise fun y z => y.2 < z.2 := by
      rw [← List.pairwise_map (f := Prod.snd) (R := (· < ·)), List.zipIdx_map_snd]
      exact List.pairwise_lt_range'
    refine hindices.filterMap _ ?_
    rintro ⟨t, i⟩ ⟨t', i'⟩ hlt y hy z hz he
    obtain ⟨-, hy⟩ := Option.ite_none_right_eq_some.mp hy
    obtain ⟨-, hz⟩ := Option.ite_none_right_eq_some.mp hz
    obtain ⟨_, -, rfl⟩ := Option.map_eq_some_iff.mp hy
    obtain ⟨_, -, rfl⟩ := Option.map_eq_some_iff.mp hz
    exact Nat.ne_of_lt hlt (congrArg Handle.token he)
  · refine s.pairwise_toList.imp ?_
    rintro ⟨id, r⟩ ⟨id', r'⟩ hlt y hy z hz he
    obtain ⟨⟨_, _⟩, -, hy⟩ := List.mem_filterMap.mp hy
    obtain ⟨⟨_, _⟩, -, hz⟩ := List.mem_filterMap.mp hz
    obtain ⟨-, hy⟩ := Option.ite_none_right_eq_some.mp hy
    obtain ⟨-, hz⟩ := Option.ite_none_right_eq_some.mp hz
    obtain ⟨_, -, rfl⟩ := Option.map_eq_some_iff.mp hy
    obtain ⟨_, -, rfl⟩ := Option.map_eq_some_iff.mp hz
    exact Nat.ne_of_lt hlt (congrArg Handle.formula he)

lemma observedRule_getD (own : Nat) (t : Token) :
    (observedRule links e own t).getD t = e.scanToken links own t := by
  unfold observedRule GridEdit.scanToken
  split_ifs
  · exact e.movedToken?_getD t
  · rfl

lemma wholeRule_getD (own : Nat) (t : Token) : (wholeRule limits links e own t).getD t =
    if t.isWholeArea limits then e.scanToken links own t else t := by
  unfold wholeRule GridEdit.scanToken
  by_cases hwhole : t.isWholeArea limits = true
  · by_cases hsheet : t.observedSheet? own links = some e.sheet
    · simp only [hwhole, hsheet, and_self, if_true]
      exact e.movedToken?_getD t
    · simp [hsheet]
  · simp [hwhole]

lemma replaced_moveWholeAreas (hs : s.Coherent) (links : SheetLinks) (e : GridEdit) :
    Replaced s (s.moveWholeAreas links e) (wholeRule s.limits links e)
      (· ∈ (s.movedWholeAreas links e).map Prod.fst) := by
  have heq : s.moveWholeAreas links e =
      ((s.movedWholeAreas links e).map Prod.fst).foldl
        (replaceBy links (wholeRule s.limits links e)) s :=
    foldl_replaceToken hs (s.nodup_movedWholeAreas links e) fun _ hx => mem_movedWholeAreas.mp hx
  rw [heq]
  exact replaced_foldl hs links _ (s.nodup_movedWholeAreas links e)

lemma get?_moveWholeAreas (hs : s.Coherent) (links : SheetLinks) (e : GridEdit) (k : Nat) :
    (s.moveWholeAreas links e).get? k = (s.get? k).map fun r =>
      r.mapTokens fun _ t => if t.isWholeArea s.limits then e.scanToken links r.sheet t else t := by
  rw [(replaced_moveWholeAreas hs links e).get?]
  rcases hr : s.get? k with _ | r
  · rfl
  rw [Option.map_some, Option.map_some, r.mapTokens_congr]
  intro i t ht
  rw [← wholeRule_getD]
  split_ifs with hmem
  · rfl
  · rcases hrule : wholeRule s.limits links e r.sheet t with _ | u
    · rfl
    · have hreplace : s.replacement? (wholeRule s.limits links e) ⟨k, i⟩ = some u := by
        simp [replacement?, hr, ht, hrule]
      exact absurd (List.mem_map_of_mem (mem_movedWholeAreas.mpr hreplace)) hmem

/-- A store of formulas of single cells on the grid whose observers are exact. -/
structure OnGrid (limits : Limits) (links : SheetLinks) (s : FormulaStore) : Prop where
  agrees : s.Agrees Agreement.full limits links
  records : ∀ k r, s.get? k = some r → r.OnGrid limits

/-- A store on the grid in which areas have their top-left corner first. -/
structure Plain (limits : Limits) (links : SheetLinks) (s : FormulaStore) : Prop where
  agrees : s.Agrees Agreement.full limits links
  records : ∀ k r, s.get? k = some r → r.Plain limits

lemma Plain.onGrid (hs : s.Plain limits links) : s.OnGrid limits links :=
  ⟨hs.agrees, fun k r hr => (hs.records k r hr).onGrid⟩

/-- A token is found through the observers if it is not one of whole rows or columns, and meets the
cells that the edit may move. -/
lemma OnGrid.mem_overlapping_iff (hs : s.OnGrid limits links) {k i : Nat} {r : FormulaRecord}
    {t : Token} {range : CellRange} {a : Area} (hr : s.get? k = some r)
    (ht : r.tokens[i]? = some t) (hsheet : t.observedSheet? r.sheet links = some a.sheet)
    (hrange : t.range? = some range) : Handle.mk k i ∈ s.observers.overlapping a ↔
      range.isWhole limits = false ∧ (range.intersect? a.range).isSome := by
  have harea : s.observers.area? ⟨k, i⟩ =
      if range.isWhole limits = false then some ⟨a.sheet, range⟩ else none := by
    refine (hs.agrees.agrees ⟨k, i⟩).trans ?_
    simp [due?, hr, hs.agrees.limits_eq, FormulaRecord.due?,
      (hs.records k r hr).observed? ht hsheet hrange, Option.filter_some]
  rw [Observers.mem_overlapping, harea]
  simp only [Option.ite_none_right_eq_some, Option.some.injEq]
  constructor
  · rintro ⟨_, ⟨hwhole, rfl⟩, -, hmeets⟩
    exact ⟨hwhole, hmeets⟩
  · rintro ⟨hwhole, hmeets⟩
    exact ⟨_, ⟨hwhole, rfl⟩, rfl, hmeets⟩

/-- **The two searches give each token that they find its new form once.** -/
theorem OnGrid.get?_moveTokens (hs : s.OnGrid limits links) (he : e.Suits limits) (k : Nat) :
    ((s.moveObserved links e).moveWholeAreas links e).get? k =
      (s.get? k).map fun r => r.mapTokens fun _ t => e.editToken limits links r.sheet t := by
  have hmoved := replaced_moveObserved hs.agrees.coherent links e
  rw [get?_moveWholeAreas hmoved.coherent, hmoved.limits, hmoved.get?, hs.agrees.limits_eq]
  rcases hr : s.get? k with _ | r
  · rfl
  simp only [Option.map_some, FormulaRecord.mapTokens_mapTokens, FormulaRecord.sheet_mapTokens]
  congr 1
  refine r.mapTokens_congr _ _ fun i t ht => ?_
  rw [observedRule_getD]
  unfold GridEdit.editToken
  by_cases hsheet : t.observedSheet? r.sheet links = some e.sheet
  swap
  · have hscan : e.scanToken links r.sheet t = t := if_neg hsheet
    simp only [hscan, ite_self, hsheet, false_and, if_false]
  have hscan : e.scanToken links r.sheet t = e.moveToken t := if_pos hsheet
  rw [hscan]
  rcases hrange : t.range? with _ | range
  · have hmove := GridEdit.moveToken_of_range?_eq_none (e := e) hrange
    simp only [hscan, hmove, ite_self]
  have hfound := hs.mem_overlapping_iff (a := ⟨e.sheet, e.region limits⟩) hr ht hsheet hrange
  have hgrid := (hs.records k r hr).tokens t (List.mem_of_getElem? ht)
  by_cases hmem : Handle.mk k i ∈ s.observers.overlapping ⟨e.sheet, e.region limits⟩
  · obtain ⟨hwhole, hmeets⟩ := hfound.mp hmem
    have hfinds : e.finds limits t :=
      GridEdit.finds_iff.mpr (Or.inr ⟨range, hrange, hwhole, hmeets⟩)
    simp only [hmem, hsheet, hfinds, and_self, if_true]
    split_ifs with hwhole'
    · -- found by the observers, and afterwards an area of whole rows or columns
      have hbefore : t.isWholeArea limits = false := by
        by_contra hc
        simp [GridEdit.isWhole_of_isWholeArea (by simpa using hc) hrange] at hwhole
      unfold GridEdit.scanToken
      rw [GridEdit.moveToken_settled he hgrid hbefore hwhole', ite_self]
    · rfl
  · rw [if_neg hmem, hscan]
    have hfinds : e.finds limits t ↔ t.isWholeArea limits := by
      refine GridEdit.finds_iff.trans (or_iff_left ?_)
      rintro ⟨r', hr', hwhole, hmeets⟩
      obtain rfl := Option.some.inj (hrange.symm.trans hr')
      exact hmem (hfound.mpr ⟨hwhole, hmeets⟩)
    simp only [hsheet, hfinds, true_and]

end FormulaStore

end Spreadsheet
