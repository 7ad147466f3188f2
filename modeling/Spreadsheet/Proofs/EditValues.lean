import Spreadsheet.Proofs.EditWorkbook
import Spreadsheet.Proofs.Fixpoint
import Spreadsheet.Proofs.MirroredRecalculation
import Spreadsheet.Proofs.OrdinaryWorkbook
import Spreadsheet.Proofs.StoreHistory

/-!
Insertions and the values that formulas compute.

An insertion that pushes nothing off the grid leaves a workbook that mirrors the one before, if its
formulas refer to single cells only: every constant and every formula is at its new place, and every
reference to it has followed. Since places keep their order, both are computed in the same order
too. So every formula has the value that it had, be it part of a circle or not.
-/

namespace Spreadsheet

variable {limits : Limits} {links : SheetLinks} {own : Nat}

/-! ### References to single cells -/

/-- The token refers to nothing, or to one cell of the single sheet of a link. -/
def Token.LinkedCellsOnly (links : SheetLinks) : Token → Prop
  | ref3d _ link _ => (links.localSheet? link).isSome
  | t => t.Placeless

/-- The token refers to nothing, or to one cell, which is on its own sheet or on the single sheet of
a link. -/
def Token.CellsOnly (links : SheetLinks) : Token → Prop
  | ref .. => True
  | t => t.LinkedCellsOnly links

/-- All formulas refer to single cells, and names do so through links to single sheets. -/
structure Workbook.CellsOnly (w : Workbook) : Prop where
  formulas : ∀ id r, w.formulas.get? id = some r → ∀ t ∈ r.tokens, t.CellsOnly w.links
  names : ∀ n ∈ w.names, ∀ t ∈ n.body, t.LinkedCellsOnly w.links

namespace Token

variable {t : Token}

lemma LinkedCellsOnly.cases (h : t.LinkedCellsOnly links) : t.Placeless ∨
    ∃ cls link a k, t = ref3d cls link a ∧ links.localSheet? link = some k := by
  cases t with
  | ref3d cls link a =>
    obtain ⟨k, hk⟩ := Option.isSome_iff_exists.mp h
    exact Or.inr ⟨cls, link, a, k, rfl, hk⟩
  | _ => exact Or.inl h

lemma CellsOnly.cases (h : t.CellsOnly links) :
    (∃ cls a, t = ref cls a) ∨ t.LinkedCellsOnly links := by
  cases t with
  | ref cls a => exact Or.inl ⟨cls, a, rfl⟩
  | _ => exact Or.inr h

lemma CellsOnly.plain (h : t.CellsOnly links) (ht : t.OnGrid limits) : t.Plain limits := by
  cases t with
  | area | area3d => exact h.elim
  | _ => exact ht

end Token

/-! ### Places -/

namespace GridEdit

variable {e : GridEdit} {c c' : Cell}

/-- The cell is not taken off the grid. -/
def Keeps (e : GridEdit) (c : Cell) : Prop := (e.cell? c).isSome

instance (e : GridEdit) : DecidablePred e.Keeps := fun c =>
  inferInstanceAs (Decidable ((e.cell? c).isSome = true))

/-- The cell that the token refers to is not taken off the grid. -/
def KeepsCell (e : GridEdit) : Token → Prop
  | .ref _ a | .ref3d _ _ a => e.Keeps a.cell
  | _ => True

instance (e : GridEdit) : DecidablePred e.KeepsCell
  | .ref _ a | .ref3d _ _ a => inferInstanceAs (Decidable (e.Keeps a.cell))
  | .exp .. | .table .. | .binary _ | .unary _ | .paren | .missing | .text _ | .attr _ | .error _
  | .bool _ | .int _ | .num _ | .array .. | .func .. | .funcVar .. | .name .. | .nameX ..
  | .memory _ | .area .. | .refErr .. | .areaErr .. | .refN .. | .areaN .. | .area3d ..
  | .refErr3d .. | .areaErr3d .. => inferInstanceAs (Decidable True)

/-- Where an insertion takes a cell behind which there is room. -/
def pushedCell (e : GridEdit) (c : Cell) : Cell :=
  e.axis.withCoordinate c (e.pushed (e.axis.coordinate c))

lemma Keeps.cell? (h : e.Keeps c) (hins : e.change = .insert) :
    e.cell? c = some (e.pushedCell c) := by
  obtain ⟨d, hd⟩ := Option.isSome_iff_exists.mp h
  obtain ⟨i, hi, rfl⟩ := cell?_eq_some.mp hd
  rw [hd, pushedCell, index?_eq_pushed hins hi]

lemma Keeps.address? {a : Address} (h : e.Keeps a.cell) (hins : e.change = .insert) :
    e.address? a = some (a.withCell (e.pushedCell a.cell)) := by
  rw [GridEdit.address?, h.cell? hins]
  rfl

lemma pushedCell_inj (h : e.pushedCell c = e.pushedCell c') : c = c' := by
  refine withCoordinate_inj h ?_
  have hcoord := congrArg e.axis.coordinate h
  rwa [pushedCell, pushedCell, coordinate_withCoordinate, coordinate_withCoordinate,
    pushed_inj] at hcoord

lemma moveToken_of_placeless {t : Token} (h : t.Placeless) : e.moveToken t = t := by
  cases t <;> first | rfl | exact h.elim

end GridEdit

namespace Workbook

variable {w : Workbook} {e : GridEdit} {p q : Place}

/-- Where an insertion on an existing sheet takes a place. -/
def pushedPlace (w : Workbook) (e : GridEdit) (p : Place) : Place :=
  if p.sheet = e.sheet ∧ e.sheet < w.sheets.size then ⟨p.sheet, e.pushedCell p.cell⟩ else p

lemma pushedPlace_of_eq (hs : e.sheet < w.sheets.size) (c : Cell) :
    w.pushedPlace e ⟨e.sheet, c⟩ = ⟨e.sheet, e.pushedCell c⟩ := if_pos ⟨rfl, hs⟩

lemma pushedPlace_of_ne (hp : p.sheet ≠ e.sheet) : w.pushedPlace e p = p := if_neg fun h => hp h.1

lemma pushedPlace_of_idle (h : e.count = 0 ∨ w.sheets.size ≤ e.sheet) : w.pushedPlace e p = p := by
  unfold pushedPlace
  split_ifs with hp
  · have hpushed : e.pushed (e.axis.coordinate p.cell) = e.axis.coordinate p.cell := by
      unfold GridEdit.pushed
      split_ifs <;> omega
    rw [GridEdit.pushedCell, hpushed, GridEdit.withCoordinate_coordinate]
  · rfl

@[simp] lemma sheet_pushedPlace (w : Workbook) (e : GridEdit) (p : Place) :
    (w.pushedPlace e p).sheet = p.sheet := by
  unfold pushedPlace
  split_ifs <;> rfl

lemma injective_pushedPlace (w : Workbook) (e : GridEdit) :
    Function.Injective (w.pushedPlace e) := by
  intro p q h
  have hsheet : p.sheet = q.sheet := by
    rw [← sheet_pushedPlace w e p, h, sheet_pushedPlace]
  unfold pushedPlace at h
  rw [hsheet] at h
  split_ifs at h
  · obtain ⟨-, hcell⟩ := Place.mk.inj h
    obtain ⟨sheet, c⟩ := p
    obtain ⟨sheet', c'⟩ := q
    cases hsheet
    exact congrArg (Place.mk sheet) (GridEdit.pushedCell_inj hcell)
  · exact h

/-- Places keep their order. -/
lemma placeLE_pushedPlace (w : Workbook) (e : GridEdit) (p q : Place) :
    placeLE (w.pushedPlace e p) (w.pushedPlace e q) = placeLE p q := by
  have hle := @GridEdit.pushed_le_iff e
  unfold placeLE
  rw [sheet_pushedPlace, sheet_pushedPlace]
  by_cases hsheet : p.sheet = q.sheet
  swap
  · simp only [beq_eq_false_iff_ne.mpr hsheet, Bool.false_and]
  unfold pushedPlace
  rw [hsheet]
  split_ifs
  · cases hax : e.axis <;>
      simp only [GridEdit.pushedCell, hax, Axis.withCoordinate, Axis.coordinate, hle,
        GridEdit.pushed_lt_iff, GridEdit.pushed_inj, beq_eq_decide]
  · rfl

/-! ### What an insertion keeps -/

/-- The insertion pushes nothing off the grid: no constant, no formula, and no cell that formulas or
names refer to. -/
structure KeepsAll (w : Workbook) (e : GridEdit) : Prop where
  constants : ∀ c v, w.constant? ⟨e.sheet, c⟩ = some v → e.Keeps c
  formulas : ∀ id r, w.formulas.get? id = some r → r.sheet = e.sheet → e.Keeps r.position
  tokens : ∀ id r, w.formulas.get? id = some r → ∀ t ∈ r.tokens,
    t.observedSheet? r.sheet w.links = some e.sheet → e.KeepsCell t
  names : ∀ n ∈ w.names, ∀ t ∈ n.body,
    t.link?.bind w.links.localSheet? = some e.sheet → e.KeepsCell t

/-! ### Formulas -/

lemma formula?_eq_some_iff_of_onGrid (hs : w.formulas.OnGrid limits links) {tokens : List Token} :
    w.formula? p = some tokens ↔
      ∃ id r, w.formulas.get? id = some r ∧ r.place = p ∧ r.tokens = tokens := by
  unfold formula?
  simp only [Option.bind_eq_bind, Option.bind_eq_some_iff, hs.cellFormula?_eq_some]
  constructor
  · rintro ⟨id, ⟨r, hr, hplace⟩, r', hr', htokens⟩
    obtain rfl := Option.some.inj (hr.symm.trans hr')
    exact ⟨id, r, hr, hplace, Option.some.inj htokens⟩
  · rintro ⟨id, r, hr, hplace, rfl⟩
    exact ⟨id, ⟨r, hr, hplace⟩, r, hr, rfl⟩

/-- An insertion into a sheet of an ordinary workbook with formulas about single cells, by which
nothing is lost. The grid has more than one row and column. -/
structure Insertion (w : Workbook) (e : GridEdit) : Prop where
  ordinary : w.Ordinary
  cells : w.CellsOnly
  fits : e.Fits w.limits
  change : e.change = .insert
  sheet : e.sheet < w.sheets.size
  count : 1 ≤ e.count
  keeps : w.KeepsAll e

namespace Insertion

lemma onGrid (h : w.Insertion e) : (w.edit e).formulas.OnGrid w.limits w.links := by
  rw [formulas_edit h.sheet h.count]
  exact h.ordinary.store.edit h.fits.suits

/-- Every formula comes to its new place, with the tokens that a scan gives it. -/
lemma get?_edit (h : w.Insertion e) {id : Nat} {r : FormulaRecord}
    (hr : w.formulas.get? id = some r) :
    ∃ r', (w.edit e).formulas.get? id = some r' ∧ r'.place = w.pushedPlace e r.place ∧
      r'.tokens = r.tokens.map (e.scanToken w.links r.sheet) := by
  have hgrid := h.ordinary.formulas id r hr
  have htokens : r.tokens.map (e.editToken w.limits w.links r.sheet) =
      r.tokens.map (e.scanToken w.links r.sheet) :=
    List.map_congr_left fun t ht => GridEdit.editToken_eq_scanToken h.fits
      ((h.cells.formulas id r hr t ht).plain (hgrid.tokens t ht))
  rw [formulas_edit h.sheet h.count, h.ordinary.store.get?_edit h.fits.suits, hr, Option.bind_some,
    ← htokens]
  by_cases hsheet : r.sheet = e.sheet
  · rw [GridEdit.editRecord_of_eq hsheet, (h.keeps.formulas id r hr hsheet).cell? h.change]
    refine ⟨_, rfl, ?_, rfl⟩
    show (⟨r.sheet, e.pushedCell r.position⟩ : Place) = w.pushedPlace e ⟨r.sheet, r.position⟩
    rw [hsheet, pushedPlace_of_eq h.sheet]
  · refine ⟨_, GridEdit.editRecord_of_ne hsheet, ?_, ?_⟩
    · rw [pushedPlace_of_ne hsheet]
      simp [FormulaRecord.place, FormulaRecord.position]
    · simp [FormulaRecord.tokens]

lemma formula?_edit (h : w.Insertion e) {tokens : List Token} (hp : w.formula? p = some tokens) :
    (w.edit e).formula? (w.pushedPlace e p) =
      some (tokens.map (e.scanToken w.links p.sheet)) := by
  obtain ⟨id, r, hr, rfl, rfl⟩ := (formula?_eq_some_iff_of_onGrid h.ordinary.store).mp hp
  obtain ⟨r', hr', hplace, htokens⟩ := h.get?_edit hr
  exact (formula?_eq_some_iff_of_onGrid h.onGrid).mpr ⟨id, r', hr', hplace, htokens⟩

/-- All formulas after the insertion come from one before. -/
lemma exists_of_formula?_edit (h : w.Insertion e) (hq : ((w.edit e).formula? q).isSome) :
    ∃ p, (w.formula? p).isSome ∧ w.pushedPlace e p = q := by
  obtain ⟨tokens', htokens'⟩ := Option.isSome_iff_exists.mp hq
  obtain ⟨id, r', hr', rfl, -⟩ := (formula?_eq_some_iff_of_onGrid h.onGrid).mp htokens'
  have hedit := hr'
  rw [formulas_edit h.sheet h.count, h.ordinary.store.get?_edit h.fits.suits] at hedit
  obtain ⟨r, hr, -⟩ := Option.bind_eq_some_iff.mp hedit
  obtain ⟨r'', hr'', hplace, -⟩ := h.get?_edit hr
  obtain rfl := Option.some.inj (hr'.symm.trans hr'')
  refine ⟨r.place, ?_, hplace.symm⟩
  rw [(formula?_eq_some_iff_of_onGrid h.ordinary.store).mpr ⟨id, r, hr, rfl, rfl⟩]
  rfl

lemma formula?_edit_eq_none (h : w.Insertion e) (hp : w.formula? p = none) :
    (w.edit e).formula? (w.pushedPlace e p) = none := by
  by_contra hne
  obtain ⟨q, hq, hplace⟩ := h.exists_of_formula?_edit (Option.isSome_iff_ne_none.mpr hne)
  rw [injective_pushedPlace w e hplace, hp] at hq
  cases hq

/-! ### Constants -/

lemma constant?_edit (h : w.Insertion e) (p : Place) :
    (w.edit e).constant? (w.pushedPlace e p) = w.constant? p := by
  obtain ⟨sheet, c⟩ := p
  by_cases hsheet : sheet = e.sheet
  swap
  · rw [pushedPlace_of_ne hsheet, constant?_edit_of_ne h.sheet h.count hsheet]
  subst hsheet
  rw [pushedPlace_of_eq h.sheet]
  refine Option.ext fun v => ?_
  rw [Workbook.constant?_edit h.fits.suits h.sheet h.count h.ordinary.constants]
  constructor
  · rintro ⟨d, hd, hv⟩
    rw [(h.keeps.constants d v hv).cell? h.change] at hd
    rwa [← GridEdit.pushedCell_inj (Option.some.inj hd)]
  · exact fun hv => ⟨c, (h.keeps.constants c v hv).cell? h.change, hv⟩

lemma cellValue_edit (h : w.Insertion e) (hp : w.formula? p = none) :
    (w.edit e).cellValue (w.pushedPlace e p) = w.cellValue p := by
  rw [cellValue_of_formula?_eq_none h.ordinary.store.agrees.coherent hp,
    cellValue_of_formula?_eq_none h.onGrid.agrees.coherent (h.formula?_edit_eq_none hp)]
  exact congrArg (Option.getD · Value.blank) (h.constant?_edit p)

/-! ### Tokens -/

lemma sheetsOf_of_localSheet? {link : UInt16} {k : Nat} {sheets : List Nat}
    (hk : w.links.localSheet? link = some k)
    (hsheets : w.surroundings.sheetsOf link = .ok sheets) : sheets = [k] := by
  obtain ⟨entry, hentry, hlocal⟩ := Option.bind_eq_some_iff.mp hk
  cases entry with
  | span first last =>
    obtain ⟨rfl, hfirst⟩ := Option.ite_none_right_eq_some.mp hlocal
    obtain rfl := Option.some.inj hfirst
    have hlink : w.surroundings.link link = some (.span first first) := hentry
    rw [Surroundings.sheetsOf_single hlink] at hsheets
    split_ifs at hsheets
    cases hsheets
    rfl
  | external | deleted => cases hlocal

/-- A reference through a link follows its cell, and other tokens stay as they are. -/
lemma mirrors_linked (h : w.Insertion e) {t : Token} (ht : t.LinkedCellsOnly w.links)
    (hkeeps : t.link?.bind w.links.localSheet? = some e.sheet → e.KeepsCell t) (p q : Place) :
    t.Mirrors (w.pushedPlace e) (w.site p) ((w.edit e).site q)
      (if t.link?.bind w.links.localSheet? = some e.sheet then e.moveToken t else t) := by
  rcases ht.cases with ht | ⟨cls, link, a, k, rfl, hk⟩
  · rw [GridEdit.moveToken_of_placeless ht, ite_self]
    exact .same ht
  have hk' : (Token.ref3d cls link a).link?.bind w.links.localSheet? = some k := hk
  have hsheets : ∀ sheets, (w.site p).surroundings.sheetsOf link = .ok sheets →
      ∀ j ∈ sheets, j = k := fun sheets hs j hj =>
    List.mem_singleton.mp (sheetsOf_of_localSheet? hk hs ▸ hj)
  by_cases hsheet : k = e.sheet
  · subst hsheet
    rw [if_pos hk', GridEdit.moveToken, GridEdit.Keeps.address? (hkeeps hk') h.change]
    refine .ref3d fun sheets hs j hj => ?_
    rw [hsheets sheets hs j hj, pushedPlace_of_eq h.sheet]
    rfl
  · rw [if_neg fun hc => hsheet (Option.some.inj (hk'.symm.trans hc))]
    refine .ref3d fun sheets hs j hj => ?_
    rw [hsheets sheets hs j hj, pushedPlace_of_ne hsheet]

/-- So does a reference on the sheet of the formula. -/
lemma mirrors_scanToken (h : w.Insertion e) {t : Token} (ht : t.CellsOnly w.links)
    (hkeeps : t.observedSheet? p.sheet w.links = some e.sheet → e.KeepsCell t) :
    t.Mirrors (w.pushedPlace e) (w.site p) ((w.edit e).site (w.pushedPlace e p))
      (e.scanToken w.links p.sheet t) := by
  rcases ht.cases with ⟨cls, a, rfl⟩ | ht
  · by_cases hsheet : p.sheet = e.sheet
    · have hobserved : (Token.ref cls a).observedSheet? p.sheet w.links = some e.sheet :=
        congrArg some hsheet
      rw [GridEdit.scanToken, if_pos hobserved, GridEdit.moveToken,
        GridEdit.Keeps.address? (hkeeps hobserved) h.change]
      refine .ref ?_
      show (⟨(w.pushedPlace e p).sheet, e.pushedCell a.cell⟩ : Place) =
        w.pushedPlace e ⟨p.sheet, a.cell⟩
      rw [sheet_pushedPlace, hsheet, pushedPlace_of_eq h.sheet]
    · have hobserved : (Token.ref cls a).observedSheet? p.sheet w.links ≠ some e.sheet :=
        fun hc => hsheet (Option.some.inj hc)
      rw [GridEdit.scanToken, if_neg hobserved]
      refine .ref ?_
      show (⟨(w.pushedPlace e p).sheet, a.cell⟩ : Place) = w.pushedPlace e ⟨p.sheet, a.cell⟩
      rw [sheet_pushedPlace]
      exact (pushedPlace_of_ne (p := ⟨p.sheet, a.cell⟩) hsheet).symm
  · have hsame : e.scanToken w.links p.sheet t =
        if t.link?.bind w.links.localSheet? = some e.sheet then e.moveToken t else t := by
      rcases ht.cases with hplace | ⟨cls, link, a, k, rfl, -⟩
      · rw [GridEdit.scanToken, GridEdit.moveToken_of_placeless hplace, ite_self, ite_self]
      · rfl
    rw [hsame]
    refine h.mirrors_linked ht (fun hc => ?_) p _
    rcases ht.cases with hplace | ⟨cls, link, a, k, rfl, -⟩
    · cases t <;> trivial
    · exact hkeeps hc

/-! ### The workbook as a whole -/

lemma mirrors_site (h : w.Insertion e) (p : Place) :
    (w.site p).Mirrors (w.pushedPlace e) ((w.edit e).site (w.pushedPlace e p)) where
  settings := settings_edit
  sheets link := by
    have hlink : (w.edit e).surroundings.link link = w.surroundings.link link :=
      congrArg (·[link.toNat]?) links_edit
    have hcount : (w.edit e).surroundings.sheetCount = w.surroundings.sheetCount :=
      size_sheets_edit
    show (w.edit e).surroundings.sheetsOf link = w.surroundings.sheetsOf link
    unfold Surroundings.sheetsOf
    rw [hlink, hcount]
  names i := by
    show Option.Rel _ (numbered w.names i) (numbered (w.edit e).names i)
    unfold numbered
    rw [names_edit h.sheet h.count, Array.getElem?_map]
    split_ifs
    · exact .none
    rcases hn : w.names[i.toNat - 1]? with _ | n
    · exact .none
    have hmem := Array.mem_of_getElem? hn
    refine .some ⟨rfl, ?_⟩
    rw [GridEdit.scanName, List.forall₂_map_right_iff, List.forall₂_same]
    exact fun t ht => h.mirrors_linked (h.cells.names n hmem t ht) (h.keeps.names n hmem t ht) p _

end Insertion

/-! ### The order of formulas -/

lemma placeLE_iff : placeLE p q ↔ p.sheet < q.sheet ∨ p.sheet = q.sheet ∧
    (p.cell.row < q.cell.row ∨ p.cell.row = q.cell.row ∧ p.cell.col ≤ q.cell.col) := by
  simp [placeLE]

lemma eq_of_placeLE (h : placeLE p q) (h' : placeLE q p) : p = q := by
  obtain ⟨sheet, row, col⟩ := p
  obtain ⟨sheet', row', col'⟩ := q
  rw [placeLE_iff] at h h'
  dsimp only at h h'
  obtain rfl : sheet = sheet' := by omega
  obtain rfl : row = row' := by omega
  obtain rfl : col = col' := by omega
  rfl

lemma pairwise_formulaCells (w : Workbook) : w.formulaCells.Pairwise (placeLE · ·) := by
  refine List.pairwise_mergeSort (fun p q r hpq hqr => ?_) (fun p q => ?_) _
  · rw [placeLE_iff] at hpq hqr ⊢
    omega
  · rw [Bool.or_eq_true, placeLE_iff, placeLE_iff]
    omega

lemma nodup_formulaCells (hs : w.formulas.Coherent) : w.formulaCells.Nodup := by
  have hplaces : w.formulaPlaces.Nodup := by
    refine List.Pairwise.filterMap _ ?_ (w.formulas.pairwise_toList.imp_of_mem
      (S := fun x y => x.2.key ≠ y.2.key) fun hx hy hlt hkey => ?_)
    · rintro ⟨id, sheet, body⟩ ⟨id', sheet', body'⟩ hne p hp q hq rfl
      cases body <;> cases body' <;> cases hp <;> cases hq
      exact hne rfl
    · exact Nat.ne_of_lt hlt (hs.key_inj (FormulaStore.mem_toList.mp hx)
        (FormulaStore.mem_toList.mp hy) hkey)
  exact (List.mergeSort_perm _ _).nodup_iff.mpr hplaces

namespace Insertion

lemma formulaCells_edit (h : w.Insertion e) :
    (w.edit e).formulaCells = w.formulaCells.map (w.pushedPlace e) := by
  have hσ := injective_pushedPlace w e
  refine List.Perm.eq_of_pairwise (fun _ _ _ _ => eq_of_placeLE) (pairwise_formulaCells _) ?_ ?_
  · refine List.pairwise_map.mpr ((pairwise_formulaCells w).imp fun hle => ?_)
    rwa [placeLE_pushedPlace]
  · refine (List.perm_ext_iff_of_nodup (nodup_formulaCells h.onGrid.agrees.coherent)
      ((nodup_formulaCells h.ordinary.store.agrees.coherent).map hσ)).mpr fun q => ?_
    rw [mem_formulaCells h.onGrid.agrees.coherent, List.mem_map]
    simp only [mem_formulaCells h.ordinary.store.agrees.coherent]
    constructor
    · exact h.exists_of_formula?_edit
    · rintro ⟨p, hp, rfl⟩
      obtain ⟨tokens, htokens⟩ := Option.isSome_iff_exists.mp hp
      rw [h.formula?_edit htokens]
      rfl

/-- **After an insertion by which nothing is lost, the workbook mirrors the one before.** -/
theorem mirrors (h : w.Insertion e) : w.Mirrors (w.pushedPlace e) (w.edit e) where
  injective := injective_pushedPlace w e
  formula p := by
    rcases hp : w.formula? p with _ | tokens
    · rw [h.formula?_edit_eq_none hp]
      exact .none
    · rw [h.formula?_edit hp]
      obtain ⟨id, r, hr, rfl, rfl⟩ := (formula?_eq_some_iff_of_onGrid h.ordinary.store).mp hp
      have hgrid := (h.ordinary.formulas id r hr).tokens
      refine .some ⟨?_, ?_⟩
      · rcases htokens : r.tokens with _ | ⟨t, ts⟩
        · rfl
        · have ht := hgrid t (htokens ▸ List.mem_cons_self)
          cases t <;> first | rfl | exact ht.elim
      · rw [List.forall₂_map_right_iff, List.forall₂_same]
        exact fun t ht => h.mirrors_scanToken (h.cells.formulas id r hr t ht)
          (h.keeps.tokens id r hr t ht)
  constant p := h.cellValue_edit
  site := h.mirrors_site
  size := by
    rw [formulas_edit h.sheet h.count]
    exact FormulaStore.size_edit e
  formulaCells := h.formulaCells_edit

end Insertion

/-! ### Computed values -/

/-- Recalculated, the second workbook gives every formula of the first the same value or failure at
the image of its place. -/
structure SameValues (functions : Dispatcher) (σ : Place → Place) (w w' : Workbook) : Prop where
  /-- The formulas are evaluated in the same order. -/
  cells : w'.formulaCells = w.formulaCells.map σ
  /-- The same formulas fail in the same way. -/
  failures : (w'.recalculate functions).1 =
    (w.recalculate functions).1.map fun failure => (σ failure.1, failure.2)
  values : ∀ id r, w.formulas.get? id = some r → ∃ r', w'.formulas.get? id = some r' ∧
    r'.place = σ r.place ∧
    (w'.recalculate functions).2.cellValue r'.place = (w.recalculate functions).2.cellValue r.place

/-- **An insertion keeps the values of all formulas**, circular ones among them, if formulas refer
to single cells and nothing is pushed off the grid. -/
theorem recalculate_edit {w : Workbook} (hw : w.Ordinary) (hrows : 2 ≤ w.limits.maxRows)
    (hcols : 2 ≤ w.limits.maxCols) (hcells : w.CellsOnly) (sheet : Nat) (axis : Axis)
    (start count : Nat) (hkeeps : sheet < w.sheets.size →
      w.KeepsAll (.ofLimits sheet axis .insert start count w.limits)) :
    w.SameValues Library.basic
      (w.pushedPlace (.ofLimits sheet axis .insert start count w.limits))
      (w.edit (.ofLimits sheet axis .insert start count w.limits)) := by
  set e := GridEdit.ofLimits sheet axis .insert start count w.limits
  by_cases hidle : e.count = 0 ∨ w.sheets.size ≤ e.sheet
  · have hσ : w.pushedPlace e = id := funext fun p => pushedPlace_of_idle hidle
    rw [edit_of_idle hidle, hσ]
    exact ⟨by simp, by simp, fun id r hr => ⟨r, hr, rfl, rfl⟩⟩
  have hs : e.sheet < w.sheets.size := by omega
  have h : w.Insertion e := ⟨hw, hcells, ⟨rfl, hrows, hcols, hw.rows_lt, hw.cols_lt⟩, rfl, hs,
    by omega, hkeeps hs⟩
  obtain ⟨hfailures, hvalues⟩ := mirrors_recalculate h.mirrors (Library.mirrors_basic _)
  refine ⟨h.formulaCells_edit, hfailures, fun id r hr => ?_⟩
  obtain ⟨r', hr', hplace, -⟩ := h.get?_edit hr
  refine ⟨r', hr', hplace, ?_⟩
  rw [hplace]
  refine hvalues r.place ?_
  rw [(formula?_eq_some_iff_of_onGrid hw.store).mpr ⟨id, r, hr, rfl, rfl⟩]
  rfl

namespace CircleBelow

/-- A name of the cell A4. -/
def rate : DefinedName := ⟨"Rate", none, [.ref3d .value 0 ⟨3, 0, true, true⟩]⟩

def setup : List Operation := [.addSheet "Data", .addLink (.span 0 0), .addName rate]

/-- B1 and B6 show each other, and B7 shows A4. -/
def ops : List Operation :=
  [.setValue ⟨0, ⟨3, 0⟩⟩ (.bool true),
    .setFormula ⟨0, ⟨0, 1⟩⟩ [.ref .value ⟨5, 1, true, true⟩],
    .setFormula ⟨0, ⟨5, 1⟩⟩ [.ref .value ⟨0, 1, true, true⟩],
    .setFormula ⟨0, ⟨6, 1⟩⟩ [.name .value 1 0]]

def book : Workbook := ((empty {}).run setup).run ops

/-- Three rows are inserted between B1 and the rest. -/
def insertion : GridEdit := .ofLimits 0 .rows .insert 2 3 book.limits

lemma filledBy_book : book.FilledBy (setup ++ ops) ∧ book.limits = {} := by
  have h := filledBy_run {} (setup ++ ops) (by decide)
  rwa [run_append] at h

lemma links_book : book.links = #[.span 0 0] := by
  have hvalue := links_setValue ((empty {}).run setup) ⟨0, ⟨3, 0⟩⟩ (.bool true)
  exact hvalue

lemma cellsOnly_book : book.CellsOnly := by
  refine ⟨fun id r hr t ht => ?_, fun n hn t ht => ?_⟩
  · obtain ⟨p, tokens, hmem, rfl⟩ := filledBy_book.1.formulas id r hr
    simp [setup, ops] at hmem
    rcases hmem with ⟨rfl, rfl⟩ | ⟨rfl, rfl⟩ | ⟨rfl, rfl⟩ <;>
      (obtain rfl := List.mem_singleton.mp ht; trivial)
  · have hmem := filledBy_book.1.names n hn
    simp [setup, ops] at hmem
    subst hmem
    obtain rfl := List.mem_singleton.mp ht
    show (book.links.localSheet? 0).isSome
    rw [links_book]
    rfl

lemma keepsAll_book : book.KeepsAll insertion := by
  have hlimits := filledBy_book.2
  refine ⟨fun c v hv => ?_, fun id r hr _ => ?_, fun id r hr t ht _ => ?_,
    fun n hn t ht _ => ?_⟩ <;> rw [insertion, hlimits]
  · have hmem := filledBy_book.1.constants _ v hv
    simp [setup, ops, insertion, GridEdit.ofLimits] at hmem
    rw [hmem.1]
    decide
  · obtain ⟨p, tokens, hmem, rfl⟩ := filledBy_book.1.formulas id r hr
    simp [setup, ops] at hmem
    rcases hmem with ⟨rfl, rfl⟩ | ⟨rfl, rfl⟩ | ⟨rfl, rfl⟩ <;> decide
  · obtain ⟨p, tokens, hmem, rfl⟩ := filledBy_book.1.formulas id r hr
    simp [setup, ops] at hmem
    rcases hmem with ⟨rfl, rfl⟩ | ⟨rfl, rfl⟩ | ⟨rfl, rfl⟩ <;>
      (obtain rfl := List.mem_singleton.mp ht; decide)
  · have hmem := filledBy_book.1.names n hn
    simp [setup, ops] at hmem
    subst hmem
    obtain rfl := List.mem_singleton.mp ht
    decide

/-- The circle and the name have the values that they had. -/
theorem recalculate_edit_book : book.Ordinary ∧ 2 ≤ book.limits.maxRows ∧
    2 ≤ book.limits.maxCols ∧ book.CellsOnly ∧ book.KeepsAll insertion ∧
    book.SameValues Library.basic (book.pushedPlace insertion) (book.edit insertion) := by
  have hordinary : book.Ordinary := ordinary_of_filling (by decide) (by decide) (by decide)
    (by decide) (by decide) (by decide)
  have hrows : 2 ≤ book.limits.maxRows := by rw [filledBy_book.2]; decide
  have hcols : 2 ≤ book.limits.maxCols := by rw [filledBy_book.2]; decide
  exact ⟨hordinary, hrows, hcols, cellsOnly_book, keepsAll_book,
    recalculate_edit hordinary hrows hcols cellsOnly_book 0 .rows 2 3 fun _ => keepsAll_book⟩

end CircleBelow

end Workbook

end Spreadsheet
