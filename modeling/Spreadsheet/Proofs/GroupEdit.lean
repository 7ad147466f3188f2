import Spreadsheet.Proofs.Anchors
import Spreadsheet.Proofs.EditScan
import Spreadsheet.Proofs.GroupMembers
import Spreadsheet.Proofs.SmallestRange

/-!
Groups and blocks under an edit.

A placeholder names its group by the coordinates of the anchor, so the placeholder of each cell has
to follow the group. If the anchor stays and its new coordinates fit into a placeholder, then the
placeholders of the cells that stay find the group again, and find no other. If the anchor goes,
then the group does, and leaves its cells behind.
-/

namespace Spreadsheet

/-! ### The group of a cell -/

namespace Workbook

variable {w : Workbook} {p : Place} {anchor : Cell} {f : BoundFormula} {k : Nat}

/-- The number of the group or block that the placeholder in a cell stands for. -/
def group? (w : Workbook) (p : Place) : Option Nat :=
  (w.anchor? p).bind fun anchor => w.formulas.positions[w.groupKey p anchor]?

lemma isSome_blockOver?_iff (hw : w.formulas.Coherent) {sheet : Nat} {c : Cell} :
    (w.blockOver? sheet anchor c).isSome ↔ ∃ k r, w.formulas.get? k = some r ∧
      r.key = ⟨.array, ⟨sheet, anchor⟩⟩ ∧ c ∈ r.body.extent := by
  simp only [Option.isSome_iff_exists, blockOver?, Option.filter_eq_some_iff, decide_eq_true_eq,
    FormulaStore.arrayAt?_eq_some_iff hw, FormulaStore.find?_eq_some_iff hw]
  constructor
  · rintro ⟨f, ⟨k, hk, hkey⟩, hc⟩
    exact ⟨k, _, hk, hkey, hc⟩
  · rintro ⟨k, ⟨sheet, body⟩, hk, hkey, hc⟩
    cases body with
    | cell c tokens => cases hkey
    | shared f => cases hkey
    | array f =>
      cases hkey
      exact ⟨f, ⟨k, hk, rfl⟩, hc⟩

/-- Where only cells have formulas, no block covers a cell. -/
lemma blockOver?_eq_none (hw : w.formulas.Coherent)
    (hcells : ∀ k r, w.formulas.get? k = some r → r.body.kind = .cell) (sheet : Nat)
    (anchor c : Cell) : w.blockOver? sheet anchor c = none := by
  rw [← Option.not_isSome_iff_eq_none, isSome_blockOver?_iff hw]
  rintro ⟨k, r, hr, hkey, -⟩
  exact nomatch (hcells k r hr).symm.trans (congrArg FormulaKey.kind hkey)

lemma bound?_setShared_of_cells (hw : w.formulas.Coherent)
    (hcells : ∀ k r, w.formulas.get? k = some r → r.body.kind = .cell) (sheet : Nat)
    (body : List Token) {range : CellRange} {c : Cell} (hshort : range.start.Short)
    (hc : c ∈ range) : (w.setShared sheet range body).2.bound? ⟨sheet, c⟩ =
      some (.ok (.shared (bindShared body range.start c w.limits))) := by
  rw [bound?_setShared hw hshort hc, blockOver?_eq_none hw hcells]

lemma group?_eq_some_iff (hw : w.formulas.Coherent) : w.group? p = some k ↔
    ∃ anchor r, w.anchor? p = some anchor ∧ w.formulas.get? k = some r ∧
      r.key = w.groupKey p anchor := by
  unfold group?
  simp only [Option.bind_eq_some_iff, hw.index]
  exact exists_congr fun anchor => exists_and_left.symm

/-- The cell has the formula of its group. -/
lemma bound?_of_group? (hw : w.formulas.Coherent) {r : FormulaRecord}
    (h : w.group? p = some k) (hr : w.formulas.get? k = some r) :
    w.bound? p = some (.ok (r.body.boundAt w.limits p.cell)) := by
  obtain ⟨anchor, r', hanchor, hr', hkey⟩ := (group?_eq_some_iff hw).mp h
  obtain rfl := Option.some.inj (hr.symm.trans hr')
  refine bound?_of_boundTo? hanchor ?_
  rw [boundTo?_eq hw, (FormulaStore.find?_eq_some_iff hw).mpr ⟨k, hr, hkey⟩]
  rfl

/-- A cell finds no group where nothing but formulas of cells is stored at the anchor. -/
lemma bound?_of_free (hw : w.formulas.Coherent) (h : w.anchor? p = some anchor)
    (hfree : ∀ i d, w.formulas.get? i = some d → d.place = ⟨p.sheet, anchor⟩ →
      d.body.kind = .cell) : w.bound? p = some (.error (.structureNotFound p.sheet anchor)) := by
  refine bound?_of_find?_eq_none hw h fun kind hkind => ?_
  refine Option.eq_none_iff_forall_ne_some.mpr fun d hd => hkind ?_
  obtain ⟨i, hi, hkey⟩ := (FormulaStore.find?_eq_some_iff hw).mp hd
  exact (congrArg FormulaKey.kind hkey).symm.trans (hfree i d hi (congrArg FormulaKey.place hkey))

/-- A formula that is found through a placeholder is that of a group. -/
lemma exists_group? (hw : w.formulas.Coherent) (h : w.bound? p = some (.ok f))
    (hf : ∀ tokens, f ≠ .plain tokens) : ∃ k, w.group? p = some k := by
  rcases hanchor : w.anchor? p with _ | anchor
  · obtain ⟨tokens, htokens, h⟩ := Option.map_eq_some_iff.mp h
    rw [anchor?, htokens, Option.bind_some] at hanchor
    rw [instantiate, hanchor] at h
    exact absurd (Except.ok.inj h).symm (hf tokens)
  · rw [bound?_of_anchor? hanchor, boundTo?_eq hw] at h
    rcases hfind : w.formulas.find? (w.groupKey p anchor) with _ | r
    · rw [hfind] at h
      cases h
    · obtain ⟨k, hk, hkey⟩ := (FormulaStore.find?_eq_some_iff hw).mp hfind
      exact ⟨k, (group?_eq_some_iff hw).mpr ⟨anchor, r, hanchor, hk, hkey⟩⟩

end Workbook

/-! ### Moved formulas -/

lemma FormulaRecord.key_eq_iff {r : FormulaRecord} {kind : FormulaKind} {sheet : Nat} {c : Cell} :
    r.key = ⟨kind, ⟨sheet, c⟩⟩ ↔ r.body.kind = kind ∧ r.sheet = sheet ∧ r.position = c := by
  simp [FormulaRecord.key, FormulaRecord.place]

/-- `r'` is `r` moved by an edit, its cells with it if it is a group or a block. -/
structure FormulaRecord.MovesTo (e : GridEdit) (r r' : FormulaRecord) : Prop where
  sheet : r'.sheet = r.sheet
  kind : r'.body.kind = r.body.kind
  position : e.cell? r.position = some r'.position
  extent : r.body.kind ≠ .cell → e.range? r.body.extent = some r'.body.extent

namespace FormulaStore

variable {s : FormulaStore} {links : SheetLinks} {e : GridEdit} {k : Nat} {r r' : FormulaRecord}

lemma coherent_edit (hs : s.Coherent) (links : SheetLinks) (e : GridEdit) :
    (s.edit links e).Coherent := by
  have h : s.Agrees (fun _ _ _ => True) s.limits links := ⟨hs, rfl, fun _ => trivial⟩
  exact (h.edit (fun _ _ => trivial) e).coherent

lemma Movable.movesTo (h : s.Movable e) (hr : s.get? k = some r) (hsheet : r.sheet = e.sheet)
    (hkept : e.keeps r.body) (f : Nat → Token → Token) :
    r.MovesTo e (e.moveRecord (r.mapTokens f)) := by
  have hkept' : e.keeps (r.mapTokens f).body := by rwa [GridEdit.keeps_mapTokens]
  obtain ⟨c, hc⟩ := Option.isSome_iff_exists.mp (GridEdit.isSome_of_keeps hkept)
  have hc' : e.cell? (r.mapTokens f).body.position = some c := by
    rw [← hc]
    exact congrArg e.cell? (r.position_mapTokens f)
  have hposition := GridEdit.position_moveBody h.last_lt (fun hkind => by
    rw [FormulaRecord.extent_mapTokens]
    exact h.block_le k r hr hsheet (by simpa using hkind)) hkept' hc'
  refine ⟨rfl, ?_, ?_, fun hkind => ?_⟩
  · show (e.moveBody (r.mapTokens f).body).kind = r.body.kind
    rw [GridEdit.kind_moveBody, FormulaRecord.kind_mapTokens]
  · show _ = some (e.moveBody (r.mapTokens f).body).position
    rw [hposition]
    exact hc
  · show _ = some (e.moveBody (r.mapTokens f).body).extent
    rw [← GridEdit.range?_extent hkept' (by simpa using hkind), FormulaRecord.extent_mapTokens]

/-- A formula on the edited sheet that is left by an edit has moved there. -/
lemma Movable.of_get?_edit (h : s.Movable e) (hs : s.Coherent)
    (hr' : (s.edit links e).get? k = some r') (hsheet : r'.sheet = e.sheet) :
    ∃ r, s.get? k = some r ∧ r.MovesTo e r' := by
  obtain ⟨r, f, hr, -, ⟨hne, rfl⟩ | ⟨hrsheet, hkept, rfl⟩⟩ := FormulaStore.of_get?_edit hs hr'
  · exact absurd hsheet hne
  · exact ⟨r, hr, h.movesTo hr hrsheet hkept f⟩

/-- A record comes to the place where the anchor comes to if and only if it is there. -/
lemma Movable.key_iff (h : s.Movable e) (hr : s.get? k = some r) (hmoves : r.MovesTo e r')
    {kind : FormulaKind} {anchor c : Cell} (hlt : e.axis.coordinate anchor < GridEdit.maxCoordinate)
    (hc : e.cell? anchor = some c) :
    r'.key = ⟨kind, ⟨e.sheet, c⟩⟩ ↔ r.key = ⟨kind, ⟨e.sheet, anchor⟩⟩ := by
  simp only [FormulaRecord.key_eq_iff, hmoves.sheet, hmoves.kind]
  refine and_congr_right fun _ => and_congr_right fun hsheet => ⟨fun hposition => ?_, ?_⟩
  · have hmove := hmoves.position
    rw [hposition] at hmove
    exact GridEdit.cell?_inj_of_lt (h.position_lt k r hr hsheet) hlt hmove hc
  · rintro rfl
    exact Option.some.inj (hmoves.position.symm.trans hc)

/-- A block covers a moved cell if and only if it did before. -/
lemma Movable.mem_extent_iff (h : s.Movable e) (hr : s.get? k = some r) (hmoves : r.MovesTo e r')
    (hsheet : r.sheet = e.sheet) (hkind : r.body.kind = .array) {c c' : Cell}
    (hlt : e.axis.coordinate c < GridEdit.maxCoordinate) (hc : e.cell? c = some c') :
    c' ∈ r'.body.extent ↔ c ∈ r.body.extent :=
  GridEdit.mem_range?_iff h.last_lt (h.block_le k r hr hsheet hkind) hlt
    (hmoves.extent (by simp [hkind])) hc

/-- A formula moves with its place. -/
lemma Movable.get?_edit (h : s.Movable e) (hs : s.Coherent) (links : SheetLinks)
    (hr : s.get? k = some r) (hsheet : r.sheet = e.sheet) (hanchored : r.body.Anchored)
    (hc : (e.cell? r.position).isSome) :
    ∃ r', (s.edit links e).get? k = some r' ∧ r.MovesTo e r' := by
  have hkept := GridEdit.keeps_of_anchored hanchored hc
  obtain ⟨f, -, hr'⟩ := h.exists_get?_edit hs links hr hsheet hkept
  exact ⟨_, hr', h.movesTo hr hsheet hkept f⟩

end FormulaStore

/-! ### The group of a moved cell -/

lemma GridEdit.cell?_of_count_eq_zero {e : GridEdit} {c c' : Cell} (h : e.count = 0)
    (hc : e.cell? c = some c') : c' = c := by
  obtain ⟨i, hi, rfl⟩ := cell?_eq_some.mp hc
  have hsame : i = e.axis.coordinate c := by
    unfold index? at hi
    cases hchange : e.change <;> simp only [hchange] at hi <;> split_ifs at hi <;>
      simp only [Option.some.injEq] at hi <;> omega
  rw [hsame, withCoordinate_coordinate]

/-- A placeholder follows its anchor, if that does not go, as far as there is room in it. -/
lemma placeholderAnchor?_movePlaceholder {e : GridEdit} {tokens : List Token} {anchor : Cell}
    (h : placeholderAnchor? tokens = some anchor) :
    placeholderAnchor? (e.movePlaceholder tokens) =
      some ((e.cell? anchor).elim anchor Cell.truncated) := by
  obtain ⟨row, col, rest, rfl, rfl⟩ := placeholderAnchor?_eq_some_iff.mp h
  simp only [GridEdit.movePlaceholder]
  rcases hc : e.cell? ⟨row.toNat, col.toNat⟩ with _ | c
  · rfl
  · exact placeholderAnchor?_eq_truncated c

lemma placeholderAnchor?_movePlaceholder_of_none {e : GridEdit} {tokens : List Token}
    (h : placeholderAnchor? tokens = none) :
    placeholderAnchor? (e.movePlaceholder tokens) = none := by
  unfold GridEdit.movePlaceholder
  split
  · cases h
  · exact h

namespace Workbook

variable {w : Workbook} {e : GridEdit} {c c' anchor a : Cell} {k : Nat} {r : FormulaRecord}

lemma formula?_eq_some_iff (hw : w.formulas.Coherent) {p : Place} {tokens : List Token} :
    w.formula? p = some tokens ↔ ∃ k, w.formulas.get? k = some ⟨p.sheet, .cell p.cell tokens⟩ := by
  simp only [formula?_eq, Option.map_eq_some_iff, FormulaStore.find?_eq_some_iff hw]
  constructor
  · rintro ⟨⟨sheet, body⟩, ⟨k, hk, hkey⟩, rfl⟩
    cases body with
    | cell d tokens =>
      cases hkey
      exact ⟨k, hk⟩
    | shared f => cases hkey
    | array f => cases hkey
  · rintro ⟨k, hk⟩
    exact ⟨_, ⟨k, hk, rfl⟩, rfl⟩

section
variable (hw : w.Reachable) (hs : e.sheet < w.sheets.size) (hcount : 1 ≤ e.count)
include hw hs hcount

lemma coherent_formulas_edit : (w.edit e).formulas.Coherent := by
  rw [edit_eq hs hcount]
  exact FormulaStore.coherent_edit hw.coherent w.links e

lemma formula?_edit_of_get? {f : Nat → Token → Token} {tokens : List Token}
    (hk : (w.edit e).formulas.get? k =
      some (e.moveRecord ((⟨e.sheet, .cell c tokens⟩ : FormulaRecord).mapTokens f)))
    (hc : e.cell? c = some c') :
    (w.edit e).formula? ⟨e.sheet, c'⟩ = some (e.movePlaceholder (tokens.mapIdx f)) := by
  refine (formula?_eq_some_iff (coherent_formulas_edit hw hs hcount)).mpr ⟨k, ?_⟩
  refine hk.trans (congrArg some ?_)
  show (⟨e.sheet, .cell ((e.cell? c).getD c) _⟩ : FormulaRecord) = _
  rw [hc]
  rfl

lemma anchor?_edit_of_get? {f : Nat → Token → Token} {tokens : List Token}
    (hf : KeepsPlaceholders f) (h : placeholderAnchor? tokens = some anchor)
    (hk : (w.edit e).formulas.get? k =
      some (e.moveRecord ((⟨e.sheet, .cell c tokens⟩ : FormulaRecord).mapTokens f)))
    (hc : e.cell? c = some c') : (w.edit e).anchor? ⟨e.sheet, c'⟩ =
      some ((e.cell? anchor).elim anchor Cell.truncated) := by
  rw [anchor?, formula?_edit_of_get? hw hs hcount hk hc]
  refine placeholderAnchor?_movePlaceholder ?_
  rwa [hf.placeholderAnchor?]

/-- A cell finds no group after an edit if none comes to the anchor that its placeholder names. -/
lemma bound?_edit_of_apart (h : (w.edit e).anchor? ⟨e.sheet, c'⟩ = some anchor)
    (hapart : ∀ k r, w.formulas.get? k = some r → r.sheet = e.sheet → e.keeps r.body →
      r.body.kind ≠ .cell → (e.moveRecord r).position ≠ anchor) :
    (w.edit e).bound? ⟨e.sheet, c'⟩ = some (.error (.structureNotFound e.sheet anchor)) := by
  refine bound?_of_free (coherent_formulas_edit hw hs hcount) h fun i d hd hplace => ?_
  rw [formulas_edit hs hcount] at hd
  obtain ⟨r, f, hr, -, ⟨hsheet, rfl⟩ | ⟨hsheet, hkept, rfl⟩⟩ :=
    FormulaStore.of_get?_edit hw.coherent hd
  · exact absurd (congrArg Place.sheet hplace) hsheet
  · have hkey := FormulaStore.key_moveRecord_mapTokens e r f
    refine (congrArg FormulaKey.kind hkey).trans (by_contra fun hkind => ?_)
    refine hapart i r hr hsheet hkept (fun h => hkind ?_) ?_
    · exact GridEdit.kind_moveBody.trans h
    · exact (congrArg (·.place.cell) hkey).symm.trans (congrArg Place.cell hplace)

variable (hm : w.formulas.Movable e)
include hm

lemma anchor?_edit (h : w.anchor? ⟨e.sheet, c⟩ = some anchor) (hc : e.cell? c = some c') :
    (w.edit e).anchor? ⟨e.sheet, c'⟩ = some ((e.cell? anchor).elim anchor Cell.truncated) := by
  obtain ⟨tokens, htokens, h⟩ := Option.bind_eq_some_iff.mp h
  obtain ⟨k, hk⟩ := (formula?_eq_some_iff hw.coherent).mp htokens
  have hkept : e.keeps (.cell c tokens) := Option.isSome_of_eq_some hc
  obtain ⟨f, hf, hk'⟩ := hm.exists_get?_edit hw.coherent w.links hk rfl hkept
  rw [← formulas_edit hs hcount] at hk'
  exact anchor?_edit_of_get? hw hs hcount hf h hk' hc

/-- An array block covers a moved cell if and only if it did before. -/
lemma isSome_blockOver?_edit (hanchor : e.axis.coordinate anchor < GridEdit.maxCoordinate)
    (hlt : e.axis.coordinate c < GridEdit.maxCoordinate) (hc : e.cell? c = some c')
    (ha : e.cell? anchor = some a) :
    ((w.edit e).blockOver? e.sheet a c').isSome ↔ (w.blockOver? e.sheet anchor c).isSome := by
  have hw' := coherent_formulas_edit hw hs hcount
  rw [isSome_blockOver?_iff hw', isSome_blockOver?_iff hw.coherent, edit_eq hs hcount]
  constructor
  · rintro ⟨k, r', hr', hkey, hmem⟩
    obtain ⟨r, hr, hmoves⟩ :=
      hm.of_get?_edit hw.coherent hr' (FormulaRecord.key_eq_iff.mp hkey).2.1
    have hkey := (hm.key_iff hr hmoves hanchor ha).mp hkey
    obtain ⟨hkind, hsheet, -⟩ := FormulaRecord.key_eq_iff.mp hkey
    exact ⟨k, r, hr, hkey, (hm.mem_extent_iff hr hmoves hsheet hkind hlt hc).mp hmem⟩
  · rintro ⟨k, r, hr, hkey, hmem⟩
    obtain ⟨hkind, hsheet, rfl⟩ := FormulaRecord.key_eq_iff.mp hkey
    obtain ⟨r', hr', hmoves⟩ := hm.get?_edit hw.coherent w.links hr hsheet
      (hw.anchored k r hr) (Option.isSome_of_eq_some ha)
    exact ⟨k, r', hr', (hm.key_iff hr hmoves hanchor ha).mpr hkey,
      (hm.mem_extent_iff hr hmoves hsheet hkind hlt hc).mpr hmem⟩

/-- The placeholder of a moved cell finds the group that it found before, where that has moved. -/
theorem group?_edit (hgroup : w.group? ⟨e.sheet, c⟩ = some k) (hr : w.formulas.get? k = some r)
    (hc : e.cell? c = some c') (ha : e.cell? r.position = some a) (hshort : a.Short) :
    (w.edit e).group? ⟨e.sheet, c'⟩ = some k ∧
      ∃ r', (w.edit e).formulas.get? k = some r' ∧ r.MovesTo e r' := by
  obtain ⟨anchor, r', hanchor, hr', hkey⟩ := (group?_eq_some_iff hw.coherent).mp hgroup
  obtain rfl := Option.some.inj (hr.symm.trans hr')
  obtain ⟨-, hsheet, rfl⟩ := FormulaRecord.key_eq_iff.mp hkey
  obtain ⟨r', hmoved, hmoves⟩ := hm.get?_edit hw.coherent w.links hr hsheet
    (hw.anchored k r hr) (Option.isSome_of_eq_some ha)
  have hposition := hm.position_lt k r hr hsheet
  have hlt : e.axis.coordinate c < GridEdit.maxCoordinate := by
    obtain ⟨tokens, htokens, -⟩ := Option.bind_eq_some_iff.mp hanchor
    obtain ⟨i, hi⟩ := (formula?_eq_some_iff hw.coherent).mp htokens
    exact hm.position_lt i _ hi rfl
  have hkind : (w.edit e).groupKey ⟨e.sheet, c'⟩ a =
      ⟨(w.groupKey ⟨e.sheet, c⟩ r.position).kind, ⟨e.sheet, a⟩⟩ := by
    unfold groupKey
    simp only [isSome_blockOver?_edit hw hs hcount hm hposition hlt hc ha]
  have hmoved' : (w.edit e).formulas.get? k = some r' := by
    rw [edit_eq hs hcount]
    exact hmoved
  have hanchor' : (w.edit e).anchor? ⟨e.sheet, c'⟩ = some a := by
    have h := anchor?_edit hw hs hcount hm hanchor hc
    rwa [ha, Option.elim_some, Cell.truncated_of_short hshort] at h
  refine ⟨(group?_eq_some_iff (coherent_formulas_edit hw hs hcount)).mpr ⟨a, r', hanchor',
    hmoved', ?_⟩, r', hmoved', hmoves⟩
  rw [hkind]
  exact (hm.key_iff hr hmoves hposition ha).mpr hkey

end

/-- A group whose anchor goes does so too. -/
lemma get?_edit_of_none (hw : w.Reachable) (hs : e.sheet < w.sheets.size) (hcount : 1 ≤ e.count)
    (hr : w.formulas.get? k = some r) (hsheet : r.sheet = e.sheet)
    (hgone : e.cell? r.position = none) : (w.edit e).formulas.get? k = none := by
  rw [edit_eq hs hcount]
  refine Option.eq_none_iff_forall_ne_some.mpr fun r' hr' => ?_
  obtain ⟨d, f, hd, -, ⟨hne, -⟩ | ⟨-, hkept, -⟩⟩ := FormulaStore.of_get?_edit hw.coherent hr'
  · rw [Option.some.inj (hd.symm.trans hr)] at hne
    exact hne hsheet
  · have hsome := GridEdit.isSome_of_keeps hkept
    rw [Option.some.inj (hd.symm.trans hr)] at hsome
    exact absurd hgone (Option.isSome_iff_ne_none.mp hsome)

/-- A cell that an edit leaves in the sheet keeps its group or block and comes to no other, provided
that the anchor is left there too and fits into a placeholder at its new place. A group that loses
its anchor is removed. -/
theorem bound?_edit_of_group (hw : w.Reachable) (hs : e.sheet < w.sheets.size)
    (hm : w.formulas.Movable e) {f : BoundFormula} (hf : w.bound? ⟨e.sheet, c⟩ = some (.ok f))
    (hgroup : ∀ tokens, f ≠ .plain tokens) (hc : e.cell? c = some c') :
    ∃ k r, w.group? ⟨e.sheet, c⟩ = some k ∧ w.formulas.get? k = some r ∧
      f = r.body.boundAt w.limits c ∧
      (∀ a, e.cell? r.position = some a → a.Short → ∃ r',
        (w.edit e).group? ⟨e.sheet, c'⟩ = some k ∧ (w.edit e).formulas.get? k = some r' ∧
        (r.MovesTo e r' ∨ e.count = 0 ∧ r' = r) ∧
        (w.edit e).bound? ⟨e.sheet, c'⟩ = some (.ok (r'.body.boundAt w.limits c'))) ∧
      (e.cell? r.position = none → 1 ≤ e.count → (w.edit e).formulas.get? k = none) := by
  obtain ⟨k, hk⟩ := exists_group? hw.coherent hf hgroup
  obtain ⟨anchor, r, -, hr, hkey⟩ := (group?_eq_some_iff hw.coherent).mp hk
  have hsheet : r.sheet = e.sheet := congrArg (·.place.sheet) hkey
  have hbound := bound?_of_group? hw.coherent hk hr
  refine ⟨k, r, hk, hr, Except.ok.inj (Option.some.inj (hf.symm.trans hbound)),
    fun a ha hshort => ?_, fun hgone hcount => get?_edit_of_none hw hs hcount hr hsheet hgone⟩
  rcases Nat.eq_zero_or_pos e.count with hcount | hcount
  · have hw' : w.edit e = w := if_pos (Or.inl hcount)
    obtain rfl := GridEdit.cell?_of_count_eq_zero hcount hc
    rw [hw']
    exact ⟨r, hk, hr, Or.inr ⟨hcount, rfl⟩, hbound⟩
  · obtain ⟨hk', r', hr', hmoves⟩ := group?_edit hw hs hcount hm hk hr hc ha hshort
    have hlimits : (w.edit e).limits = w.limits := by
      rw [edit_eq hs hcount]
      rfl
    refine ⟨r', hk', hr', Or.inl hmoves, ?_⟩
    rw [← hlimits]
    exact bound?_of_group? (coherent_formulas_edit hw hs hcount) hk' hr'

namespace GroupExample

lemma reachable_addSheet (settings : Settings) :
    ((empty settings).run [.addSheet "Sheet1"]).Reachable := ⟨_, _, rfl⟩

lemma get?_addSheet (settings : Settings) (k : Nat) :
    ((empty settings).run [.addSheet "Sheet1"]).formulas.get? k = none := by
  simp [apply, addSheet, empty, FormulaStore.empty, FormulaStore.get?]

/-- What is stored when a group is the first thing on a sheet. -/
lemma of_get?_firstGroup {settings : Settings} {range : CellRange} {d r : FormulaRecord} {k : Nat}
    (h : ((((empty settings).run [.addSheet "Sheet1"]).fillPlaceholders 0 range).insertRecord
      d).2.formulas.get? k = some r) :
    r = d ∨ ∃ c ∈ range, r = ⟨0, .cell c [placeholder range.start]⟩ := by
  rcases of_get?_insertGroup (reachable_addSheet settings).coherent h with rfl | ⟨c, hc, rfl⟩ | h
  · exact Or.inl rfl
  · exact Or.inr ⟨c, CellRange.mem_cells_iff.mp hc, rfl⟩
  · exact nomatch (get?_addSheet settings k).symm.trans h

/-- A sheet with a shared formula. -/
def sharedOver (settings : Settings) (range : CellRange) : Workbook :=
  (empty settings).run [.addSheet "Sheet1", .setShared 0 range [.int 1]]

section
variable (settings : Settings) {range : CellRange} {e : GridEdit} {c c' anchor : Cell}

lemma reachable_sharedOver (range : CellRange) : (sharedOver settings range).Reachable :=
  ⟨_, _, rfl⟩

lemma bound?_sharedOver (hshort : range.start.Short) (hc : c ∈ range) :
    (sharedOver settings range).bound? ⟨0, c⟩ = some (.ok (.shared [.int 1])) := by
  refine bound?_setShared_of_cells (reachable_addSheet settings).coherent (fun k r hr => ?_) 0
    [.int 1] hshort hc
  exact nomatch (get?_addSheet settings k).symm.trans hr

lemma group?_sharedOver (hshort : range.start.Short) (hc : c ∈ range) :
    ∃ k, (sharedOver settings range).group? ⟨0, c⟩ = some k ∧
      (sharedOver settings range).formulas.get? k =
        some ⟨0, .shared ⟨range.start, range, [.int 1]⟩⟩ := by
  have hw := reachable_sharedOver settings range
  obtain ⟨k, hk⟩ := exists_group? hw.coherent (bound?_sharedOver settings hshort hc) nofun
  obtain ⟨anchor, r, -, hr, hkey⟩ := (group?_eq_some_iff hw.coherent).mp hk
  rcases of_get?_firstGroup hr with rfl | ⟨d, -, rfl⟩
  · exact ⟨k, hk, hr⟩
  · exact absurd (congrArg FormulaKey.kind hkey).symm kind_groupKey_ne

lemma movable_sharedOver (hlast : e.last < GridEdit.maxCoordinate)
    (hlt : ∀ c ∈ range, e.axis.coordinate c < GridEdit.maxCoordinate) :
    (sharedOver settings range).formulas.Movable e := by
  refine ⟨hlast, fun k r hr _ => ?_, fun k r hr _ hkind => ?_⟩
  · rcases of_get?_firstGroup hr with rfl | ⟨c, hc, rfl⟩
    · exact hlt _ range.start_mem
    · exact hlt c hc
  · rcases of_get?_firstGroup hr with rfl | ⟨c, -, rfl⟩ <;> cases hkind

/-- A cell finds its group no more after an edit that leaves the wrong anchor in its placeholder. -/
lemma bound?_edit_sharedOver (he : e.sheet = 0) (hs : 0 < (sharedOver settings range).sheets.size)
    (hcount : 1 ≤ e.count) (hm : (sharedOver settings range).formulas.Movable e)
    (hshort : range.start.Short) (hc : c ∈ range) (hc' : e.cell? c = some c')
    (hanchor : (e.cell? range.start).elim range.start Cell.truncated = anchor)
    (hwrong : e.cell? range.start ≠ some anchor) :
    ((sharedOver settings range).edit e).bound? ⟨0, c'⟩ =
      some (.error (.structureNotFound 0 anchor)) := by
  have hw := reachable_sharedOver settings range
  have hbefore : (sharedOver settings range).anchor? ⟨e.sheet, c⟩ = some range.start := by
    rw [he]
    exact anchor?_insertGroup_of_short (reachable_addSheet settings).coherent hshort
      (by simp [FormulaBody.kind]) hc
  have hafter := anchor?_edit hw (he ▸ hs) hcount hm hbefore hc'
  rw [hanchor] at hafter
  have herror := bound?_edit_of_apart hw (he ▸ hs) hcount hafter fun k r hr hsheet hkept hkind => ?_
  · rwa [he] at herror
  · rcases of_get?_firstGroup hr with rfl | ⟨c, -, rfl⟩
    · exact fun hposition => hwrong
        ((hm.movesTo hr hsheet hkept fun _ t => t).position.trans (congrArg some hposition))
    · exact absurd rfl hkind

end

/-- A sheet with a shared formula in A1 and A2. -/
def shared : Workbook := (empty {}).run [.addSheet "Sheet1", .setShared 0 column [.int 1]]

def deleteFirst : GridEdit := .ofLimits 0 .rows .delete 0 1 {}

def insertFirst : GridEdit := .ofLimits 0 .rows .insert 0 1 {}

lemma movable_shared (change : GridChange) :
    shared.formulas.Movable (.ofLimits 0 .rows change 0 1 {}) := by
  refine movable_sharedOver {} (show 65535 < GridEdit.maxCoordinate by decide) fun c hc => ?_
  exact (by decide : ∀ c ∈ column.cells, c.row < GridEdit.maxCoordinate) c
    (CellRange.mem_cells hc)

/-- The deletion of the first row takes the group of A1 and A2 and leaves A2, now A1, behind. -/
theorem deleteFirst_orphans :
    shared.Reachable ∧ 0 < shared.sheets.size ∧
      shared.bound? ⟨0, ⟨1, 0⟩⟩ = some (.ok (.shared [.int 1])) ∧
      deleteFirst.cell? ⟨1, 0⟩ = some ⟨0, 0⟩ ∧
      (shared.edit deleteFirst).bound? ⟨0, ⟨0, 0⟩⟩ =
        some (.error (.structureNotFound 0 ⟨0, 0⟩)) := by
  have hshort : column.start.Short := by decide
  have hc : (⟨1, 0⟩ : Cell) ∈ column := by decide
  have hc' : deleteFirst.cell? ⟨1, 0⟩ = some ⟨0, 0⟩ := by decide
  refine ⟨reachable_sharedOver {} column, by decide, bound?_sharedOver {} hshort hc, hc', ?_⟩
  exact bound?_edit_sharedOver {} rfl (by decide) (by decide) (movable_shared .delete) hshort hc hc'
    (by decide) (by decide)

theorem bound?_edit_of_group_insertFirst :
    shared.Reachable ∧ insertFirst.sheet < shared.sheets.size ∧
      shared.formulas.Movable insertFirst ∧
      shared.bound? ⟨0, ⟨1, 0⟩⟩ = some (.ok (.shared [.int 1])) ∧
      insertFirst.cell? ⟨1, 0⟩ = some ⟨2, 0⟩ ∧
      ∃ k r', shared.group? ⟨0, ⟨1, 0⟩⟩ = some k ∧
        (shared.edit insertFirst).group? ⟨0, ⟨2, 0⟩⟩ = some k ∧
        (shared.edit insertFirst).formulas.get? k = some r' ∧ r'.position = ⟨1, 0⟩ ∧
        (shared.edit insertFirst).bound? ⟨0, ⟨2, 0⟩⟩ =
          some (.ok (r'.body.boundAt shared.limits ⟨2, 0⟩)) := by
  have hs : insertFirst.sheet < shared.sheets.size := by decide
  have hm : shared.formulas.Movable insertFirst := movable_shared .insert
  have hc : insertFirst.cell? ⟨1, 0⟩ = some ⟨2, 0⟩ := by decide
  have hw : shared.Reachable := reachable_sharedOver {} column
  have hbound : shared.bound? ⟨0, ⟨1, 0⟩⟩ = some (.ok (.shared [.int 1])) :=
    bound?_sharedOver {} (by decide) (by decide)
  refine ⟨hw, hs, hm, hbound, hc, ?_⟩
  obtain ⟨k, r, hk, hr, -, hstays, -⟩ := bound?_edit_of_group hw hs hm hbound nofun hc
  obtain ⟨k₀, hk₀, hr₀⟩ : ∃ k, shared.group? ⟨0, ⟨1, 0⟩⟩ = some k ∧ shared.formulas.get? k = _ :=
    group?_sharedOver {} (by decide) (by decide)
  obtain rfl : k₀ = k := Option.some.inj (hk₀.symm.trans hk)
  obtain rfl := Option.some.inj (hr₀.symm.trans hr)
  have ha : insertFirst.cell? ⟨0, 0⟩ = some ⟨1, 0⟩ := by decide
  obtain ⟨r', hk', hr', hmoves | ⟨hcount, -⟩, hbound⟩ := hstays ⟨1, 0⟩ ha (by decide)
  · exact ⟨k₀, r', hk, hk', hr', Option.some.inj (hmoves.position.symm.trans ha), hbound⟩
  · exact absurd hcount (by decide)

/-- The cells A65531 and A65532. -/
def lowColumn : CellRange := .ofCorners ⟨65530, 0⟩ ⟨65531, 0⟩

/-- A sheet with more rows than a placeholder can count, and a shared formula in some of the last
ones that it can. -/
def lowShared : Workbook :=
  (empty { limits := ⟨70000, 256⟩ }).run [.addSheet "Sheet1", .setShared 0 lowColumn [.int 1]]

def insertTen : GridEdit := .ofLimits 0 .rows .insert 0 10 ⟨70000, 256⟩

/-- An insertion that takes the anchor to a row which does not fit into a placeholder leaves the
cells of the group behind. -/
theorem insertTen_orphans :
    lowShared.Reachable ∧ 0 < lowShared.sheets.size ∧ lowShared.formulas.Movable insertTen ∧
      lowShared.bound? ⟨0, ⟨65531, 0⟩⟩ = some (.ok (.shared [.int 1])) ∧
      insertTen.cell? ⟨65531, 0⟩ = some ⟨65541, 0⟩ ∧
      insertTen.cell? ⟨65530, 0⟩ = some ⟨65540, 0⟩ ∧ ¬(⟨65540, 0⟩ : Cell).Short ∧
      (lowShared.edit insertTen).bound? ⟨0, ⟨65541, 0⟩⟩ =
        some (.error (.structureNotFound 0 ⟨4, 0⟩)) := by
  have hshort : lowColumn.start.Short := by decide
  have hc : (⟨65531, 0⟩ : Cell) ∈ lowColumn := by decide
  have hc' : insertTen.cell? ⟨65531, 0⟩ = some ⟨65541, 0⟩ := by decide
  have hm : lowShared.formulas.Movable insertTen := by
    refine movable_sharedOver _ (show 69999 < GridEdit.maxCoordinate by decide) fun c hc => ?_
    exact (by decide : ∀ c ∈ lowColumn.cells, c.row < GridEdit.maxCoordinate) c
      (CellRange.mem_cells hc)
  refine ⟨reachable_sharedOver _ lowColumn, by decide, hm, bound?_sharedOver _ hshort hc, hc',
    by decide, by decide, ?_⟩
  exact bound?_edit_sharedOver _ rfl (by decide) (by decide) hm hshort hc hc' (by decide)
    (by decide)

/-- The cells KO1 and KP1, which are not on the grid. -/
def beyond : CellRange := .ofCorners ⟨0, 300⟩ ⟨0, 301⟩

/-- A sheet with an array block beyond the grid. -/
def blockBeyond : Workbook := (empty {}).run [.addSheet "Sheet1", .setArray 0 beyond [.int 1]]

def insertBetween : GridEdit := .ofLimits 0 .cols .insert 301 1 {}

lemma reachable_blockBeyond : blockBeyond.Reachable := ⟨_, _, rfl⟩

/-- The first cell of the block stays where it is, and so does what its placeholder names. -/
lemma anchor?_edit_blockBeyond :
    (blockBeyond.edit insertBetween).anchor? ⟨0, ⟨0, 300⟩⟩ = some ⟨0, 300⟩ := by
  have hempty := reachable_addSheet {}
  have hw := reachable_blockBeyond
  have hc : insertBetween.cell? ⟨0, 300⟩ = some ⟨0, 300⟩ := by decide
  have hanchor : blockBeyond.anchor? ⟨0, ⟨0, 300⟩⟩ = some ⟨0, 300⟩ :=
    anchor?_insertGroup_of_short hempty.coherent (by decide) (by simp [FormulaBody.kind])
      (by decide)
  obtain ⟨tokens, htokens, hplaceholder⟩ := Option.bind_eq_some_iff.mp hanchor
  obtain ⟨k, hk⟩ := (formula?_eq_some_iff hw.coherent).mp htokens
  have hother : ∀ a d, a ≠ k → blockBeyond.formulas.get? a = some d → d.sheet = 0 →
      insertBetween.keeps d.body →
        (insertBetween.moveRecord d).key ≠ ⟨.cell, ⟨0, ⟨0, 300⟩⟩⟩ := by
    intro a d hne hd _ hkept hkey
    rcases of_get?_firstGroup hd with rfl | ⟨c, hmem, rfl⟩
    · cases hkey
    · rcases (by decide : ∀ c ∈ beyond.cells, c = ⟨0, 300⟩ ∨ insertBetween.cell? c = none) c
        (CellRange.mem_cells hmem) with rfl | hgone
      · exact hne (hw.coherent.key_inj hd hk rfl)
      · exact absurd (GridEdit.isSome_of_keeps hkept) (by simp [FormulaBody.position, hgone])
  obtain ⟨f, hf, hk'⟩ := FormulaStore.exists_get?_edit_of_apart hw.coherent blockBeyond.links hk rfl
    (Option.isSome_of_eq_some hc) hother fun a d hne hd hsheet hkept hkey =>
      absurd hkey (hother a d hne hd hsheet hkept)
  have hs : insertBetween.sheet < blockBeyond.sheets.size := by decide
  have hcount : 1 ≤ insertBetween.count := by decide
  rw [← formulas_edit hs hcount] at hk'
  exact anchor?_edit_of_get? hw hs hcount hf hplaceholder hk' hc

/-- An insertion inside a block beyond the grid takes its range back to the edge, away from the cell
that stays where the block was anchored. -/
theorem insertBetween_orphans :
    blockBeyond.Reachable ∧ 0 < blockBeyond.sheets.size ∧
      ¬blockBeyond.formulas.Movable insertBetween ∧
      blockBeyond.bound? ⟨0, ⟨0, 300⟩⟩ = some (.ok (.array ⟨beyond, [.int 1]⟩)) ∧
      insertBetween.cell? ⟨0, 300⟩ = some ⟨0, 300⟩ ∧ (⟨0, 300⟩ : Cell).Short ∧
      (blockBeyond.edit insertBetween).bound? ⟨0, ⟨0, 300⟩⟩ =
        some (.error (.structureNotFound 0 ⟨0, 300⟩)) := by
  have hempty := reachable_addSheet {}
  have hw := reachable_blockBeyond
  have hs : insertBetween.sheet < blockBeyond.sheets.size := by decide
  refine ⟨hw, hs, fun hm => ?_, bound?_setArray hempty.coherent (by decide) (by decide), by decide,
    by decide, ?_⟩
  · obtain ⟨k, hk, -⟩ := (FormulaStore.find?_eq_some_iff hw.coherent).mp
      ((FormulaStore.arrayAt?_eq_some_iff hw.coherent).mp (arrayAt?_setArray hempty.coherent))
    exact absurd (hm.block_le k _ hk rfl rfl) (by decide)
  · refine bound?_edit_of_apart hw hs (by decide) anchor?_edit_blockBeyond
      fun a d hd _ _ hkind => ?_
    rcases of_get?_firstGroup hd with rfl | ⟨c, -, rfl⟩
    · decide
    · exact absurd rfl hkind

/-- The cells A1, A2 and A3. -/
def top : CellRange := .ofCorners ⟨0, 0⟩ ⟨2, 0⟩

/-- A sheet with a formula in the greatest row that there can be. -/
def lastRow : Workbook :=
  (empty {}).run [.addSheet "Sheet1", .setFormula ⟨0, ⟨4294967295, 0⟩⟩ [.int 7]]

/-- The same sheet with a shared formula as well. -/
def topShared : Workbook := lastRow.run [.setShared 0 top [.int 1]]

/-- All rows from the sixth on, and two more, which do not exist. -/
def deleteRest : GridEdit := .ofLimits 0 .rows .delete 5 4294967293 {}

lemma reachable_lastRow : lastRow.Reachable := ⟨_, _, rfl⟩

lemma reachable_topShared : topShared.Reachable :=
  reachable_lastRow.apply (.setShared 0 top [.int 1])

lemma of_get?_lastRow {k : Nat} {r : FormulaRecord} (h : lastRow.formulas.get? k = some r) :
    r = ⟨0, .cell ⟨4294967295, 0⟩ [.int 7]⟩ := by
  rcases of_get?_insertRecord (reachable_addSheet {}).coherent h with rfl | h
  · rfl
  · exact nomatch (get?_addSheet {} k).symm.trans h

lemma exists_get?_topShared : ∃ k, topShared.formulas.get? k =
    some ⟨0, .cell ⟨4294967295, 0⟩ [.int 7]⟩ := by
  have hbefore : lastRow.formula? ⟨0, ⟨4294967295, 0⟩⟩ = some [.int 7] :=
    (formula?_setFormula (reachable_addSheet {}).coherent _ _ _).trans (if_pos rfl)
  have hformula : topShared.formula? ⟨0, ⟨4294967295, 0⟩⟩ = _ :=
    (filled_fillPlaceholders reachable_lastRow.coherent 0 top).formula?_insertRecord
      (by simp [FormulaBody.kind]) ⟨4294967295, 0⟩
  rw [if_neg (by decide), hbefore] at hformula
  exact (formula?_eq_some_iff reachable_topShared.coherent).mp hformula

/-- A deletion that ends behind the greatest row takes the formula there for one behind the deleted
rows, and moves it onto a cell of a group that it leaves in place. -/
theorem deleteRest_displaces :
    topShared.Reachable ∧ 0 < topShared.sheets.size ∧ ¬topShared.formulas.Movable deleteRest ∧
      topShared.bound? ⟨0, ⟨2, 0⟩⟩ = some (.ok (.shared [.int 1])) ∧
      deleteRest.cell? ⟨2, 0⟩ = some ⟨2, 0⟩ ∧ deleteRest.cell? ⟨0, 0⟩ = some ⟨0, 0⟩ ∧
      ∃ tokens, (topShared.edit deleteRest).bound? ⟨0, ⟨2, 0⟩⟩ = some (.ok (.plain tokens)) := by
  have hw := reachable_topShared
  have hs : deleteRest.sheet < topShared.sheets.size := by decide
  have hcount : 1 ≤ deleteRest.count := by decide
  have hescapes : deleteRest.cell? ⟨4294967295, 0⟩ = some ⟨2, 0⟩ := by decide
  obtain ⟨k, hk⟩ := exists_get?_topShared
  refine ⟨hw, hs, fun hm => ?_, ?_, by decide, by decide, ?_⟩
  · exact absurd (hm.position_lt k _ hk rfl) (by decide)
  · refine bound?_setShared_of_cells reachable_lastRow.coherent (fun k r hr => ?_) 0 [.int 1]
      (by decide) (by decide)
    rw [of_get?_lastRow hr]
    rfl
  have hother : ∀ a d, a ≠ k → topShared.formulas.get? a = some d →
      d.position.row < 5 ∧ (deleteRest.moveRecord d).position.row < 5 := by
    intro a d hne hd
    rcases of_get?_insertGroup reachable_lastRow.coherent hd with rfl | ⟨c, hc, rfl⟩ | hd'
    · decide
    · exact (by decide : ∀ c ∈ top.cells, c.row < 5 ∧ ((deleteRest.cell? c).getD c).row < 5) c hc
    · obtain rfl := of_get?_lastRow hd'
      exact absurd (hw.coherent.key_inj hd hk rfl) hne
  have hmoved := FormulaStore.exists_get?_edit_of_apart hw.coherent topShared.links hk rfl
    (Option.isSome_of_eq_some hescapes) (fun a d hne hd _ _ hkey => ?_)
    fun a d hne hd _ _ _ => Nat.lt_trans (hother a d hne hd).1 (by decide)
  · obtain ⟨f, hf, hk'⟩ := hmoved
    rw [← formulas_edit hs hcount] at hk'
    refine ⟨_, bound?_of_formula? (formula?_edit_of_get? hw hs hcount hk' hescapes)
      (placeholderAnchor?_movePlaceholder_of_none ?_)⟩
    rw [hf.placeholderAnchor?]
    rfl
  · have hrow := (hother a d hne hd).2
    rw [show (deleteRest.moveRecord d).position = _ from congrArg (·.place.cell) hkey] at hrow
    exact absurd hrow (by decide)

end GroupExample

end Workbook

end Spreadsheet
