import Spreadsheet.Proofs.EditTokens
import Spreadsheet.Proofs.Moves

/-!
What an edit makes of the stored formulas.

After the tokens have changed, the formulas that lose their place go, and the others on the edited
sheet move. They move in such an order that none comes to a place that is still taken.
-/

namespace Spreadsheet

lemma mapIdx_const {α β : Type} (f : α → β) (xs : List α) :
    xs.mapIdx (fun _ x => f x) = xs.map f :=
  List.ext_getElem? fun i => by rw [List.getElem?_mapIdx, List.getElem?_map]

lemma FormulaRecord.mapTokens_map (r : FormulaRecord) (f : Token → Token) :
    r.mapTokens (fun _ t => f t) = { r with body := r.body.withTokens (r.tokens.map f) } := by
  rw [mapTokens, mapIdx_const]

namespace GridEdit

variable {e : GridEdit} {limits : Limits} {r : FormulaRecord}

lemma movePlaceholder_of_onGrid {tokens : List Token} (h : ∀ t ∈ tokens, t.OnGrid limits) :
    e.movePlaceholder tokens = tokens := by
  unfold movePlaceholder
  split
  · exact (h _ List.mem_cons_self).elim
  · rfl

lemma keeps_of_onGrid (hr : r.OnGrid limits) : e.keeps r.body = (e.cell? r.position).isSome := by
  obtain ⟨sheet, body⟩ := r
  have hkind := hr.kind
  cases body <;> simp [FormulaBody.kind] at hkind
  rfl

lemma moveRecord_of_onGrid (hr : r.OnGrid limits) {c : Cell} (hc : e.cell? r.position = some c) :
    e.moveRecord r = { r with body := .cell c r.tokens } := by
  obtain ⟨sheet, body⟩ := r
  have hkind := hr.kind
  cases body <;> simp [FormulaBody.kind] at hkind
  have htokens := movePlaceholder_of_onGrid (e := e) hr.tokens
  simp only [FormulaRecord.position, FormulaBody.position] at hc
  simp only [FormulaRecord.tokens, FormulaBody.tokens] at htokens
  simp [moveRecord, moveBody, hc, htokens, FormulaRecord.tokens, FormulaBody.tokens]

end GridEdit

namespace FormulaStore

variable {s : FormulaStore} {links : SheetLinks} {limits : Limits} {e : GridEdit}

lemma removed_dropDeleted (hs : s.Coherent) (e : GridEdit) :
    Removed s (s.dropDeleted e)
      ((s.toList.filter fun x => x.2.sheet == e.sheet && !e.keeps x.2.body).map Prod.fst) := by
  have heq : s.dropDeleted e =
      ((s.toList.filter fun x => x.2.sheet == e.sheet && !e.keeps x.2.body).map Prod.fst).foldl
        remove s := by
    rw [List.foldl_map]
    rfl
  rw [heq]
  exact removed_foldl hs _

lemma get?_dropDeleted (hs : s.Coherent) (e : GridEdit) (k : Nat) :
    (s.dropDeleted e).get? k =
      (s.get? k).filter fun r => !(r.sheet == e.sheet && !e.keeps r.body) := by
  rw [(removed_dropDeleted hs e).get?]
  have hmem : k ∈ (s.toList.filter fun x => x.2.sheet == e.sheet && !e.keeps x.2.body).map
      Prod.fst ↔ ∃ r, s.get? k = some r ∧ (r.sheet == e.sheet && !e.keeps r.body) = true := by
    simp only [List.mem_map, List.mem_filter, Prod.exists, mem_toList]
    constructor
    · rintro ⟨id, r, ⟨hr, hc⟩, rfl⟩
      exact ⟨r, hr, hc⟩
    · rintro ⟨r, hr, hc⟩
      exact ⟨k, r, ⟨hr, hc⟩, rfl⟩
  rcases hr : s.get? k with _ | r
  · simp
  · rw [Option.filter_some, ← ite_not]
    refine if_congr ?_ rfl rfl
    rw [hmem, hr]
    simp [imp_iff_not_or]

/-! ### The order of moves -/

/-- The formulas on the edited sheet, the ones at the front first. -/
def frontFirst (s : FormulaStore) (e : GridEdit) : List Nat :=
  ((s.toList.filter fun x => x.2.sheet == e.sheet).mergeSort fun x y =>
    e.axis.coordinate x.2.position ≤ e.axis.coordinate y.2.position).map Prod.fst

lemma movingOrder_eq (s : FormulaStore) (e : GridEdit) : s.movingOrder e =
    if e.change = .insert then (s.frontFirst e).reverse else s.frontFirst e := rfl

lemma mem_frontFirst {id : Nat} :
    id ∈ s.frontFirst e ↔ ∃ r, s.get? id = some r ∧ r.sheet = e.sheet := by
  simp only [frontFirst, List.mem_map, List.mem_mergeSort, List.mem_filter, Prod.exists,
    mem_toList, beq_iff_eq]
  constructor
  · rintro ⟨k, r, ⟨hr, hsheet⟩, rfl⟩
    exact ⟨r, hr, hsheet⟩
  · rintro ⟨r, hr, hsheet⟩
    exact ⟨id, r, ⟨hr, hsheet⟩, rfl⟩

lemma nodup_frontFirst (s : FormulaStore) (e : GridEdit) : (s.frontFirst e).Nodup := by
  have hids : ((s.toList.filter fun x => x.2.sheet == e.sheet).map Prod.fst).Nodup :=
    List.pairwise_map.mpr ((s.pairwise_toList.filter _).imp Nat.ne_of_lt)
  exact ((List.mergeSort_perm _ _).map Prod.fst).nodup_iff.mpr hids

lemma pairwise_frontFirst (s : FormulaStore) (e : GridEdit) :
    (s.frontFirst e).Pairwise fun a b => ∀ ra rb, s.get? a = some ra → s.get? b = some rb →
      e.axis.coordinate ra.position ≤ e.axis.coordinate rb.position := by
  refine List.pairwise_map.mpr ((List.pairwise_mergeSort ?_ ?_ _).imp_of_mem ?_)
  · intro x y z hxy hyz
    simp only [decide_eq_true_eq] at hxy hyz ⊢
    omega
  · intro x y
    simp only [Bool.or_eq_true, decide_eq_true_eq]
    omega
  · intro x y hx hy hle ra rb hra hrb
    have hx' := mem_toList.mp (List.mem_filter.mp (List.mem_mergeSort.mp hx)).1
    have hy' := mem_toList.mp (List.mem_filter.mp (List.mem_mergeSort.mp hy)).1
    obtain rfl := Option.some.inj (hx'.symm.trans hra)
    obtain rfl := Option.some.inj (hy'.symm.trans hrb)
    simpa using hle

lemma mem_movingOrder {id : Nat} :
    id ∈ s.movingOrder e ↔ ∃ r, s.get? id = some r ∧ r.sheet = e.sheet := by
  rw [movingOrder_eq]
  split_ifs
  · rw [List.mem_reverse, mem_frontFirst]
  · exact mem_frontFirst

lemma nodup_movingOrder (s : FormulaStore) (e : GridEdit) : (s.movingOrder e).Nodup := by
  rw [movingOrder_eq]
  split_ifs
  · exact List.pairwise_reverse.mpr ((s.nodup_frontFirst e).imp Ne.symm)
  · exact s.nodup_frontFirst e

/-- Formulas that move toward the end do so from the end, and the other way round. -/
lemma pairwise_movingOrder (s : FormulaStore) (e : GridEdit) :
    (s.movingOrder e).Pairwise fun a b => ∀ ra rb, s.get? a = some ra → s.get? b = some rb →
      if e.change = .insert then e.axis.coordinate rb.position ≤ e.axis.coordinate ra.position
      else e.axis.coordinate ra.position ≤ e.axis.coordinate rb.position := by
  rw [movingOrder_eq]
  split_ifs with hc
  · refine List.pairwise_reverse.mpr ((s.pairwise_frontFirst e).imp fun h ra rb hra hrb => ?_)
    exact h rb ra hrb hra
  · exact s.pairwise_frontFirst e

/-! ### Moves without displacement -/

/-- Each formula on the edited sheet moves to the new place of its own. -/
structure Placed (e : GridEdit) (s : FormulaStore) : Prop where
  lt : ∀ k r, s.get? k = some r → r.sheet = e.sheet →
    e.axis.coordinate r.position < GridEdit.maxCoordinate
  key : ∀ k r, s.get? k = some r → r.sheet = e.sheet → ∃ c, e.cell? r.position = some c ∧
    (e.moveRecord r).key = ⟨r.body.kind, ⟨e.sheet, c⟩⟩

theorem Placed.clear (h : s.Placed e) (hs : s.Coherent) :
    s.Clear e.moveRecord (s.movingOrder e) := by
  have hon : ∀ {k r}, s.get? k = some r → k ∈ s.movingOrder e → r.sheet = e.sheet := by
    intro k r hr hk
    obtain ⟨r', hr', hsheet⟩ := mem_movingOrder.mp hk
    rwa [Option.some.inj (hr.symm.trans hr')]
  have hsame : ∀ {a b ra rb}, s.get? a = some ra → s.get? b = some rb → ra.sheet = e.sheet →
      rb.sheet = e.sheet → ra.body.kind = rb.body.kind → ra.position = rb.position → a = b := by
    intro a b ra rb hra hrb hsa hsb hkind hpos
    refine hs.key_inj hra hrb ?_
    rw [FormulaRecord.key, FormulaRecord.key, FormulaRecord.place, FormulaRecord.place, hkind, hpos,
      hsa, hsb]
  refine ⟨s.nodup_movingOrder e, ?_, ?_, ?_⟩
  · have horder := (s.pairwise_movingOrder e).and (s.nodup_movingOrder e)
    refine horder.imp_of_mem fun {a b} ha hb hab ra rb hra hrb htaken => ?_
    obtain ⟨c, hc, hkc⟩ := h.key a ra hra (hon hra ha)
    rw [hkc] at htaken
    obtain ⟨hkind, hplace⟩ := FormulaKey.mk.inj htaken
    obtain rfl : rb.position = c := (Place.mk.inj hplace).2
    have hpos := GridEdit.cell?_eq_of_le hc (hab.1 ra rb hra hrb)
    exact hab.2 (hsame hra hrb (hon hra ha) (hon hrb hb) hkind.symm hpos)
  · intro a ha b hb ra rb hra hrb htaken
    obtain ⟨c, -, hkc⟩ := h.key a ra hra (hon hra ha)
    rw [hkc] at htaken
    exact hb (mem_movingOrder.mpr ⟨rb, hrb, congrArg (·.place.sheet) htaken⟩)
  · intro a ha b hb hne ra rb hra hrb htaken
    obtain ⟨c, hc, hkc⟩ := h.key a ra hra (hon hra ha)
    obtain ⟨d, hd, hkd⟩ := h.key b rb hrb (hon hrb hb)
    rw [hkc, hkd] at htaken
    obtain ⟨hkind, hplace⟩ := FormulaKey.mk.inj htaken
    obtain rfl : d = c := (Place.mk.inj hplace).2
    have hpos := GridEdit.cell?_inj_of_lt (h.lt a ra hra (hon hra ha)) (h.lt b rb hrb (hon hrb hb))
      hc hd
    exact hne (hsame hra hrb (hon hra ha) (hon hrb hb) hkind.symm hpos)

theorem Placed.get?_moveRecords (h : s.Placed e) (hs : s.Coherent) (links : SheetLinks) (k : Nat) :
    (s.moveRecords links e).get? k =
      (s.get? k).map fun r => if r.sheet = e.sheet then e.moveRecord r else r := by
  refine ((h.clear hs).moved_foldl hs links).get? k |>.trans ?_
  rcases hr : s.get? k with _ | r
  · simp
  · by_cases hsheet : r.sheet = e.sheet
    · have hmem : k ∈ s.movingOrder e := mem_movingOrder.mpr ⟨r, hr, hsheet⟩
      simp [hmem, hsheet]
    · have hmem : k ∉ s.movingOrder e := by
        intro hk
        obtain ⟨r', hr', hsheet'⟩ := mem_movingOrder.mp hk
        obtain rfl := Option.some.inj (hr.symm.trans hr')
        exact hsheet hsheet'
      simp [hmem, hsheet]

end FormulaStore

/-! ### All steps of an edit -/

namespace GridEdit

/-- What the scan makes of a formula. It goes if its cell does. -/
def scanRecord (e : GridEdit) (links : SheetLinks) (r : FormulaRecord) :
    Option FormulaRecord :=
  let tokens := r.tokens.map (e.scanToken links r.sheet)
  if r.sheet = e.sheet then (e.cell? r.position).map fun c => { r with body := .cell c tokens }
  else some { r with body := r.body.withTokens tokens }

/-- What the edit makes of a formula. It goes if its cell does. -/
def editRecord (e : GridEdit) (limits : Limits) (links : SheetLinks) (r : FormulaRecord) :
    Option FormulaRecord :=
  let tokens := r.tokens.map (e.editToken limits links r.sheet)
  if r.sheet = e.sheet then (e.cell? r.position).map fun c => { r with body := .cell c tokens }
  else some { r with body := r.body.withTokens tokens }

variable {e : GridEdit} {limits : Limits} {links : SheetLinks} {r : FormulaRecord}

lemma editRecord_of_eq (h : r.sheet = e.sheet) : e.editRecord limits links r =
    (e.cell? r.position).map fun c =>
      { r with body := .cell c (r.tokens.map (e.editToken limits links r.sheet)) } := if_pos h

lemma editRecord_of_ne (h : r.sheet ≠ e.sheet) : e.editRecord limits links r =
    some { r with body := r.body.withTokens (r.tokens.map (e.editToken limits links r.sheet)) } :=
  if_neg h

lemma onGrid_editToken {t : Token} (he : e.Suits limits) (ht : t.OnGrid limits)
    (links : SheetLinks) (own : Nat) : (e.editToken limits links own t).OnGrid limits := by
  unfold editToken
  split_ifs
  · exact onGrid_moveToken he ht
  · exact ht

lemma plain_scanToken {t : Token} (he : e.Fits limits) (ht : t.Plain limits) (links : SheetLinks)
    (own : Nat) : (e.scanToken links own t).Plain limits := by
  unfold scanToken
  split_ifs
  · exact plain_moveToken he.suits ht
  · exact ht

/-- A formula keeps its kind, its cell stays on the grid, and its tokens are those of before in
their new form. -/
lemma of_editRecord (he : e.Suits limits) (hr : r.OnGrid limits) {r' : FormulaRecord}
    (h : e.editRecord limits links r = some r') : r'.body.kind = .cell ∧ limits.Holds r'.position ∧
      r'.tokens = r.tokens.map (e.editToken limits links r.sheet) := by
  by_cases hsheet : r.sheet = e.sheet
  · rw [editRecord_of_eq hsheet] at h
    obtain ⟨c, hc, rfl⟩ := Option.map_eq_some_iff.mp h
    exact ⟨rfl, holds_cell? he hr.holds hc, rfl⟩
  · rw [editRecord_of_ne hsheet] at h
    cases h
    exact ⟨(r.body.kind_withTokens _).trans hr.kind,
      by simpa [FormulaRecord.position] using hr.holds, by simp [FormulaRecord.tokens]⟩

lemma onGrid_editRecord (he : e.Suits limits) (hr : r.OnGrid limits) {r' : FormulaRecord}
    (h : e.editRecord limits links r = some r') : r'.OnGrid limits := by
  obtain ⟨hkind, hholds, htokens⟩ := of_editRecord he hr h
  refine ⟨hkind, hholds, fun t ht => ?_⟩
  rw [htokens] at ht
  obtain ⟨u, hu, rfl⟩ := List.mem_map.mp ht
  exact onGrid_editToken he (hr.tokens u hu) links r.sheet

lemma editRecord_eq_scanRecord (he : e.Fits limits) (hr : r.Plain limits) :
    e.editRecord limits links r = e.scanRecord links r := by
  have htokens : r.tokens.map (e.editToken limits links r.sheet) =
      r.tokens.map (e.scanToken links r.sheet) :=
    List.map_congr_left fun t ht => editToken_eq_scanToken he (hr.tokens t ht)
  unfold editRecord scanRecord
  rw [htokens]

end GridEdit

lemma FormulaRecord.OnGrid.mapTokens {r : FormulaRecord} {limits : Limits} (hr : r.OnGrid limits)
    {f : Token → Token} (hf : ∀ t, t.OnGrid limits → (f t).OnGrid limits) :
    (r.mapTokens fun _ t => f t).OnGrid limits := by
  refine ⟨by simpa using hr.kind, by simpa using hr.holds, fun t ht => ?_⟩
  rw [FormulaRecord.tokens_mapTokens, mapIdx_const] at ht
  obtain ⟨u, hu, rfl⟩ := List.mem_map.mp ht
  exact hf u (hr.tokens u hu)

namespace FormulaStore

variable {s : FormulaStore} {links : SheetLinks} {limits : Limits} {e : GridEdit}

/-- The formulas after the tokens have changed and the deleted ones have gone. -/
lemma OnGrid.get?_dropDeleted (hs : s.OnGrid limits links) (he : e.Suits limits) (k : Nat) :
    (((s.moveObserved links e).moveWholeAreas links e).dropDeleted e).get? k =
      ((s.get? k).map fun r => r.mapTokens fun _ t => e.editToken limits links r.sheet t).filter
        fun r => r.sheet != e.sheet || (e.cell? r.position).isSome := by
  have hmoved := replaced_moveWholeAreas
    (replaced_moveObserved hs.agrees.coherent links e).coherent links e
  rw [FormulaStore.get?_dropDeleted hmoved.coherent, hs.get?_moveTokens he]
  rcases hr : s.get? k with _ | r
  · rfl
  have hgrid := (hs.records k r hr).mapTokens fun t ht =>
    GridEdit.onGrid_editToken he ht links r.sheet
  rw [Option.map_some, Option.filter_some, Option.filter_some, GridEdit.keeps_of_onGrid hgrid]
  simp [bne]

/-- No formula on the edited sheet is left that has no new place. -/
lemma OnGrid.placed_dropDeleted (hs : s.OnGrid limits links) (he : e.Suits limits) :
    (((s.moveObserved links e).moveWholeAreas links e).dropDeleted e).Placed e := by
  have hof : ∀ k r, (((s.moveObserved links e).moveWholeAreas links e).dropDeleted e).get? k =
      some r → r.sheet = e.sheet → r.OnGrid limits ∧ (e.cell? r.position).isSome := by
    intro k r hr hsheet
    rw [hs.get?_dropDeleted he] at hr
    obtain ⟨hr, hkept⟩ := Option.filter_eq_some_iff.mp hr
    obtain ⟨r₀, hr₀, rfl⟩ := Option.map_eq_some_iff.mp hr
    refine ⟨(hs.records k r₀ hr₀).mapTokens fun t ht =>
      GridEdit.onGrid_editToken he ht links r₀.sheet, ?_⟩
    simpa [show r₀.sheet = e.sheet from hsheet] using hkept
  refine ⟨fun k r hr hsheet => ?_, fun k r hr hsheet => ?_⟩
  · exact Nat.lt_of_le_of_lt (he.coordinate_le (hof k r hr hsheet).1.holds) he.last_lt
  · obtain ⟨hgrid, hkept⟩ := hof k r hr hsheet
    obtain ⟨c, hc⟩ := Option.isSome_iff_exists.mp hkept
    refine ⟨c, hc, ?_⟩
    rw [GridEdit.moveRecord_of_onGrid hgrid hc, ← hsheet, hgrid.kind]
    rfl

/-- **What an edit makes of each formula.** -/
theorem OnGrid.get?_edit (hs : s.OnGrid limits links) (he : e.Suits limits) (k : Nat) :
    (s.edit links e).get? k = (s.get? k).bind (e.editRecord limits links) := by
  have hmoved := replaced_moveWholeAreas
    (replaced_moveObserved hs.agrees.coherent links e).coherent links e
  have hdropped := removed_dropDeleted hmoved.coherent e
  refine ((hs.placed_dropDeleted he).get?_moveRecords hdropped.coherent links k).trans ?_
  rw [hs.get?_dropDeleted he]
  rcases hr : s.get? k with _ | r
  · rfl
  have hgrid := (hs.records k r hr).mapTokens fun t ht =>
    GridEdit.onGrid_editToken he ht links r.sheet
  have hmap := r.mapTokens_map (e.editToken limits links r.sheet)
  rw [Option.map_some, Option.filter_some, Option.bind_some]
  by_cases hsheet : r.sheet = e.sheet
  · rw [GridEdit.editRecord_of_eq hsheet]
    rcases hc : e.cell? r.position with _ | c
    · simp [hsheet, hc]
    · have hmove := GridEdit.moveRecord_of_onGrid hgrid (by simpa using hc)
      rw [FormulaRecord.tokens_mapTokens, mapIdx_const] at hmove
      simp only [hsheet, hc, bne_self_eq_false, FormulaRecord.position_mapTokens,
        FormulaRecord.sheet_mapTokens, Option.isSome_some, Bool.or_true, if_true, Option.map_some]
      rw [← hsheet, hmove]
      rfl
  · rw [GridEdit.editRecord_of_ne hsheet]
    simp [hsheet, hmap]

/-- An edit leaves a store on the grid. -/
theorem OnGrid.edit (hs : s.OnGrid limits links) (he : e.Suits limits) :
    (s.edit links e).OnGrid limits links := by
  refine ⟨hs.agrees.edit (fun _ _ => rfl) e, fun k r' hr' => ?_⟩
  rw [hs.get?_edit he] at hr'
  obtain ⟨r, hr, hr'⟩ := Option.bind_eq_some_iff.mp hr'
  exact GridEdit.onGrid_editRecord he (hs.records k r hr) hr'

/-- In a plain store the edit does what the scan does. -/
theorem Plain.get?_edit (hs : s.Plain limits links) (he : e.Fits limits) (k : Nat) :
    (s.edit links e).get? k = (s.get? k).bind (e.scanRecord links) := by
  rw [hs.onGrid.get?_edit he.suits]
  rcases hr : s.get? k with _ | r
  · rfl
  · exact GridEdit.editRecord_eq_scanRecord he (hs.records k r hr)

/-- An edit leaves a store plain. -/
theorem Plain.edit (hs : s.Plain limits links) (he : e.Fits limits) :
    (s.edit links e).Plain limits links := by
  refine ⟨hs.agrees.edit (fun _ _ => rfl) e, fun k r' hr' => ?_⟩
  rw [hs.onGrid.get?_edit he.suits] at hr'
  obtain ⟨r, hr, hr'⟩ := Option.bind_eq_some_iff.mp hr'
  have hplain := hs.records k r hr
  obtain ⟨hkind, hholds, htokens⟩ := GridEdit.of_editRecord he.suits hplain.onGrid hr'
  refine ⟨hkind, hholds, fun t ht => ?_⟩
  rw [htokens] at ht
  obtain ⟨u, hu, rfl⟩ := List.mem_map.mp ht
  rw [GridEdit.editToken_eq_scanToken he (hplain.tokens u hu)]
  exact GridEdit.plain_scanToken he (hplain.tokens u hu) links r.sheet

end FormulaStore

end Spreadsheet
