import Mathlib.Tactic.Set
import Spreadsheet.Proofs.OrdinaryWorkbook

/-!
Edits at one place, one after the other.

Two insertions at a place are one insertion of as many rows or columns as both together, and two
deletions are one deletion. This holds of coordinates and intervals, hence of cells and areas. An
area that comes to cover the whole axis in the first step stays as it is in the second one; had both
been made at once, its end would have been cut off at the edge of the grid.

Which tokens an edit finds depends on its place only. A token that has got a new form is found again
or stays before the edited place, so that the search does not stand in the way of the law.
-/

namespace Spreadsheet

namespace GridEdit

/-! ### Two edits at one place -/

/-- The second edit is one at the place of the first. -/
structure SamePlace (e e' : GridEdit) : Prop where
  sheet : e'.sheet = e.sheet
  axis : e'.axis = e.axis
  start : e'.start = e.start
  last : e'.last = e.last

variable {e e' : GridEdit} {limits : Limits} {links : SheetLinks} {own : Nat} {t : Token}

lemma SamePlace.finds (h : e.SamePlace e') (t : Token) : e'.finds limits t = e.finds limits t := by
  unfold GridEdit.finds region
  rw [h.axis, h.start]

lemma SamePlace.suits (h : e.SamePlace e') (he : e.Suits limits) : e'.Suits limits :=
  ⟨h.last.trans (he.last_eq.trans (by rw [h.axis])), he.rows_lt, he.cols_lt⟩

lemma isWhole_single_congr {c c' : Cell} (hc : limits.Holds c) (hc' : limits.Holds c') :
    (CellRange.single c).isWhole limits = (CellRange.single c').isWhole limits := by
  obtain ⟨hrow, hcol⟩ := hc
  obtain ⟨hrow', hcol'⟩ := hc'
  rw [Bool.eq_iff_iff]
  simp only [CellRange.isWhole, CellRange.hasAllRows, CellRange.hasAllCols, Bool.or_eq_true,
    Bool.and_eq_true, decide_eq_true_eq]
  dsimp only [CellRange.single]
  omega

/-- A token that changes has its corners in order afterwards. -/
lemma moveToken_eq_or_plain (he : e.Suits limits) (ht : t.OnGrid limits) :
    e.moveToken t = t ∨ (e.moveToken t).Plain limits := by
  cases t with
  | area _ a | area3d _ _ a =>
    rcases ha : e.area? a with _ | a' <;> simp only [moveToken, ha]
    · exact Or.inr trivial
    · rcases area?_eq_some ha with rfl | ⟨r', hr', rfl⟩
      · exact Or.inl rfl
      · exact Or.inr (plain_withCells (holds_range? he (AreaAddress.OnGrid.holds_stop ht) hr'))
  | ref _ a | ref3d _ _ a =>
    rcases ha : e.address? a with _ | a' <;> simp only [moveToken, ha]
    · exact Or.inr trivial
    · exact Or.inr (holds_address? he ht ha)
  | _ => exact Or.inl rfl

/-- A token with a new form is not recorded only if it was not before. -/
lemma isWhole_range?_moveToken (he : e.Suits limits) (ht : t.OnGrid limits) {r r' : CellRange}
    (hr : t.range? = some r) (hr' : (e.moveToken t).range? = some r')
    (hwhole : r.isWhole limits = false ∨ t.isWholeArea limits)
    (hkeep : (e.moveToken t).isWholeArea limits = false) : r'.isWhole limits = false := by
  cases t with
  | area _ a | area3d _ _ a =>
    rcases ha : e.area? a with _ | a' <;> simp only [moveToken, ha] at hr' hkeep
    · cases hr'
    · cases hr'
      exact hkeep
  | ref _ a | ref3d _ _ a =>
    rcases ha : e.address? a with _ | a' <;> simp only [moveToken, ha] at hr'
    · cases hr'
    · cases hr
      cases hr'
      rw [← isWhole_single_congr ht (holds_address? he ht ha)]
      exact hwhole.resolve_right (by simp [Token.isWholeArea])
  | _ => cases hr

/-- A token with a new form is found by an edit at the same place, or stays as it is. -/
lemma SamePlace.moveToken_of_not_finds (h : e.SamePlace e') (he : e.Suits limits)
    (ht : t.OnGrid limits) (hfound : e.finds limits t)
    (hmissed : ¬e'.finds limits (e.moveToken t)) :
    e'.moveToken (e.moveToken t) = e.moveToken t := by
  rcases moveToken_eq_or_plain he ht with hsame | hplain
  · rw [hsame, h.finds] at hmissed
    exact absurd hfound hmissed
  rcases hr' : (e.moveToken t).range? with _ | r'
  · exact moveToken_of_range?_eq_none hr'
  rcases hr : t.range? with _ | r
  · rw [moveToken_of_range?_eq_none hr, hr] at hr'
    cases hr'
  obtain ⟨hkeep, hmeets⟩ := not_or.mp (finds_iff.not.mp hmissed)
  have hwhole : r.isWhole limits = false ∨ t.isWholeArea limits := by
    rcases finds_iff.mp hfound with hw | ⟨_, hr₀, hw, -⟩
    · exact Or.inr hw
    · cases hr.symm.trans hr₀
      exact Or.inl hw
  have hwhole' := isWhole_range?_moveToken he ht hr hr' hwhole (by simpa using hkeep)
  refine moveToken_of_lt hplain hr' (lt_start_of_region (hplain.onGrid.holds_stop hr') ?_)
  by_contra hc
  exact hmeets ⟨r', hr', hwhole', Bool.of_not_eq_false hc⟩

/-- A token with a new form refers to the same sheet as before, or to nothing. -/
lemma observedSheet?_moveToken (own : Nat) (links : SheetLinks) (e : GridEdit) (t : Token) :
    (e.moveToken t).observedSheet? own links = t.observedSheet? own links ∨
      (e.moveToken t).range? = none := by
  unfold moveToken
  split <;> first | exact Or.inl rfl | (split <;> first | exact Or.inl rfl | exact Or.inr rfl)

/-- A token that an edit finds, an edit at the same place gives its next form. -/
lemma SamePlace.editToken_moveToken (h : e.SamePlace e') (he : e.Suits limits)
    (ht : t.OnGrid limits) (hsheet : t.observedSheet? own links = some e.sheet)
    (hfound : e.finds limits t) :
    e'.editToken limits links own (e.moveToken t) = e'.moveToken (e.moveToken t) := by
  unfold editToken
  split_ifs with hc
  · rfl
  · rcases observedSheet?_moveToken own links e t with hsheet' | hnone
    · rw [h.moveToken_of_not_finds he ht hfound fun hf =>
        hc ⟨hsheet'.trans (hsheet.trans (by rw [h.sheet])), hf⟩]
    · exact (moveToken_of_range?_eq_none hnone).symm

/-- What two edits at one place make of a token. -/
lemma SamePlace.editToken_editToken (h : e.SamePlace e') (he : e.Suits limits)
    (ht : t.OnGrid limits) : e'.editToken limits links own (e.editToken limits links own t) =
      if t.observedSheet? own links = some e.sheet ∧ e.finds limits t
      then e'.moveToken (e.moveToken t) else t := by
  split_ifs with hfound
  · have hfirst : e.editToken limits links own t = e.moveToken t := if_pos hfound
    rw [hfirst, h.editToken_moveToken he ht hfound.1 hfound.2]
  · have hfirst : e.editToken limits links own t = t := if_neg hfound
    rw [hfirst]
    exact if_neg (by rwa [h.sheet, h.finds])

/-- What a token of a name becomes. Only a reference through a link can mean the edited sheet. -/
def moveLinked (e : GridEdit) (links : SheetLinks) (t : Token) : Token :=
  if t.link?.bind links.localSheet? = some e.sheet then e.moveToken t else t

lemma scanName_eq_map (e : GridEdit) (links : SheetLinks) (n : DefinedName) :
    e.scanName links n = { n with body := n.body.map (e.moveLinked links) } := rfl

lemma link?_moveToken (e : GridEdit) (t : Token) :
    (e.moveToken t).link? = t.link? ∨ (e.moveToken t).range? = none := by
  unfold moveToken
  split <;> first | exact Or.inl rfl | (split <;> first | exact Or.inl rfl | exact Or.inr rfl)

/-- What two edits of one sheet make of a token of a name. -/
lemma moveLinked_moveLinked (hsheet : e'.sheet = e.sheet) (t : Token) :
    e'.moveLinked links (e.moveLinked links t) =
      if t.link?.bind links.localSheet? = some e.sheet then e'.moveToken (e.moveToken t)
      else t := by
  unfold moveLinked
  rw [hsheet]
  by_cases hc : t.link?.bind links.localSheet? = some e.sheet
  · simp only [hc, if_true]
    split_ifs with hc'
    · rfl
    · rcases e.link?_moveToken t with hlink | hnone
      · exact absurd (hlink ▸ hc) hc'
      · exact (moveToken_of_range?_eq_none hnone).symm
  · simp only [hc, if_false]

/-! ### Coordinates and intervals -/

variable {n m i lo hi lo' hi' : Nat} {c : Cell}

/-- An interval comes to cover the whole axis when an insertion inside it takes its end there. -/
lemma span?_eq_whole (hlast : e.last < maxCoordinate) (hle : lo ≤ hi) (hhi : hi ≤ e.last)
    (hpart : ¬(lo = 0 ∧ e.last ≤ hi)) (h : e.span? lo hi = some (0, hi')) (hwhole : e.last ≤ hi') :
    e.change = .insert ∧ lo = 0 ∧ 0 < e.start ∧ e.start ≤ hi ∧ e.last ≤ hi + e.count ∧
      hi' = e.last := by
  cases hc : e.change with
  | insert =>
    rw [span?_insert hc] at h
    obtain ⟨k, hk, h⟩ := Option.map_eq_some_iff.mp h
    obtain ⟨hk0, hend⟩ := Prod.mk.inj h
    have hlo : lo ≤ k := le_index? hc hk
    have hmoved : e.start ≤ lo → k = lo + e.count := by
      intro hs
      rw [index?_insert hc hs] at hk
      exact (Option.some.inj (Option.ite_none_right_eq_some.mp hk).2).symm
    refine ⟨rfl, ?_⟩
    split_ifs at hend <;> omega
  | delete =>
    rw [span?_delete hc hle (by omega)] at h
    split_ifs at h <;> simp only [Option.some.injEq, Prod.mk.injEq] at h <;> omega

lemma span?_whole (hc : e.change = .insert) (hstart : 0 < e.start) (hle : e.start ≤ e.last) :
    e.span? 0 e.last = some (0, e.last) := by
  rw [span?_insert hc, index?_of_lt hstart, Option.map_some, if_neg (by omega),
    Nat.min_eq_right (by omega)]

lemma spansAxis_iff {r : CellRange} : e.spansAxis r ↔
    e.axis.coordinate r.start = 0 ∧ e.last ≤ e.axis.coordinate r.stop := by
  simp [spansAxis]

/-- A range comes to cover the whole axis when an insertion inside it takes its end there. -/
lemma spansAxis_range? {r r' : CellRange} (hlast : e.last < maxCoordinate)
    (hr : e.axis.coordinate r.stop ≤ e.last) (hpart : ¬e.spansAxis r) (h : e.range? r = some r')
    (hwhole : e.spansAxis r') : e.change = .insert ∧ e.axis.coordinate r.start = 0 ∧
      0 < e.start ∧ e.start ≤ e.axis.coordinate r.stop ∧
      e.last ≤ e.axis.coordinate r.stop + e.count ∧ e.axis.coordinate r'.start = 0 ∧
      e.axis.coordinate r'.stop = e.last := by
  obtain ⟨lo, hi, hspan, hstart, hstop⟩ := range?_eq_some_of_le hlast hr h
  rw [spansAxis_iff] at hpart hwhole
  rw [hstart, hstop, coordinate_withCoordinate, coordinate_withCoordinate] at hwhole
  obtain ⟨rfl, hwhole⟩ := hwhole
  obtain ⟨hc, hlo, hpos, hle, hend, rfl⟩ :=
    span?_eq_whole hlast (coordinate_start_le e.axis r) hr hpart hspan hwhole
  rw [hstart, hstop, coordinate_withCoordinate, coordinate_withCoordinate]
  exact ⟨hc, hlo, hpos, hle, hend, rfl, rfl⟩

/-- A range over the whole axis stays one when something is inserted in it. -/
lemma range?_whole {r : CellRange} (hc : e.change = .insert) (hstart : 0 < e.start)
    (hle : e.start ≤ e.last) (hlo : e.axis.coordinate r.start = 0)
    (hhi : e.axis.coordinate r.stop = e.last) : e.range? r = some r := by
  rw [range?_eq_map, hlo, hhi, span?_whole hc hstart hle, Option.map_some, ← hlo, ← hhi,
    withCoordinate_coordinate, withCoordinate_coordinate, ofCorners_start_stop]

variable {a : AreaAddress}

lemma area?_of_spansAxis (h : e.spansAxis a.range) : e.area? a = some a := if_pos h

lemma area?_of_not_spansAxis (h : ¬e.spansAxis a.range) : e.area? a =
    (e.range? a.range).map fun r => ⟨a.first.withCell r.start, a.last.withCell r.stop⟩ := if_neg h

/-! ### Counts add up -/

/-- The edit with another count. -/
def withCount (e : GridEdit) (n : Nat) : GridEdit := { e with count := n }

lemma Suits.withCount (he : e.Suits limits) (n : Nat) : (e.withCount n).Suits limits :=
  ⟨he.last_eq, he.rows_lt, he.cols_lt⟩

lemma samePlace_withCount (e : GridEdit) (n m : Nat) : (e.withCount n).SamePlace (e.withCount m) :=
  ⟨rfl, rfl, rfl, rfl⟩

lemma index?_add (hi : i < maxCoordinate) :
    ((e.withCount n).index? i).bind (e.withCount m).index? = (e.withCount (n + m)).index? i := by
  have hlt : ∀ k, i < e.start → (e.withCount k).index? i = some i := fun k h => index?_of_lt h
  rcases Nat.lt_or_ge i e.start with hs | hs
  · rw [hlt n hs, hlt _ hs, Option.bind_some, hlt m hs]
  cases hc : e.change with
  | insert =>
    have hmove : ∀ k j, e.start ≤ j → (e.withCount k).index? j =
        if j + k ≤ e.last then some (j + k) else none := fun k j hj => index?_insert hc hj
    rw [hmove n i hs, hmove _ i hs]
    split_ifs with hn hnm hnm
    · rw [Option.bind_some, hmove m _ (by omega), if_pos (by omega), Nat.add_assoc]
    · rw [Option.bind_some, hmove m _ (by omega), if_neg (by omega)]
    · omega
    · rfl
  | delete =>
    have hmove : ∀ k j, e.start ≤ j → j < maxCoordinate → (e.withCount k).index? j =
        if e.start + k ≤ j then some (j - k) else none := fun k j hj hlt => index?_delete hc hj hlt
    rw [hmove n i hs hi, hmove _ i hs hi]
    split_ifs with hn hnm hnm
    · rw [Option.bind_some, hmove m _ (by omega) (by omega), if_pos (by omega), Nat.sub_sub]
    · rw [Option.bind_some, hmove m _ (by omega) (by omega), if_neg (by omega)]
    · omega
    · rfl

lemma span?_add (hlast : e.last < maxCoordinate) (hle : lo ≤ hi) (hhi : hi ≤ e.last) :
    (((e.withCount n).span? lo hi).bind fun x => (e.withCount m).span? x.1 x.2) =
      (e.withCount (n + m)).span? lo hi := by
  cases hc : e.change with
  | insert =>
    have hspan : ∀ k lo hi, (e.withCount k).span? lo hi =
        ((e.withCount k).index? lo).map fun lo =>
          (lo, if hi < e.start then hi else min (hi + k) e.last) := fun k lo hi => span?_insert hc
    rw [hspan n, hspan (n + m), ← index?_add (n := n) (m := m) (show lo < maxCoordinate by omega)]
    rcases (e.withCount n).index? lo with _ | lo'
    · rfl
    rw [Option.map_some, Option.bind_some, Option.bind_some, hspan m]
    congr 1
    funext lo''
    split_ifs <;> simp <;> omega
  | delete =>
    have hspan : ∀ k lo hi, lo ≤ hi → hi < maxCoordinate → (e.withCount k).span? lo hi =
        if hi < e.start then some (lo, hi)
        else if e.start + k ≤ hi then
          some (if lo < e.start then lo else max (lo - k) e.start, hi - k)
        else if lo < e.start then some (lo, e.start - 1) else none :=
      fun k lo hi hle hlt => span?_delete hc hle hlt
    rw [hspan n lo hi hle (by omega), hspan (n + m) lo hi hle (by omega)]
    rcases Nat.lt_or_ge hi e.start with hs | hs
    · rw [if_pos hs, if_pos hs, Option.bind_some, hspan m lo hi hle (by omega), if_pos hs]
    have hge := Nat.not_lt.mpr hs
    rw [if_neg hge, if_neg hge]
    by_cases hn : e.start + n ≤ hi
    · rw [if_pos hn, Option.bind_some, hspan m _ _ (by split_ifs <;> omega) (by omega)]
      rw [if_neg (show ¬hi - n < e.start by omega)]
      by_cases hnm : e.start + (n + m) ≤ hi
      · rw [if_pos (show e.start + m ≤ hi - n by omega), if_pos hnm, Option.some.injEq,
          Prod.mk.injEq]
        exact ⟨by split_ifs <;> omega, by omega⟩
      · rw [if_neg (show ¬e.start + m ≤ hi - n by omega), if_neg hnm]
        by_cases hlo : lo < e.start
        · simp only [hlo, if_true]
        · rw [if_neg hlo, if_neg hlo, if_neg (by omega)]
    · rw [if_neg hn, if_neg (show ¬e.start + (n + m) ≤ hi by omega)]
      split_ifs with hlo
      · rw [Option.bind_some, hspan m _ _ (by omega) (by omega), if_pos (by omega)]
      · rfl


lemma cell?_add (hc : e.axis.coordinate c < maxCoordinate) :
    ((e.withCount n).cell? c).bind (e.withCount m).cell? = (e.withCount (n + m)).cell? c := by
  have hcell : ∀ k c, (e.withCount k).cell? c =
      ((e.withCount k).index? (e.axis.coordinate c)).map (e.axis.withCoordinate c) :=
    fun _ _ => rfl
  rw [hcell n, hcell (n + m), ← index?_add hc]
  rcases (e.withCount n).index? (e.axis.coordinate c) with _ | i
  · rfl
  · rw [Option.map_some, Option.bind_some, Option.bind_some, hcell m, coordinate_withCoordinate,
      withCoordinate_eta]

lemma range?_add {r : CellRange} (hlast : e.last < maxCoordinate)
    (hr : e.axis.coordinate r.stop ≤ e.last) :
    ((e.withCount n).range? r).bind (e.withCount m).range? = (e.withCount (n + m)).range? r := by
  have hrange : ∀ k r, (e.withCount k).range? r =
      ((e.withCount k).span? (e.axis.coordinate r.start) (e.axis.coordinate r.stop)).map fun x =>
        .ofCorners (e.axis.withCoordinate r.start x.1) (e.axis.withCoordinate r.stop x.2) :=
    fun k r => (e.withCount k).range?_eq_map r
  rcases hr' : (e.withCount n).range? r with _ | r'
  · rw [hrange n, Option.map_eq_none_iff] at hr'
    rw [hrange (n + m), ← span?_add hlast (coordinate_start_le e.axis r) hr, hr']
    rfl
  · obtain ⟨lo, hi, hspan, hstart, hstop⟩ :=
      range?_eq_some_of_le (e := e.withCount n) hlast hr hr'
    dsimp only [withCount] at hstart hstop
    rw [Option.bind_some, hrange m, hrange (n + m),
      ← span?_add hlast (coordinate_start_le e.axis r) hr]
    have hspan' : (e.withCount n).span? (e.axis.coordinate r.start) (e.axis.coordinate r.stop) =
        some (lo, hi) := hspan
    rw [hspan', Option.bind_some, hstart, hstop]
    simp only [coordinate_withCoordinate, withCoordinate_withCoordinate]

lemma area?_add (he : e.Suits limits) (ha : a.OnGrid limits) :
    ((e.withCount n).area? a).bind (e.withCount m).area? = (e.withCount (n + m)).area? a := by
  by_cases hspans : e.spansAxis a.range
  · have hkeep : ∀ k, (e.withCount k).area? a = some a := fun k => area?_of_spansAxis hspans
    rw [hkeep n, hkeep (n + m), Option.bind_some, hkeep m]
  have harea : ∀ k, (e.withCount k).area? a = ((e.withCount k).range? a.range).map fun r =>
      ⟨a.first.withCell r.start, a.last.withCell r.stop⟩ := fun k => area?_of_not_spansAxis hspans
  have hstop := he.coordinate_le ha.holds_stop
  rw [harea n, harea (n + m), ← range?_add he.last_lt hstop]
  rcases hr' : (e.withCount n).range? a.range with _ | r'
  · rfl
  rw [Option.map_some, Option.bind_some, Option.bind_some]
  by_cases hwhole : e.spansAxis r'
  · -- the second edit leaves the area as it is, and its end would not have gone further
    obtain ⟨hc, -, hpos, hle, -, hlo, hhi⟩ :=
      spansAxis_range? (e := e.withCount n) he.last_lt hstop hspans hr' hwhole
    have hrange : (e.withCount m).range? r' = some r' :=
      range?_whole hc hpos (Nat.le_trans hle hstop) hlo hhi
    rw [hrange, area?_of_spansAxis]
    · rfl
    · rwa [range_withCells]
  · rw [area?_of_not_spansAxis (by rwa [range_withCells]), range_withCells]
    rfl

lemma address?_add {a : Address} (he : e.Suits limits) (ha : limits.Holds a.cell) :
    ((e.withCount n).address? a).bind (e.withCount m).address? =
      (e.withCount (n + m)).address? a := by
  have hlt := Nat.lt_of_le_of_lt (he.coordinate_le ha) he.last_lt
  unfold address?
  rw [← cell?_add hlt]
  rcases (e.withCount n).cell? a.cell with _ | c
  · rfl
  · rfl

/-- **Two edits of one kind at one place add up**, in what they make of a token. -/
theorem moveToken_add (he : e.Suits limits) (ht : t.OnGrid limits) (n m : Nat) :
    (e.withCount m).moveToken ((e.withCount n).moveToken t) =
      (e.withCount (n + m)).moveToken t := by
  cases t with
  | ref _ a | ref3d _ _ a =>
    have hadd := address?_add (n := n) (m := m) he ht
    rcases hn : (e.withCount n).address? a with _ | a' <;> rw [hn] at hadd
    · simp only [moveToken, hn, ← hadd, Option.bind_none]
    · simp only [moveToken, hn, ← hadd, Option.bind_some]
  | area _ a | area3d _ _ a =>
    have hadd := area?_add (n := n) (m := m) he ht
    rcases hn : (e.withCount n).area? a with _ | a' <;> rw [hn] at hadd
    · simp only [moveToken, hn, ← hadd, Option.bind_none]
    · simp only [moveToken, hn, ← hadd, Option.bind_some]
  | _ => rfl

lemma editToken_add (he : e.Suits limits) (ht : t.OnGrid limits) (n m : Nat) :
    (e.withCount m).editToken limits links own ((e.withCount n).editToken limits links own t) =
      (e.withCount (n + m)).editToken limits links own t := by
  rw [(samePlace_withCount e n m).editToken_editToken (he.withCount n) ht, moveToken_add he ht]
  rfl

lemma editRecord_add {r : FormulaRecord} (he : e.Suits limits) (hr : r.OnGrid limits) (n m : Nat) :
    ((e.withCount n).editRecord limits links r).bind ((e.withCount m).editRecord limits links) =
      (e.withCount (n + m)).editRecord limits links r := by
  have htokens : (r.tokens.map ((e.withCount n).editToken limits links r.sheet)).map
      ((e.withCount m).editToken limits links r.sheet) =
        r.tokens.map ((e.withCount (n + m)).editToken limits links r.sheet) := by
    rw [List.map_map]
    exact List.map_congr_left fun t ht => editToken_add he (hr.tokens t ht) n m
  by_cases hsheet : r.sheet = e.sheet
  · have hlt := Nat.lt_of_le_of_lt (he.coordinate_le hr.holds) he.last_lt
    rw [editRecord_of_eq (e := e.withCount n) hsheet,
      editRecord_of_eq (e := e.withCount (n + m)) hsheet, ← cell?_add hlt, ← htokens]
    rcases (e.withCount n).cell? r.position with _ | c
    · rfl
    · exact editRecord_of_eq (e := e.withCount m) hsheet
  · rw [editRecord_of_ne (e := e.withCount n) hsheet,
      editRecord_of_ne (e := e.withCount (n + m)) hsheet, Option.bind_some, ← htokens]
    refine (editRecord_of_ne (e := e.withCount m) (by exact hsheet)).trans ?_
    simp [FormulaRecord.tokens]

lemma moveLinked_add (he : e.Suits limits) (ht : t.link?.isSome → t.OnGrid limits) (n m : Nat) :
    (e.withCount m).moveLinked links ((e.withCount n).moveLinked links t) =
      (e.withCount (n + m)).moveLinked links t := by
  have hsheet : (e.withCount m).sheet = (e.withCount n).sheet := rfl
  refine (moveLinked_moveLinked hsheet t).trans ?_
  refine ite_congr rfl (fun hc => ?_) fun _ => rfl
  obtain ⟨link, hl, -⟩ := Option.bind_eq_some_iff.mp hc
  exact moveToken_add he (ht (by simp [hl])) n m

end GridEdit

namespace Workbook

lemma Alike.refl (w : Workbook) : w.Alike w :=
  ⟨fun _ => rfl, fun _ => rfl, fun _ => rfl, fun _ => rfl, rfl, fun _ => rfl, rfl, rfl, rfl⟩

section
variable {w : Workbook} {e : GridEdit}

/-- A constant comes to its place in two steps or in one. -/
lemma constant?_edit_add (he : e.Suits w.limits) (hs : e.sheet < w.sheets.size)
    (hgrid : ∀ p v, w.constant? p = some v → w.limits.Holds p.cell) {n m : Nat} (hn : 1 ≤ n)
    (hm : 1 ≤ m) (p : Place) : ((w.edit (e.withCount n)).edit (e.withCount m)).constant? p =
      (w.edit (e.withCount (n + m))).constant? p := by
  have hs' : e.sheet < (w.edit (e.withCount n)).sheets.size := by rwa [size_sheets_edit]
  have hsum : 1 ≤ n + m := by omega
  obtain ⟨sheet, q⟩ := p
  by_cases hp : sheet = e.sheet
  swap
  · rw [constant?_edit_of_ne (e := e.withCount m) hs' hm hp,
      constant?_edit_of_ne (e := e.withCount n) hs hn hp,
      constant?_edit_of_ne (e := e.withCount (n + m)) hs hsum hp]
  subst hp
  have hone : ∀ k, 1 ≤ k → ∀ q v, (w.edit (e.withCount k)).constant? ⟨e.sheet, q⟩ = some v ↔
      ∃ p, (e.withCount k).cell? p = some q ∧ w.constant? ⟨e.sheet, p⟩ = some v :=
    fun k hk => constant?_edit (he.withCount k) hs hk hgrid
  have htwo : ∀ v, ((w.edit (e.withCount n)).edit (e.withCount m)).constant? ⟨e.sheet, q⟩ =
      some v ↔ ∃ p, (e.withCount m).cell? p = some q ∧
        (w.edit (e.withCount n)).constant? ⟨e.sheet, p⟩ = some v :=
    constant?_edit (e := e.withCount m) (limits_edit (w := w) ▸ he.withCount m) hs' hm
      (fun p v hv => limits_edit (w := w) ▸ holds_constant?_edit (he.withCount n) hs hn hgrid hv) q
  refine Option.ext fun v => ?_
  rw [htwo, hone _ hsum]
  simp only [hone n hn]
  have hcell : ∀ p, w.constant? ⟨e.sheet, p⟩ = some v → ((e.withCount (n + m)).cell? p = some q ↔
      ∃ q', (e.withCount n).cell? p = some q' ∧ (e.withCount m).cell? q' = some q) := by
    intro p hv
    have hle : e.axis.coordinate p ≤ e.last := he.coordinate_le (hgrid ⟨e.sheet, p⟩ v hv)
    rw [← GridEdit.cell?_add (Nat.lt_of_le_of_lt hle he.last_lt), Option.bind_eq_some_iff]
  constructor
  · rintro ⟨q', hq', p, hp, hv⟩
    exact ⟨p, (hcell p hv).mpr ⟨q', hp, hq'⟩, hv⟩
  · rintro ⟨p, hp, hv⟩
    obtain ⟨q', hp, hq'⟩ := (hcell p hv).mp hp
    exact ⟨q', hq', p, hp, hv⟩

end

/-- **Edits at one place add up.** To insert `n` and then `m` rows or columns at a place gives the
workbook that inserting `n + m` gives, and to delete `n` and then `m` the one that deleting `n + m`
gives: the same constants, formulas, names and recorded areas. -/
theorem edit_add {w : Workbook} (hw : w.Ordinary) (sheet : Nat) (axis : Axis) (change : GridChange)
    (start n m : Nat) :
    (w.edit (.ofLimits sheet axis change start (n + m) w.limits)).Alike
      ((w.edit (.ofLimits sheet axis change start n w.limits)).edit
        (.ofLimits sheet axis change start m w.limits)) := by
  set e := GridEdit.ofLimits sheet axis change start 0 w.limits
  have he : e.Suits w.limits := hw.suits sheet axis change start 0
  show (w.edit (e.withCount (n + m))).Alike ((w.edit (e.withCount n)).edit (e.withCount m))
  have hsize := size_sheets_edit (w := w) (e := e.withCount n)
  rcases Nat.lt_or_ge e.sheet w.sheets.size with hs | hs
  swap
  · rw [edit_of_idle (e := e.withCount n) (Or.inr hs),
      edit_of_idle (e := e.withCount m) (Or.inr hs),
      edit_of_idle (e := e.withCount (n + m)) (Or.inr hs)]
    exact Alike.refl w
  rcases Nat.eq_zero_or_pos n with rfl | hn
  · rw [edit_of_idle (e := e.withCount 0) (Or.inl rfl), Nat.zero_add]
    exact Alike.refl _
  rcases Nat.eq_zero_or_pos m with rfl | hm
  · rw [edit_of_idle (e := e.withCount 0) (Or.inl rfl), Nat.add_zero]
    exact Alike.refl _
  have hs' : e.sheet < (w.edit (e.withCount n)).sheets.size := by rwa [hsize]
  have hsum : 1 ≤ n + m := by omega
  have hone : (w.edit (e.withCount (n + m))).formulas.OnGrid w.limits w.links := by
    rw [formulas_edit (e := e.withCount (n + m)) hs hsum]
    exact hw.store.edit (he.withCount (n + m))
  have hformulas : ((w.edit (e.withCount n)).edit (e.withCount m)).formulas =
      (w.formulas.edit w.links (e.withCount n)).edit w.links (e.withCount m) := by
    rw [formulas_edit (e := e.withCount m) hs' hm, formulas_edit (e := e.withCount n) hs hn,
      links_edit]
  have htwo : ((w.edit (e.withCount n)).edit (e.withCount m)).formulas.OnGrid w.limits w.links := by
    rw [hformulas]
    exact (hw.store.edit (he.withCount n)).edit (he.withCount m)
  have hget : ∀ id, ((w.edit (e.withCount n)).edit (e.withCount m)).formulas.get? id =
      (w.edit (e.withCount (n + m))).formulas.get? id := by
    intro id
    rw [hformulas, (hw.store.edit (he.withCount n)).get?_edit (he.withCount m),
      hw.store.get?_edit (he.withCount n), formulas_edit (e := e.withCount (n + m)) hs hsum,
      hw.store.get?_edit (he.withCount (n + m))]
    rcases hr : w.formulas.get? id with _ | r
    · rfl
    · exact GridEdit.editRecord_add he (hw.formulas id r hr) n m
  refine ⟨constant?_edit_add he hs hw.constants hn hm, hget,
    hone.cellFormula?_congr htwo fun id => by rw [hget], hone.area?_congr htwo hget, ?_,
    fun i => ?_, ?_, ?_, ?_⟩
  · rw [names_edit (e := e.withCount m) hs' hm, names_edit (e := e.withCount n) hs hn,
      names_edit (e := e.withCount (n + m)) hs hsum, links_edit, Array.map_map]
    refine Array.map_congr_left fun d hd => ?_
    simp only [Function.comp_apply, GridEdit.scanName_eq_map, List.map_map]
    congr 1
    exact List.map_congr_left fun t ht => GridEdit.moveLinked_add he (hw.names d hd t ht) n m
  · simp only [sheetName?_edit]
  · simp only [links_edit]
  · simp only [linkedNames_edit]
  · simp only [settings_edit]

/-- Two rows and then one more are deleted inside an area and in front of a cell that is referred to
through a link. -/
theorem edit_add_deletion :
    let w := ((empty {}).run [.addSheet "Data", .addLink (.span 0 0)]).run
      [.setFormula ⟨0, ⟨0, 0⟩⟩ [.area .reference ⟨⟨9, 1, true, true⟩, ⟨2, 1, true, true⟩⟩,
        .ref3d .value 0 ⟨8, 1, true, true⟩, .binary .add],
        .setValue ⟨0, ⟨8, 1⟩⟩ (.scalar (.bool true))]
    w.Ordinary ∧ (w.edit (.ofLimits 0 .rows .delete 3 (2 + 1) w.limits)).Alike
      ((w.edit (.ofLimits 0 .rows .delete 3 2 w.limits)).edit
        (.ofLimits 0 .rows .delete 3 1 w.limits)) := by
  intro w
  have hw : w.Ordinary := ordinary_of_filling (by decide) (by decide) (by decide) (by decide)
    (by decide) (by decide)
  exact ⟨hw, edit_add hw 0 .rows .delete 3 2 1⟩

end Workbook

end Spreadsheet
