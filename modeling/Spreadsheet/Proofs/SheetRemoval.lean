import Mathlib.Data.List.Forall2
import Mathlib.Data.List.Sort
import Spreadsheet.Proofs.LateLink

/-!
What the removal of a sheet does to the formulas of the other sheets.

The formulas of the later sheets move to the sheet in front, one after the other in the order of
their numbers. A formula that comes to a place where one of its kind still waits displaces it. So a
formula is lost if and only if the one behind it, at the same place of the next sheet, has a lower
number and is not lost itself.
-/

namespace Spreadsheet

lemma sheetAfter_inj {removed a b : Nat} (ha : a ≠ removed) (hb : b ≠ removed)
    (h : sheetAfter removed a = sheetAfter removed b) : a = b := by
  unfold sheetAfter at h
  split_ifs at h <;> omega

/-- Which sheets come to be the one with a given number. -/
lemma sheetAfter_eq_iff {removed a b : Nat} (ha : a ≠ removed) :
    sheetAfter removed a = b ↔ a = b ∧ b < removed ∨ a = b + 1 ∧ removed ≤ b := by
  unfold sheetAfter
  split_ifs <;> omega

namespace FormulaRecord

/-- The key of a record of the same kind at the same place of another sheet. -/
def keyOn (r : FormulaRecord) (sheet : Nat) : FormulaKey := ⟨r.body.kind, ⟨sheet, r.position⟩⟩

lemma keyOn_sheet (r : FormulaRecord) : r.keyOn r.sheet = r.key := rfl

lemma key_onSheetAfter (r : FormulaRecord) (removed : Nat) :
    (r.onSheetAfter removed).key = r.keyOn (sheetAfter removed r.sheet) := rfl

lemma key_eq_keyOn {r r' : FormulaRecord} {sheet : Nat} : r'.key = r.keyOn sheet ↔
    r'.body.kind = r.body.kind ∧ r'.sheet = sheet ∧ r'.position = r.position := by
  simp [key, place, keyOn]

/-- Formulas of other sheets than the removed one keep apart. -/
lemma key_of_onSheetAfter {r r' : FormulaRecord} {removed : Nat} (hr : r.sheet ≠ removed)
    (hr' : r'.sheet ≠ removed) (h : (r.onSheetAfter removed).key = (r'.onSheetAfter removed).key) :
    r.key = r'.key := by
  rw [key_onSheetAfter, key_onSheetAfter] at h
  obtain ⟨hkind, hsheet, hpos⟩ : r.body.kind = r'.body.kind ∧
      sheetAfter removed r.sheet = sheetAfter removed r'.sheet ∧ r.position = r'.position := by
    simpa [keyOn] using h
  exact key_eq_keyOn.mpr ⟨hkind, sheetAfter_inj hr hr' hsheet, hpos⟩

@[simp] lemma keyOn_mapTokens (r : FormulaRecord) (f : Nat → Token → Token) (sheet : Nat) :
    (r.mapTokens f).keyOn sheet = r.keyOn sheet := by
  simp [keyOn]

end FormulaRecord

namespace FormulaStore

/-- The formula of the same kind at the same place of the next sheet. -/
def behind? (s : FormulaStore) (r : FormulaRecord) : Option Nat :=
  s.positions[r.keyOn (r.sheet + 1)]?

/-- A formula that another one displaces when the sheets are renumbered. -/
def displaced (s : FormulaStore) (removed id : Nat) : Bool :=
  match s.get? id with
  | none => false
  | some r => match s.behind? r with
    | none => false
    | some b => if b < id then removed ≤ r.sheet && !s.displaced removed b else false
termination_by id

/-- One of the formulas with numbers below `n` comes to the place of the record, and is not
displaced before. -/
def taken (s : FormulaStore) (removed n : Nat) (r : FormulaRecord) : Bool :=
  removed ≤ r.sheet && (s.behind? r).any fun b => b < n && !s.displaced removed b

lemma taken_iff {s : FormulaStore} {removed n : Nat} {r : FormulaRecord} :
    s.taken removed n r = true ↔
      removed ≤ r.sheet ∧ ∃ b, s.behind? r = some b ∧ b < n ∧ s.displaced removed b = false := by
  simp [taken, Option.any_eq_true]

lemma displaced_eq {s : FormulaStore} {removed id : Nat} {r : FormulaRecord}
    (hr : s.get? id = some r) : s.displaced removed id = s.taken removed id r := by
  unfold displaced taken
  rcases hb : s.behind? r with _ | b
  · simp [hr, hb]
  · by_cases hlt : b < id <;> simp [hr, hb, hlt]

section
variable {s : FormulaStore}

lemma Coherent.behind?_eq (hs : s.Coherent) {r : FormulaRecord} {b : Nat} :
    s.behind? r = some b ↔ ∃ rb, s.get? b = some rb ∧ rb.key = r.keyOn (r.sheet + 1) :=
  hs.index _ _

/-- A formula of another sheet comes to the place of the one in front of it, and to no other place
that is taken. -/
lemma Coherent.key_eq_onSheetAfter_iff (hs : s.Coherent) {removed n : Nat} {r r' : FormulaRecord}
    (hr : s.get? n = some r) (hsheet : r.sheet ≠ removed) (hne : r'.key ≠ r.key) :
    r'.key = (r.onSheetAfter removed).key ↔ removed ≤ r'.sheet ∧ s.behind? r' = some n := by
  have hbehind : s.behind? r' = some n ↔ r.key = r'.keyOn (r'.sheet + 1) := by
    rw [hs.behind?_eq]
    exact ⟨fun ⟨rb, hrb, he⟩ => Option.some.inj (hr.symm.trans hrb) ▸ he, fun he => ⟨r, hr, he⟩⟩
  rw [hbehind, FormulaRecord.key_onSheetAfter, FormulaRecord.key_eq_keyOn,
    FormulaRecord.key_eq_keyOn, eq_comm (a := r'.sheet), sheetAfter_eq_iff hsheet]
  constructor
  · rintro ⟨hkind, ⟨hsh, -⟩ | ⟨hsh, hle⟩, hpos⟩
    · exact absurd (FormulaRecord.key_eq_keyOn.mpr ⟨hkind, hsh.symm, hpos⟩) hne
    · exact ⟨hle, hkind.symm, hsh, hpos.symm⟩
  · rintro ⟨hle, hkind, hsh, hpos⟩
    exact ⟨hkind.symm, Or.inr ⟨hsh, hle⟩, hpos.symm⟩

/-- Which formulas are displaced depends on the keys of the records alone. -/
lemma displaced_congr {s' : FormulaStore} (hs : s.Coherent) (hs' : s'.Coherent)
    (h : ∀ k, (s'.get? k).map FormulaRecord.key = (s.get? k).map FormulaRecord.key)
    (removed id : Nat) : s'.displaced removed id = s.displaced removed id := by
  have hpos : ∀ key : FormulaKey, s'.positions[key]? = s.positions[key]? := by
    intro key
    refine Option.ext fun k => ?_
    have hk := h k
    rw [hs.index, hs'.index]
    simp only [← Option.map_eq_some_iff, hk]
  induction id using Nat.strongRecOn with
  | _ id ih =>
    have hid := h id
    unfold displaced
    rcases hr : s.get? id with _ | r <;> rcases hr' : s'.get? id with _ | r'
    · rfl
    · simp [hr, hr'] at hid
    · simp [hr, hr'] at hid
    · have hkey : r'.key = r.key := by simpa [hr, hr'] using hid
      obtain ⟨hk, hsh, hp⟩ := FormulaRecord.key_eq_keyOn.mp (hkey.trans r.keyOn_sheet.symm)
      have hbehind : s'.behind? r' = s.behind? r := by
        unfold behind?
        rw [hpos, FormulaRecord.keyOn, FormulaRecord.keyOn, hk, hsh, hp]
      simp only [hbehind, hsh]
      rcases s.behind? r with _ | b
      · rfl
      · by_cases hlt : b < id
        · simp [hlt, ih b hlt]
        · simp [hlt]

end

/-! ### Renumbering, one formula after the other -/

lemma ids_eq (s : FormulaStore) :
    s.ids = (List.range s.records.size).filter fun id => (s.get? id).isSome := by
  have hids : s.ids.Pairwise (· < ·) := List.pairwise_map.mpr s.pairwise_toList
  refine hids.eq_of_mem_iff (List.pairwise_lt_range.filter _) fun id => ?_
  rw [mem_ids, List.mem_filter, List.mem_range]
  refine ⟨fun h => ⟨?_, h⟩, And.right⟩
  obtain ⟨r, hr⟩ := Option.isSome_iff_exists.mp h
  exact get?_lt hr

/-- What has become of the formula `k` when those with numbers below `n` are renumbered. -/
def fate (s : FormulaStore) (removed n k : Nat) (r : FormulaRecord) : Option FormulaRecord :=
  if k < n then
    if r.sheet = removed ∨ s.displaced removed k then none else some (r.onSheetAfter removed)
  else if s.taken removed n r then none else some r

/-- `t` is `s` with the formulas with numbers below `n` renumbered. -/
structure Stage (s t : FormulaStore) (removed n : Nat) : Prop where
  coherent : t.Coherent
  limits : t.limits = s.limits
  get? : ∀ k, t.get? k = (s.get? k).bind (s.fate removed n k)

section
variable {s t : FormulaStore} {removed n k : Nat} {r : FormulaRecord}

/-- One more formula renumbered makes a difference to the one in front of it only. -/
lemma fate_succ (hk : k ≠ n) : s.fate removed (n + 1) k r =
    if n < k ∧ removed ≤ r.sheet ∧ s.behind? r = some n ∧ s.displaced removed n = false
    then none else s.fate removed n k r := by
  unfold fate
  rcases Nat.lt_or_gt_of_ne hk with hlt | hlt
  · simp [hlt, show k < n + 1 by omega, show ¬n < k by omega]
  have htaken : s.taken removed (n + 1) r = true ↔ s.taken removed n r = true ∨
      removed ≤ r.sheet ∧ s.behind? r = some n ∧ s.displaced removed n = false := by
    rw [taken_iff, taken_iff]
    constructor
    · rintro ⟨hle, b, hb, hbn, hd⟩
      rcases Nat.lt_succ_iff_lt_or_eq.mp hbn with hbn | rfl
      · exact Or.inl ⟨hle, b, hb, hbn, hd⟩
      · exact Or.inr ⟨hle, hb, hd⟩
    · rintro (⟨hle, b, hb, hbn, hd⟩ | ⟨hle, hb, hd⟩)
      · exact ⟨hle, b, hb, Nat.lt_succ_of_lt hbn, hd⟩
      · exact ⟨hle, n, hb, Nat.lt_succ_self n, hd⟩
  simp only [show ¬k < n by omega, show ¬k < n + 1 by omega, if_false, htaken, hlt, true_and]
  by_cases h1 : s.taken removed n r = true
  · simp [h1]
  · simp [h1]

lemma fate_self (hr : s.get? n = some r) :
    s.fate removed n n r = if s.displaced removed n then none else some r := by
  simp [fate, displaced_eq hr]

/-- A formula that was displaced displaces none itself. -/
lemma Stage.succ_of_displaced (hst : Stage s t removed n) (hs : s.Coherent)
    (hn : ∀ r, s.get? n = some r → s.displaced removed n = true) : Stage s t removed (n + 1) := by
  refine ⟨hst.coherent, hst.limits, fun k => ?_⟩
  rw [hst.get?]
  rcases hr : s.get? k with _ | r
  · rfl
  rw [Option.bind_some, Option.bind_some]
  by_cases hk : k = n
  · subst hk
    rw [fate_self hr]
    simp [fate, hn r hr]
  · rw [fate_succ hk, if_neg]
    rintro ⟨-, -, hb, hd⟩
    obtain ⟨rb, hrb, -⟩ := hs.behind?_eq.mp hb
    simp [hn rb hrb] at hd

/-- A formula of the removed sheet goes. -/
lemma Stage.succ_of_drop (hst : Stage s t removed n) (hs : s.Coherent) (hr : s.get? n = some r)
    (hsheet : r.sheet = removed) {t' : FormulaStore} (hd : Drop t t' n) :
    Stage s t' removed (n + 1) := by
  refine ⟨hd.coherent, hd.limits.trans hst.limits, fun k => ?_⟩
  rw [hd.get?, hst.get?]
  by_cases hk : k = n
  · subst hk
    simp [hr, fate, hsheet]
  rw [if_neg hk]
  rcases hrk : s.get? k with _ | rk
  · rfl
  rw [Option.bind_some, Option.bind_some, fate_succ hk, if_neg]
  rintro ⟨-, hle, hb, -⟩
  obtain ⟨rb, hrb, hkey⟩ := hs.behind?_eq.mp hb
  obtain rfl : r = rb := Option.some.inj (hr.symm.trans hrb)
  have := (FormulaRecord.key_eq_keyOn.mp hkey).2.1
  omega

/-- A formula of another sheet comes to its new place and displaces the one that waits there. -/
lemma Stage.succ_of_put (hst : Stage s t removed n) (hs : s.Coherent) (hr : s.get? n = some r)
    (hsheet : r.sheet ≠ removed) (hn : s.displaced removed n = false) {t' : FormulaStore}
    {links : SheetLinks} (hp : Put t t' links n (r.onSheetAfter removed)) :
    Stage s t' removed (n + 1) := by
  refine ⟨hp.coherent, hp.limits.trans hst.limits, fun k => ?_⟩
  rw [hp.get?, hst.get?]
  by_cases hk : k = n
  · subst hk
    simp [hr, fate, hsheet, hn]
  rw [if_neg hk]
  rcases hrk : s.get? k with _ | rk
  · rfl
  rw [Option.bind_some, Option.bind_some]
  have hne : rk.key ≠ r.key := fun he => hk (hs.key_inj hrk hr he)
  rcases Nat.lt_or_gt_of_ne hk with hlt | hlt
  · -- both have moved already, to different places
    rw [fate_succ hk, if_neg (by omega)]
    unfold fate
    rw [if_pos hlt]
    split_ifs with hgone
    · rfl
    · rw [Option.filter_some, if_pos]
      rw [decide_eq_true_eq]
      exact fun he => hne (FormulaRecord.key_of_onSheetAfter (fun h => hgone (Or.inl h)) hsheet he)
  · -- the other one waits
    have hmeets := hs.key_eq_onSheetAfter_iff hr hsheet hne
    rw [fate_succ hk]
    unfold fate
    simp only [show ¬k < n by omega, if_false, hlt, true_and, hn, and_true]
    by_cases htaken : s.taken removed n rk = true
    · simp [htaken]
    · by_cases hm : rk.key = (r.onSheetAfter removed).key
      · simp [htaken, Option.filter_some, hm, hmeets.mp hm]
      · rw [if_neg (fun h => hm (hmeets.mpr h))]
        simp [htaken, Option.filter_some, hm]

theorem Stage.succ (hst : Stage s t removed n) (hs : s.Coherent) (links : SheetLinks) :
    Stage s (if (s.get? n).isSome then renumber links removed t n else t) removed (n + 1) := by
  rcases hr : s.get? n with _ | r
  · exact hst.succ_of_displaced hs fun r hr' => by rw [hr] at hr'; cases hr'
  rw [if_pos Option.isSome_some]
  have hget : t.get? n = if s.displaced removed n then none else some r := by
    rw [hst.get?, hr, Option.bind_some, fate_self hr]
  unfold renumber
  by_cases hn : s.displaced removed n = true
  · rw [if_pos hn] at hget
    rw [hget, Option.map_none, if_neg (by simp), update_of_none hget]
    exact hst.succ_of_displaced hs fun _ _ => hn
  · rw [if_neg hn] at hget
    rw [hget, Option.map_some]
    by_cases hsheet : r.sheet = removed
    · rw [if_pos (congrArg some hsheet)]
      exact hst.succ_of_drop hs hr hsheet (drop_remove hst.coherent n)
    · rw [if_neg (by simpa using hsheet)]
      exact hst.succ_of_put hs hr hsheet (by simpa using hn)
        (put_update hst.coherent hget links (·.onSheetAfter removed))

lemma stage_zero (hs : s.Coherent) (removed : Nat) : Stage s s removed 0 := by
  refine ⟨hs, rfl, fun k => ?_⟩
  rcases s.get? k with _ | r
  · rfl
  · simp [fate, taken]

/-- What is left of a formula when a sheet is removed. -/
theorem get?_withoutSheet (hs : s.Coherent) (links : SheetLinks) (removed k : Nat) :
    (s.withoutSheet links removed).get? k = (s.get? k).bind fun r =>
      if r.sheet = removed ∨ s.displaced removed k then none
      else some (r.onSheetAfter removed) := by
  have hstage : ∀ n, Stage s ((List.range n).foldl
      (fun t id => if (s.get? id).isSome then renumber links removed t id else t) s)
      removed n := by
    intro n
    induction n with
    | zero => exact stage_zero hs removed
    | succ n ih =>
      rw [List.range_succ, List.foldl_append]
      exact ih.succ hs links
  have heq : s.withoutSheet links removed = (List.range s.records.size).foldl
      (fun t id => if (s.get? id).isSome then renumber links removed t id else t) s := by
    rw [← List.foldl_filter, ← ids_eq, withoutSheet_eq]
  rw [heq, (hstage _).get?]
  rcases hr : s.get? k with _ | r
  · rfl
  · simp [fate, get?_lt hr]

/-- The references that are recorded to lead to a sheet break. -/
lemma replaced_breakObservers (hs : s.Coherent) (links : SheetLinks) (sheet : Nat) :
    Replaced s (s.breakObservers links sheet) (fun _ => Token.broken?)
      (· ∈ s.observers.onSheet sheet) := by
  have heq : s.breakObservers links sheet =
      (s.observers.onSheet sheet).foldl (replaceBy links fun _ => Token.broken?) s := by
    unfold breakObservers
    congr 1
    funext t h
    have hbroken : t.replacement? (fun _ => Token.broken?) h =
        (t.token? h).bind Token.broken? := by
      unfold replacement? token?
      rw [Option.bind_assoc]
    rcases hu : (t.token? h).bind Token.broken? with _ | u <;>
      simp only [replaceBy, hbroken, hu]
  rw [heq]
  exact replaced_foldl hs links _ (s.observers.nodup_onSheet sheet)

end

end FormulaStore

/-! ### Formulas of the other sheets -/

/-- A token stays, or it is a reference to the removed sheet and breaks. -/
def Token.SurvivesAs (links : SheetLinks) (removed : Nat) (t t' : Token) : Prop :=
  t' = t ∨ t.link?.bind links.localSheet? = some removed ∧ t.broken? = some t'

/-- `r'` is what becomes of a record of another sheet. -/
structure FormulaRecord.SurvivesAs (links : SheetLinks) (removed : Nat) (r r' : FormulaRecord) :
    Prop where
  sheet : r'.sheet = sheetAfter removed r.sheet
  body : r'.body = r.body.withTokens r'.tokens
  tokens : List.Forall₂ (Token.SurvivesAs links removed) r.tokens r'.tokens

lemma FormulaRecord.survivesAs_mapTokens {links : SheetLinks} {removed : Nat} {r : FormulaRecord}
    {f : Nat → Token → Token}
    (h : ∀ i (t : Token), r.tokens[i]? = some t → t.SurvivesAs links removed (f i t)) :
    r.SurvivesAs links removed ((r.mapTokens f).onSheetAfter removed) := by
  refine ⟨rfl, ?_, List.forall₂_iff_get.mpr ⟨?_, fun i hi hi' => ?_⟩⟩
  · obtain ⟨sheet, body⟩ := r
    cases body <;> rfl
  · simp [onSheetAfter, tokens, mapTokens]
  · have := h i r.tokens[i] (List.getElem?_eq_getElem hi)
    simpa [onSheetAfter, tokens, mapTokens] using this

lemma Token.link?_of_broken? {t t' : Token} (h : t.broken? = some t') (own : Nat)
    (links : SheetLinks) : t.observedSheet? own links = t.link?.bind links.localSheet? := by
  cases t <;> simp_all [broken?, observedSheet?, link?]

namespace Workbook

variable {w : Workbook} {sheet : Nat}

/-- A formula is found where the removal of a sheet should leave it. -/
structure Keeps (w : Workbook) (sheet id : Nat) (r : FormulaRecord) : Prop where
  found : (w.deleteSheet sheet).formulas.positions[r.keyOn (sheetAfter sheet r.sheet)]? = some id
  survives : ∃ r', (w.deleteSheet sheet).formulas.get? id = some r' ∧
    r.SurvivesAs w.links sheet r'

/-- Formulas behind the removed sheet have lower numbers than those of their kind at the same
place of the next sheet. -/
def InOrderBehind (w : Workbook) (sheet : Nat) : Prop :=
  ∀ a b ra rb, w.formulas.get? a = some ra → w.formulas.get? b = some rb →
    sheet < ra.sheet → rb.key = ra.keyOn (ra.sheet + 1) → a < b

/-- The change that breaks the recorded references of a formula to a sheet. -/
def breaking (w : Workbook) (sheet id i : Nat) (t : Token) : Token :=
  if Handle.mk id i ∈ w.formulas.observers.onSheet sheet then t.broken?.getD t else t

lemma get?_deleteSheet (hw : w.formulas.Coherent) (hs : sheet < w.sheets.size) (k : Nat) :
    (w.deleteSheet sheet).formulas.get? k = (w.formulas.get? k).bind fun r =>
      if r.sheet = sheet ∨ w.formulas.displaced sheet k then none
      else some ((r.mapTokens (w.breaking sheet k)).onSheetAfter sheet) := by
  have hb := FormulaStore.replaced_breakObservers hw w.links sheet
  have hkeys : ∀ k, ((w.formulas.breakObservers w.links sheet).get? k).map FormulaRecord.key =
      (w.formulas.get? k).map FormulaRecord.key := by
    intro k
    rw [hb.get?]
    rcases w.formulas.get? k with _ | r <;> simp
  unfold deleteSheet
  rw [Array.getElem?_eq_getElem hs]
  refine (FormulaStore.get?_withoutSheet hb.coherent _ sheet k).trans ?_
  rw [hb.get?, FormulaStore.displaced_congr hw hb.coherent hkeys]
  rcases w.formulas.get? k with _ | r
  · rfl
  · rfl

lemma Agrees.breaking_survives (h : w.Agrees Agreement.sound) {id : Nat} {r : FormulaRecord}
    (hr : w.formulas.get? id = some r) {i : Nat} {t : Token} (ht : r.tokens[i]? = some t) :
    t.SurvivesAs w.links sheet (w.breaking sheet id i t) := by
  unfold breaking
  split_ifs with hmem
  · rcases hb : t.broken? with _ | t'
    · exact Or.inl rfl
    · right
      obtain ⟨a, ha, hsheet⟩ := Observers.mem_onSheet.mp hmem
      refine ⟨?_, hb⟩
      have hdue : w.formulas.due? w.links ⟨id, i⟩ = some a := by
        rcases h.agrees ⟨id, i⟩ with he | ⟨he, -⟩
        · rw [← he, ha]
        · rw [ha] at he
          cases he
      have hobs : t.observedSheet? r.sheet w.links = some a.sheet := by
        unfold FormulaStore.due? at hdue
        rw [hr] at hdue
        obtain ⟨t', _, _, ht', hobs, -⟩ :=
          FormulaRecord.observed?_eq_some (Option.filter_eq_some_iff.mp hdue).1
        obtain rfl : t = t' := Option.some.inj (ht.symm.trans ht')
        exact hobs
      rw [← t.link?_of_broken? hb r.sheet, hobs, hsheet]
  · exact Or.inl rfl

/-- A formula that is not displaced is kept. -/
lemma Agrees.keeps (h : w.Agrees Agreement.sound) (hs : sheet < w.sheets.size) {id : Nat}
    {r : FormulaRecord} (hr : w.formulas.get? id = some r) (hsheet : r.sheet ≠ sheet)
    (hd : w.formulas.displaced sheet id = false) : w.Keeps sheet id r := by
  have hget := get?_deleteSheet h.coherent hs id
  rw [hr, Option.bind_some, if_neg (by simp [hsheet, hd])] at hget
  have hw' : (w.deleteSheet sheet).Agrees Agreement.full :=
    agrees_deleteSheet (fun _ _ => rfl) h.coherent h.limits_eq hs
  refine ⟨(hw'.coherent.index _ _).mpr ⟨_, hget, ?_⟩, _, hget, ?_⟩
  · rw [FormulaRecord.key_onSheetAfter]
    simp
  · exact FormulaRecord.survivesAs_mapTokens fun i t ht => h.breaking_survives hr ht

/-- A formula that is displaced is lost: nothing is found where it should be. -/
lemma Agrees.lost (h : w.Agrees Agreement.sound) (hs : sheet < w.sheets.size) {id : Nat}
    {r : FormulaRecord} (hr : w.formulas.get? id = some r) (hsheet : r.sheet ≠ sheet)
    (hd : w.formulas.displaced sheet id = true) :
    (w.deleteSheet sheet).formulas.positions[r.keyOn (sheetAfter sheet r.sheet)]? = none := by
  have hw' : (w.deleteSheet sheet).Agrees Agreement.full :=
    agrees_deleteSheet (fun _ _ => rfl) h.coherent h.limits_eq hs
  refine Option.eq_none_iff_forall_ne_some.mpr fun k hk => ?_
  obtain ⟨r', hr', hkey⟩ := (hw'.coherent.index _ _).mp hk
  rw [get?_deleteSheet h.coherent hs] at hr'
  obtain ⟨rk, hrk, hr'⟩ := Option.bind_eq_some_iff.mp hr'
  split_ifs at hr' with hgone
  cases hr'
  have hafter : (rk.onSheetAfter sheet).key = (r.onSheetAfter sheet).key := by
    rw [FormulaRecord.key_onSheetAfter r, ← hkey]
    simp [FormulaRecord.key_onSheetAfter]
  have hsame := FormulaRecord.key_of_onSheetAfter (fun he => hgone (Or.inl he)) hsheet hafter
  obtain rfl := h.coherent.key_inj hrk hr hsame
  exact hgone (Or.inr hd)

/-- Nothing is displaced if and only if the formulas are in order. -/
lemma inOrderBehind_iff (hw : w.formulas.Coherent) : w.InOrderBehind sheet ↔
    ∀ id r, w.formulas.get? id = some r → r.sheet ≠ sheet →
      w.formulas.displaced sheet id = false := by
  constructor
  · intro ho id r hr hsheet
    by_contra hd
    rw [Bool.not_eq_false, FormulaStore.displaced_eq hr, FormulaStore.taken_iff] at hd
    obtain ⟨hle, b, hb, hlt, -⟩ := hd
    obtain ⟨rb, hrb, hkey⟩ := hw.behind?_eq.mp hb
    have := ho id b r rb hr hrb (by omega) hkey
    omega
  · intro hn a b ra rb hra hrb hlt hkey
    by_contra hle
    have hsheet : rb.sheet = ra.sheet + 1 := (FormulaRecord.key_eq_keyOn.mp hkey).2.1
    have hb := hn b rb hrb (by omega)
    have ha := hn a ra hra (by omega)
    have hne : a ≠ b := by
      rintro rfl
      rw [hra] at hrb
      cases hrb
      omega
    have : w.formulas.displaced sheet a = true := by
      rw [FormulaStore.displaced_eq hra, FormulaStore.taken_iff]
      exact ⟨by omega, b, hw.behind?_eq.mpr ⟨rb, hrb, hkey⟩, by omega, hb⟩
    rw [ha] at this
    cases this

/-- **What the removal of a sheet loses.** A formula of another sheet is found at its place of the
renumbered sheet, with the tokens it had but for broken references to the removed one, unless it is
displaced; then nothing is found there. None is lost if and only if the formulas behind the removed
sheet are in order. -/
theorem deleteSheet_keeps_iff_in_order (hw : w.Reachable) (hs : sheet < w.sheets.size) :
    (∀ id r, w.formulas.get? id = some r → r.sheet ≠ sheet →
      if w.formulas.displaced sheet id then
        (w.deleteSheet sheet).formulas.positions[r.keyOn (sheetAfter sheet r.sheet)]? = none
      else w.Keeps sheet id r) ∧
    ((∀ id r, w.formulas.get? id = some r → r.sheet ≠ sheet → w.Keeps sheet id r) ↔
      w.InOrderBehind sheet) := by
  obtain ⟨settings, ops, rfl⟩ := hw
  have h := (agrees_empty (fun _ _ => Or.inl rfl) settings).run_sound ops
  constructor
  · intro id r hr hsheet
    split_ifs with hd
    · exact h.lost hs hr hsheet hd
    · exact h.keeps hs hr hsheet (by simpa using hd)
  · rw [inOrderBehind_iff h.coherent]
    constructor
    · intro hkeeps id r hr hsheet
      by_contra hd
      have hnone := h.lost hs hr hsheet (by simpa using hd)
      rw [(hkeeps id r hr hsheet).found] at hnone
      cases hnone
    · exact fun hn id r hr hsheet => h.keeps hs hr hsheet (hn id r hr hsheet)

/-- Two sheets behind the removed one, with the formula of the later sheet entered first. -/
theorem deleteSheet_loses_late_formula :
    let w := (empty {}).run [.addSheet "Gone", .addSheet "Jan", .addSheet "Feb",
      .setFormula ⟨2, ⟨0, 0⟩⟩ [.int 2], .setFormula ⟨1, ⟨0, 0⟩⟩ [.int 1]]
    w.Reachable ∧ 0 < w.sheets.size ∧
      ¬∀ id r, w.formulas.get? id = some r → r.sheet ≠ 0 → w.Keeps 0 id r := by
  intro w
  have hw : w.Reachable := ⟨_, _, rfl⟩
  have hs : 0 < w.sheets.size := by decide
  refine ⟨hw, hs, fun hkeeps => ?_⟩
  have horder := (deleteSheet_keeps_iff_in_order hw hs).2.mp hkeeps
  let feb : FormulaRecord := ⟨2, .cell ⟨0, 0⟩ [.int 2]⟩
  let jan : FormulaRecord := ⟨1, .cell ⟨0, 0⟩ [.int 1]⟩
  have h1 := FormulaStore.put_insert #[] feb (FormulaStore.coherent_empty {})
  have h2 := FormulaStore.put_insert #[] jan h1.coherent
  have hfeb := (h1.get? 0).trans (if_pos rfl)
  have hlt := FormulaStore.get?_lt hfeb
  have := horder _ 0 jan feb ((h2.get? _).trans (if_pos rfl))
    ((h2.get? 0).trans (by rw [if_neg (by omega), hfeb]; rfl)) (by decide) rfl
  omega

end Workbook

end Spreadsheet
