import Spreadsheet.Proofs.Observers
import Spreadsheet.Workbook.FormulaStore

/-!
What each operation of the formula store does to its three parts: the records, the index of places
and the observers.

A store is coherent if the index finds exactly the stored records and only tokens of stored records
are recorded as observers. Storing a new formula and changing one are the same for the rest of the
store: one record is put at its number, and a record of its kind and place makes room.
-/

namespace Spreadsheet

/-- A range that is never recorded, because it takes in all rows or all columns. -/
def CellRange.isWhole (r : CellRange) (limits : Limits) : Bool :=
  r.hasAllRows limits || r.hasAllCols limits

/-- What a token of a record should be recorded with. -/
def FormulaRecord.due? (r : FormulaRecord) (links : SheetLinks) (limits : Limits) (i : Nat) :
    Option Area :=
  (r.observed? links limits i).filter fun a => !a.range.isWhole limits

lemma FormulaRecord.observed?_of_le {r : FormulaRecord} {i : Nat} (h : r.tokens.length ≤ i)
    (links : SheetLinks) (limits : Limits) : r.observed? links limits i = none := by
  unfold observed?
  rw [List.getElem?_eq_none h]
  rfl

lemma FormulaRecord.due?_of_le {r : FormulaRecord} {i : Nat} (h : r.tokens.length ≤ i)
    (links : SheetLinks) (limits : Limits) : r.due? links limits i = none := by
  rw [due?, observed?_of_le h, Option.filter_none]

lemma FormulaRecord.observed?_eq_some {r : FormulaRecord} {links : SheetLinks} {limits : Limits}
    {i : Nat} {a : Area} (h : r.observed? links limits i = some a) :
    ∃ t first last, r.tokens[i]? = some t ∧ t.observedSheet? r.sheet links = some a.sheet ∧
      t.rangeIn? r.position r.body.members.start limits = some first ∧
      t.rangeIn? r.position r.body.members.stop limits = some last ∧
      a.range = first.bounding last := by
  unfold observed? at h
  obtain ⟨t, ht, h⟩ := Option.bind_eq_some_iff.mp h
  obtain ⟨sheet, hsheet, h⟩ := Option.bind_eq_some_iff.mp h
  obtain ⟨first, hfirst, h⟩ := Option.bind_eq_some_iff.mp h
  obtain ⟨last, hlast, h⟩ := Option.bind_eq_some_iff.mp h
  cases h
  exact ⟨t, first, last, ht, hsheet, hfirst, hlast, rfl⟩

namespace FormulaStore

variable (s : FormulaStore) (links : SheetLinks)

/-- What a token should be recorded with. -/
def due? (h : Handle) : Option Area :=
  (s.get? h.formula).bind fun r => r.due? links s.limits h.token

/-! ### Records -/

lemma get?_lt {s : FormulaStore} {id : Nat} {r : FormulaRecord} (h : s.get? id = some r) :
    id < s.records.size := by
  by_contra hc
  rw [get?, Array.getElem?_eq_none (by omega)] at h
  cases h

lemma get?_size : s.get? s.records.size = none := by
  rw [get?, Array.getElem?_eq_none (Nat.le_refl _)]
  rfl

lemma get?_setRecord {id : Nat} (h : id < s.records.size) (x : Option FormulaRecord) (k : Nat) :
    (s.setRecord id x).get? k = if k = id then x else s.get? k := by
  unfold setRecord get?
  rw [Array.getElem?_setIfInBounds]
  by_cases hk : k = id
  · subst hk; simp [h]
  · simp [hk, Ne.symm hk]

@[simp] lemma positions_setRecord (id : Nat) (x : Option FormulaRecord) :
    (s.setRecord id x).positions = s.positions := rfl

@[simp] lemma observers_setRecord (id : Nat) (x : Option FormulaRecord) :
    (s.setRecord id x).observers = s.observers := rfl

@[simp] lemma limits_setRecord (id : Nat) (x : Option FormulaRecord) :
    (s.setRecord id x).limits = s.limits := rfl

@[simp] lemma size_setRecord (id : Nat) (x : Option FormulaRecord) :
    (s.setRecord id x).records.size = s.records.size := by
  simp [setRecord]

/-! ### Listing -/

lemma mem_toList {s : FormulaStore} {id : Nat} {r : FormulaRecord} :
    (id, r) ∈ s.toList ↔ s.get? id = some r := by
  unfold toList get?
  simp only [List.mem_filterMap, Prod.exists, List.mem_zipIdx_iff_getElem?, Array.getElem?_toList,
    Option.map_eq_some_iff, Prod.mk.injEq, Option.join_eq_some_iff]
  constructor
  · rintro ⟨x, i, hx, d, rfl, rfl, rfl⟩
    exact hx
  · intro h
    exact ⟨some r, id, h, r, rfl, rfl, rfl⟩

lemma mem_ids {s : FormulaStore} {id : Nat} : id ∈ s.ids ↔ (s.get? id).isSome := by
  unfold ids
  rw [List.mem_map, Option.isSome_iff_exists]
  constructor
  · rintro ⟨⟨i, r⟩, h, rfl⟩
    exact ⟨r, mem_toList.mp h⟩
  · rintro ⟨r, h⟩
    exact ⟨(id, r), mem_toList.mpr h, rfl⟩

lemma pairwise_toList : s.toList.Pairwise fun x y => x.1 < y.1 := by
  unfold toList
  have h : s.records.toList.zipIdx.Pairwise fun x y => x.2 < y.2 := by
    rw [← List.pairwise_map (f := Prod.snd) (R := (· < ·)), List.zipIdx_map_snd]
    exact List.pairwise_lt_range'
  refine h.filterMap _ ?_
  rintro ⟨x, i⟩ ⟨y, j⟩ hij u hu v hv
  obtain ⟨d, -, rfl⟩ := Option.map_eq_some_iff.mp hu
  obtain ⟨d', -, rfl⟩ := Option.map_eq_some_iff.mp hv
  exact hij

/-! ### The index of places -/

@[simp] lemma records_release (id : Nat) (key : FormulaKey) :
    (s.release id key).records = s.records := by
  unfold release
  split <;> rfl

@[simp] lemma get?_release (id : Nat) (key : FormulaKey) (k : Nat) :
    (s.release id key).get? k = s.get? k := by
  simp [get?]

@[simp] lemma observers_release (id : Nat) (key : FormulaKey) :
    (s.release id key).observers = s.observers := by
  unfold release
  split <;> rfl

@[simp] lemma limits_release (id : Nat) (key : FormulaKey) :
    (s.release id key).limits = s.limits := by
  unfold release
  split <;> rfl

lemma positions_release {id : Nat} {key : FormulaKey} (h : s.positions[key]? = some id)
    (k : FormulaKey) :
    (s.release id key).positions[k]? = if k = key then none else s.positions[k]? := by
  unfold release
  rw [if_pos h, Std.HashMap.getElem?_erase]
  simp only [beq_iff_eq, eq_comm (a := key)]

/-! ### Observers -/

@[simp] lemma get?_trackAll (id : Nat) (r : FormulaRecord) (k : Nat) :
    (s.trackAll links id r).get? k = s.get? k := rfl

@[simp] lemma positions_trackAll (id : Nat) (r : FormulaRecord) :
    (s.trackAll links id r).positions = s.positions := rfl

@[simp] lemma limits_trackAll (id : Nat) (r : FormulaRecord) :
    (s.trackAll links id r).limits = s.limits := rfl

@[simp] lemma records_untrackAll (id : Nat) (r : FormulaRecord) :
    (s.untrackAll id r).records = s.records := rfl

@[simp] lemma get?_untrackAll (id : Nat) (r : FormulaRecord) (k : Nat) :
    (s.untrackAll id r).get? k = s.get? k := rfl

@[simp] lemma positions_untrackAll (id : Nat) (r : FormulaRecord) :
    (s.untrackAll id r).positions = s.positions := rfl

@[simp] lemma limits_untrackAll (id : Nat) (r : FormulaRecord) :
    (s.untrackAll id r).limits = s.limits := rfl

lemma isWhole_eq (o : Observers) (r : CellRange) : o.isWhole r = r.isWhole o.limits := rfl

/-- A token that was not recorded is recorded as it should be. -/
lemma area?_track_due (o : Observers) (r : FormulaRecord) (h k : Handle) (i : Nat)
    (hn : o.area? h = none) :
    (match r.observed? links o.limits i with
      | some a => o.track h a
      | none => o).area? k = if k = h then r.due? links o.limits i else o.area? k := by
  unfold FormulaRecord.due?
  rcases r.observed? links o.limits i with _ | a
  · by_cases hk : k = h
    · subst hk; simp [hn]
    · simp [hk]
  · rw [Observers.area?_track, isWhole_eq]
    cases hw : a.range.isWhole o.limits <;> simp [Option.filter, hw]

/-- The observers after the first `n` tokens of a record were recorded. -/
private lemma foldl_track (o : Observers) (r : FormulaRecord) (id : Nat)
    (hn : ∀ i, o.area? ⟨id, i⟩ = none) (n : Nat) :
    let o' := (List.range n).foldl (fun o' i =>
      match r.observed? links o.limits i with
      | some a => o'.track ⟨id, i⟩ a
      | none => o') o
    o'.limits = o.limits ∧ ∀ h, o'.area? h =
      if h.formula = id ∧ h.token < n then r.due? links o.limits h.token else o.area? h := by
  induction n with
  | zero => simp
  | succ n ih =>
    obtain ⟨hl, ih⟩ := ih
    rw [List.range_succ, List.foldl_append, List.foldl_cons, List.foldl_nil]
    set o' := (List.range n).foldl (fun o' i =>
      match r.observed? links o.limits i with
      | some a => o'.track ⟨id, i⟩ a
      | none => o') o
    refine ⟨?_, fun h => ?_⟩
    · cases r.observed? links o.limits n <;> simp [hl]
    · rw [← hl, area?_track_due links o' r ⟨id, n⟩ h n (by rw [ih]; simp [hn]), hl, ih h]
      obtain ⟨f, t⟩ := h
      by_cases hf : f = id
      · subst hf
        rcases Nat.lt_trichotomy t n with ht | rfl | ht
        · simp [ht, Nat.ne_of_lt ht, Nat.lt_succ_of_lt ht]
        · simp
        · simp [show t ≠ n by omega, show ¬t < n by omega, show ¬t < n + 1 by omega]
      · simp [hf]

/-- The observers after the first `n` tokens of a record were forgotten. -/
private lemma foldl_untrack (o : Observers) (id n : Nat) :
    let o' := (List.range n).foldl (fun o' i => o'.untrack ⟨id, i⟩) o
    o'.limits = o.limits ∧ ∀ h, o'.area? h =
      if h.formula = id ∧ h.token < n then none else o.area? h := by
  induction n with
  | zero => simp
  | succ n ih =>
    obtain ⟨hl, ih⟩ := ih
    rw [List.range_succ, List.foldl_append, List.foldl_cons, List.foldl_nil]
    refine ⟨(Observers.limits_untrack _ _).trans hl, fun h => ?_⟩
    rw [Observers.area?_untrack, ih h]
    obtain ⟨f, t⟩ := h
    simp only [Handle.mk.injEq]
    split_ifs <;> first | rfl | omega

lemma observers_limits_trackAll (hl : s.observers.limits = s.limits) (id : Nat) (r : FormulaRecord)
    (hn : ∀ i, s.observers.area? ⟨id, i⟩ = none) :
    (s.trackAll links id r).observers.limits = s.limits := by
  have := (foldl_track links s.observers r id hn r.tokens.length).1
  rw [hl] at this
  exact this

/-- The tokens of a formula none of which was recorded. -/
lemma area?_trackAll (hl : s.observers.limits = s.limits) (id : Nat) (r : FormulaRecord)
    (hn : ∀ i, s.observers.area? ⟨id, i⟩ = none) (h : Handle) :
    (s.trackAll links id r).observers.area? h =
      if h.formula = id then r.due? links s.limits h.token else s.observers.area? h := by
  have := (foldl_track links s.observers r id hn r.tokens.length).2 h
  rw [hl] at this
  refine this.trans ?_
  by_cases hf : h.formula = id
  · by_cases ht : h.token < r.tokens.length
    · simp [hf, ht]
    · obtain ⟨f, t⟩ := h
      subst hf
      simp [ht, hn, r.due?_of_le (Nat.le_of_not_lt ht)]
  · simp [hf]

@[simp] lemma observers_limits_untrackAll (id : Nat) (r : FormulaRecord) :
    (s.untrackAll id r).observers.limits = s.observers.limits :=
  (foldl_untrack s.observers id _).1

lemma area?_untrackAll (id : Nat) (r : FormulaRecord) (h : Handle) :
    (s.untrackAll id r).observers.area? h =
      if h.formula = id ∧ h.token < r.tokens.length then none else s.observers.area? h :=
  (foldl_untrack s.observers id _).2 h

end FormulaStore

end Spreadsheet
