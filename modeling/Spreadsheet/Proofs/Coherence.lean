import Spreadsheet.Proofs.FormulaStore

/-!
Coherence of the formula store, and what storing, changing and removing a formula does to a
coherent store.
-/

namespace Spreadsheet

namespace FormulaStore

structure Coherent (s : FormulaStore) : Prop where
  limits : s.observers.limits = s.limits
  /-- The index finds exactly the stored records. -/
  index : ∀ key id, s.positions[key]? = some id ↔ ∃ r, s.get? id = some r ∧ r.key = key
  /-- Only tokens of stored records are recorded. -/
  live : ∀ h a, s.observers.area? h = some a →
    ∃ r, s.get? h.formula = some r ∧ h.token < r.tokens.length

/-- `s'` is `s` without the formula `id`. -/
structure Drop (s s' : FormulaStore) (id : Nat) : Prop where
  get? : ∀ k, s'.get? k = if k = id then none else s.get? k
  area? : ∀ h, s'.observers.area? h = if h.formula = id then none else s.observers.area? h
  limits : s'.limits = s.limits
  size : s'.records.size = s.records.size
  coherent : s'.Coherent

/-- `s'` is `s` with the record `r` as formula `id`. No other formula of its key is left. -/
structure Put (s s' : FormulaStore) (links : SheetLinks) (id : Nat) (r : FormulaRecord) :
    Prop where
  get? : ∀ k, s'.get? k = if k = id then some r else (s.get? k).filter (·.key ≠ r.key)
  area? : ∀ h, s'.observers.area? h =
    if h.formula = id then r.due? links s.limits h.token
    else if (s'.get? h.formula).isSome then s.observers.area? h else none
  limits : s'.limits = s.limits
  coherent : s'.Coherent

lemma coherent_empty (limits : Limits) : (FormulaStore.empty limits).Coherent where
  limits := rfl
  index key id := by simp [FormulaStore.empty, get?]
  live h a ha := by simp [FormulaStore.empty] at ha

section
variable {s : FormulaStore}

lemma Coherent.key_inj (hs : s.Coherent) {a b : Nat} {r r' : FormulaRecord}
    (ha : s.get? a = some r) (hb : s.get? b = some r') (h : r.key = r'.key) : a = b := by
  have h1 := (hs.index r.key a).mpr ⟨r, ha, rfl⟩
  have h2 := (hs.index r'.key b).mpr ⟨r', hb, rfl⟩
  rw [h, h2] at h1
  exact (Option.some.inj h1).symm

lemma Coherent.area?_eq_none (hs : s.Coherent) {h : Handle} (hn : s.get? h.formula = none) :
    s.observers.area? h = none := by
  rcases ha : s.observers.area? h with _ | a
  · rfl
  · obtain ⟨r, hr, -⟩ := hs.live h a ha
    rw [hn] at hr
    cases hr

lemma Coherent.ite_isSome (hs : s.Coherent) (h : Handle) :
    (if (s.get? h.formula).isSome then s.observers.area? h else none) = s.observers.area? h := by
  rcases hr : s.get? h.formula with _ | r
  · simp [hs.area?_eq_none hr]
  · simp

lemma Coherent.positions_eq_some_iff (hs : s.Coherent) {id : Nat} {r : FormulaRecord}
    (hr : s.get? id = some r) {key : FormulaKey} : s.positions[key]? = some id ↔ key = r.key := by
  rw [hs.index, hr]
  simp [eq_comm]

/-- All formulas but those of a key are all but the one that the index finds. -/
lemma Coherent.filter_key (hs : s.Coherent) (key : FormulaKey) (k : Nat) :
    (s.get? k).filter (·.key ≠ key) =
      if s.positions[key]? = some k then none else s.get? k := by
  rcases hr : s.get? k with _ | r
  · simp
  · have hkey : s.positions[key]? = some k ↔ key = r.key := hs.positions_eq_some_iff hr
    by_cases he : r.key = key
    · simp [hkey, he]
    · simp [hkey, he, Ne.symm he]

/-! ### Removing -/

/-- What was recorded for the tokens of a formula, however few, is forgotten with them. -/
lemma area?_untrackAll_of_lt {id : Nat} {r : FormulaRecord}
    (hlt : ∀ i a, s.observers.area? ⟨id, i⟩ = some a → i < r.tokens.length) (h : Handle) :
    (s.untrackAll id r).observers.area? h =
      if h.formula = id then none else s.observers.area? h := by
  obtain ⟨f, i⟩ := h
  rw [area?_untrackAll]
  by_cases hf : f = id
  · subst hf
    rcases ha : s.observers.area? ⟨f, i⟩ with _ | a
    · simp
    · simp [hlt i a ha]
  · simp [hf]

lemma Coherent.lt_length (hs : s.Coherent) {id : Nat} {r : FormulaRecord}
    (hr : s.get? id = some r) (i : Nat) (a : Area)
    (ha : s.observers.area? ⟨id, i⟩ = some a) : i < r.tokens.length := by
  obtain ⟨d, hd, hlt⟩ := hs.live _ a ha
  obtain rfl : r = d := Option.some.inj (hr.symm.trans hd)
  exact hlt

lemma remove_of_none {id : Nat} (h : s.get? id = none) : s.remove id = s := by
  simp [remove, h]

lemma remove_of_some {id : Nat} {r : FormulaRecord} (h : s.get? id = some r) :
    s.remove id = ((s.untrackAll id r).setRecord id none).release id r.key := by
  simp [remove, h]

private lemma drop_of_none (hs : s.Coherent) {id : Nat} (hr : s.get? id = none) : Drop s s id := by
  refine ⟨fun k => ?_, fun h => ?_, rfl, rfl, hs⟩
  · split_ifs with hk
    · rw [hk, hr]
    · rfl
  · split_ifs with hf
    · exact hs.area?_eq_none (by rw [hf, hr])
    · rfl

theorem drop_remove (hs : s.Coherent) (id : Nat) : Drop s (s.remove id) id := by
  rcases hr : s.get? id with _ | r
  · rw [remove_of_none hr]
    exact drop_of_none hs hr
  rw [remove_of_some hr]
  have hpos : s.positions[r.key]? = some id := (hs.positions_eq_some_iff hr).mpr rfl
  have hget : ∀ k, (((s.untrackAll id r).setRecord id none).release id r.key).get? k =
      if k = id then none else s.get? k := by
    intro k
    rw [get?_release, get?_setRecord (s.untrackAll id r) (get?_lt hr)]
    rfl
  have harea : ∀ h, (((s.untrackAll id r).setRecord id none).release id r.key).observers.area? h =
      if h.formula = id then none else s.observers.area? h := by
    intro h
    rw [observers_release, observers_setRecord, area?_untrackAll_of_lt (hs.lt_length hr)]
  refine ⟨hget, harea, by simp, by simp, ⟨by simp [hs.limits], fun key k => ?_, fun h a ha => ?_⟩⟩
  · rw [positions_release _ (by simpa using hpos), positions_setRecord, positions_untrackAll, hget]
    by_cases hk : k = id
    · subst hk
      rw [if_pos rfl]
      split_ifs with hkey <;> simp [hs.positions_eq_some_iff hr, hkey]
    · rw [if_neg hk]
      split_ifs with hkey
      · simp only [false_iff]
        rintro ⟨d, hd, he⟩
        exact hk (hs.key_inj hd hr (he.trans hkey))
      · exact hs.index key k
  · rw [harea] at ha
    split_ifs at ha with hf
    rw [hget, if_neg hf]
    exact hs.live h a ha

/-! ### Storing and changing -/

/-- The last steps of storing and of changing: the record is found and its tokens are recorded. -/
private def settle (s : FormulaStore) (links : SheetLinks) (id : Nat) (r : FormulaRecord) :
    FormulaStore :=
  ({ s with positions := s.positions.insert r.key id } : FormulaStore).trackAll links id r

/-- `t` is `s` with the record `r` as formula `id`, which is neither found nor recorded yet. The
formula that was found at its key has gone. -/
private structure Ready (s t : FormulaStore) (id : Nat) (r : FormulaRecord) : Prop where
  limits : t.limits = s.limits
  observers_limits : t.observers.limits = s.limits
  get? : ∀ k, t.get? k =
    if k = id then some r else if s.positions[r.key]? = some k then none else s.get? k
  area? : ∀ h, t.observers.area? h =
    if h.formula = id ∨ s.positions[r.key]? = some h.formula then none else s.observers.area? h
  positions : ∀ (key : FormulaKey) k, key ≠ r.key →
    (t.positions[key]? = some k ↔ k ≠ id ∧ s.positions[key]? = some k)

section
variable {t : FormulaStore} {id : Nat} {r : FormulaRecord}

private lemma Ready.area?_settle (ht : Ready s t id r) (links : SheetLinks) (h : Handle) :
    (settle t links id r).observers.area? h =
      if h.formula = id then r.due? links s.limits h.token else t.observers.area? h := by
  rw [← ht.limits]
  exact area?_trackAll { t with positions := t.positions.insert r.key id } links
    (ht.observers_limits.trans ht.limits.symm) id r (fun i => by simp [ht.area?]) h

private lemma Ready.index_settle (ht : Ready s t id r) (hs : s.Coherent) (links : SheetLinks)
    (key : FormulaKey) (k : Nat) : (settle t links id r).positions[key]? = some k ↔
      ∃ d, (settle t links id r).get? k = some d ∧ d.key = key := by
  have hpos : (settle t links id r).positions[key]? =
      if key = r.key then some id else t.positions[key]? := by
    unfold settle
    rw [positions_trackAll, Std.HashMap.getElem?_insert]
    simp only [beq_iff_eq, eq_comm (a := r.key)]
  have hget : (settle t links id r).get? k = t.get? k := rfl
  rw [hpos, hget, ht.get?]
  by_cases hk : k = id
  · subst hk
    rw [if_pos rfl]
    split_ifs with hkey
    · simp [hkey]
    · simp [ht.positions key k hkey, Ne.symm hkey]
  · rw [if_neg hk, ← hs.filter_key]
    split_ifs with hkey
    · simp [Option.filter_eq_some_iff, hkey, Ne.symm hk]
    · rw [ht.positions key k hkey, and_iff_right hk, hs.index]
      refine exists_congr fun d => and_congr_left fun he => ?_
      simp [Option.filter_eq_some_iff, he, hkey]

private lemma Ready.live_settle (ht : Ready s t id r) (hs : s.Coherent) (links : SheetLinks)
    (h : Handle) (a : Area) (ha : (settle t links id r).observers.area? h = some a) :
    ∃ d, (settle t links id r).get? h.formula = some d ∧ h.token < d.tokens.length := by
  have hget : (settle t links id r).get? h.formula = t.get? h.formula := rfl
  rw [ht.area?_settle] at ha
  rw [hget, ht.get?]
  split_ifs at ha with hf
  · refine ⟨r, if_pos hf, ?_⟩
    by_contra hlt
    rw [r.due?_of_le (Nat.le_of_not_lt hlt)] at ha
    cases ha
  · rw [ht.area?] at ha
    split_ifs at ha with hgone
    obtain ⟨-, hkept⟩ := not_or.mp hgone
    rw [if_neg hf, if_neg hkept]
    exact hs.live h a ha

private lemma Ready.put_settle (ht : Ready s t id r) (hs : s.Coherent) (links : SheetLinks) :
    Put s (settle t links id r) links id r := by
  have hget : ∀ k, (settle t links id r).get? k = t.get? k := fun _ => rfl
  have hlimits : (settle t links id r).observers.limits = s.limits := by
    rw [← ht.limits]
    exact observers_limits_trackAll { t with positions := t.positions.insert r.key id } links
      (ht.observers_limits.trans ht.limits.symm) id r fun i => by simp [ht.area?]
  refine ⟨fun k => ?_, fun h => ?_, ht.limits,
    ⟨hlimits.trans ht.limits.symm, ht.index_settle hs links, ht.live_settle hs links⟩⟩
  · rw [hget, ht.get?, hs.filter_key]
  · rw [ht.area?_settle, ht.area?, hget, ht.get?]
    by_cases hf : h.formula = id
    · simp [hf]
    · by_cases hgone : s.positions[r.key]? = some h.formula
      · simp [hf, hgone]
      · simp [hf, hgone, hs.ite_isSome h]

end

/-! ### A new formula -/

lemma get?_push (x : Option FormulaRecord) (k : Nat) :
    ({ s with records := s.records.push x } : FormulaStore).get? k =
      if k = s.records.size then x else s.get? k := by
  unfold get?
  rw [Array.getElem?_push]
  split_ifs <;> rfl

/-- The store without the formula that the index finds at a key. -/
private def vacate (s : FormulaStore) (key : FormulaKey) : FormulaStore :=
  match s.positions[key]? with
  | some old => s.remove old
  | none => s

/-- `t` is `s` without the formula that the index finds at a key. -/
private structure Vacated (s t : FormulaStore) (key : FormulaKey) : Prop where
  get? : ∀ k, t.get? k = if s.positions[key]? = some k then none else s.get? k
  area? : ∀ h, t.observers.area? h =
    if s.positions[key]? = some h.formula then none else s.observers.area? h
  limits : t.limits = s.limits
  size : t.records.size = s.records.size
  coherent : t.Coherent

private lemma vacated_vacate (hs : s.Coherent) (key : FormulaKey) :
    Vacated s (s.vacate key) key := by
  unfold vacate
  rcases hp : s.positions[key]? with _ | old
  · refine ⟨fun k => ?_, fun h => ?_, rfl, rfl, hs⟩ <;> simp [hp]
  · have hd := drop_remove hs old
    refine ⟨fun k => ?_, fun h => ?_, hd.limits, hd.size, hd.coherent⟩
    · simp [hd.get?, hp, eq_comm (a := old)]
    · simp [hd.area?, hp, eq_comm (a := old)]

private lemma ready_push (hs : s.Coherent) (r : FormulaRecord) :
    Ready s { s.vacate r.key with records := (s.vacate r.key).records.push (some r) }
      s.records.size r := by
  have hv := vacated_vacate hs r.key
  have hgp := get?_push (s := s.vacate r.key) (some r)
  refine ⟨hv.limits, hv.coherent.limits.trans hv.limits, fun k => ?_, fun h => ?_,
    fun key k hkey => ?_⟩
  · rw [hgp, hv.size, hv.get?]
  · have hnew : h.formula = s.records.size → s.observers.area? h = none := fun hf =>
      hs.area?_eq_none (by rw [hf, get?_size])
    refine (hv.area? h).trans ?_
    by_cases hf : h.formula = s.records.size
    · simp [hf, hnew hf]
    · simp [hf]
  · refine (hv.coherent.index key k).trans ?_
    rw [hs.index, hv.get?, ← hs.filter_key]
    constructor
    · rintro ⟨d, hd, he⟩
      have hd' : s.get? k = some d := (Option.filter_eq_some_iff.mp hd).1
      exact ⟨Nat.ne_of_lt (get?_lt hd'), d, hd', he⟩
    · rintro ⟨-, d, hd, he⟩
      exact ⟨d, Option.filter_eq_some_iff.mpr ⟨hd, by simp [he, hkey]⟩, he⟩

theorem put_insert (links : SheetLinks) (r : FormulaRecord) (hs : s.Coherent) :
    Put s (s.insert links r).2 links s.records.size r := by
  have heq : (s.insert links r).2 =
      settle { s.vacate r.key with records := (s.vacate r.key).records.push (some r) } links
        s.records.size r := by
    rw [← (vacated_vacate hs r.key).size]
    rfl
  rw [heq]
  exact (ready_push hs r).put_settle hs links

/-! ### A changed formula -/

/-- The store in which a formula is neither found nor recorded, and has new contents. -/
private def lift (s : FormulaStore) (id : Nat) (old r : FormulaRecord) : FormulaStore :=
  ((s.untrackAll id old).release id old.key).setRecord id (some r)

/-- The store without the formula that the index finds at a key, unless that is `id`. -/
private def displace (s : FormulaStore) (id : Nat) (key : FormulaKey) : FormulaStore :=
  match s.positions[key]? with
  | none => s
  | some displaced =>
    if displaced = id then s
    else match s.get? displaced with
      | none => s
      | some d => (s.untrackAll displaced d).setRecord displaced none

lemma update_of_none {id : Nat} (h : s.get? id = none) (links : SheetLinks)
    (f : FormulaRecord → FormulaRecord) : s.update links id f = s := by
  simp [update, h]

private lemma update_of_some {id : Nat} {old : FormulaRecord} (h : s.get? id = some old)
    (links : SheetLinks) (f : FormulaRecord → FormulaRecord) :
    s.update links id f =
      settle ((s.lift id old (f old)).displace id (f old).key) links id (f old) := by
  unfold update
  rw [h]
  rfl

private lemma displace_of_some {id k : Nat} {key : FormulaKey} {d : FormulaRecord}
    (hp : s.positions[key]? = some k) (hk : k ≠ id) (hd : s.get? k = some d) :
    s.displace id key = (s.untrackAll k d).setRecord k none := by
  unfold displace
  simp only [hp, hk, if_false, hd]

/-- `t` is `s` with the record `r` as formula `id`, which is neither found nor recorded. -/
private structure Lifted (s t : FormulaStore) (id : Nat) (r : FormulaRecord) : Prop where
  limits : t.limits = s.limits
  observers_limits : t.observers.limits = s.limits
  size : t.records.size = s.records.size
  get? : ∀ k, t.get? k = if k = id then some r else s.get? k
  area? : ∀ h, t.observers.area? h = if h.formula = id then none else s.observers.area? h
  positions : ∀ (key : FormulaKey) k,
    t.positions[key]? = some k ↔ k ≠ id ∧ s.positions[key]? = some k

private lemma lifted_lift (hs : s.Coherent) {id : Nat} {old : FormulaRecord}
    (hold : s.get? id = some old) (r : FormulaRecord) : Lifted s (s.lift id old r) id r := by
  have hpos : s.positions[old.key]? = some id := (hs.positions_eq_some_iff hold).mpr rfl
  unfold lift
  refine ⟨by simp, by simp [hs.limits], by simp, fun k => ?_, fun h => ?_, fun key k => ?_⟩
  · rw [get?_setRecord _ (by simpa using get?_lt hold)]
    simp
  · rw [observers_setRecord, observers_release, area?_untrackAll_of_lt (hs.lt_length hold)]
  · rw [positions_setRecord, positions_release _ (by simpa using hpos), positions_untrackAll]
    by_cases hkey : key = old.key
    · simp [hkey, hpos, eq_comm (a := id)]
    · have hid : s.positions[key]? ≠ some id := fun h =>
        hkey ((hs.positions_eq_some_iff hold).mp h)
      rw [if_neg hkey]
      refine ⟨fun h => ⟨?_, h⟩, And.right⟩
      rintro rfl
      exact hid h

private lemma Lifted.ready_displace {t : FormulaStore} {id : Nat} {r : FormulaRecord}
    (ht : Lifted s t id r) (hs : s.Coherent) : Ready s (t.displace id r.key) id r := by
  rcases hp : t.positions[r.key]? with _ | d
  · have hfree : ∀ k, k ≠ id → s.positions[r.key]? ≠ some k := fun k hk h => by
      rw [(ht.positions r.key k).mpr ⟨hk, h⟩] at hp
      cases hp
    have heq : t.displace id r.key = t := by
      unfold displace
      rw [hp]
    rw [heq]
    refine ⟨ht.limits, ht.observers_limits, fun k => ?_, fun h => ?_,
      fun key k _ => ht.positions key k⟩
    · rw [ht.get?]
      by_cases hk : k = id
      · simp [hk]
      · simp [hk, hfree k hk]
    · rw [ht.area?]
      by_cases hf : h.formula = id
      · simp [hf]
      · simp [hf, hfree h.formula hf]
  · obtain ⟨hd, hpos⟩ := (ht.positions r.key d).mp hp
    obtain ⟨rd, hrd, -⟩ := (hs.index r.key d).mp hpos
    have hrt : t.get? d = some rd := by rw [ht.get?, if_neg hd, hrd]
    have hlt : ∀ i a, t.observers.area? ⟨d, i⟩ = some a → i < rd.tokens.length := by
      intro i a ha
      rw [ht.area?, if_neg hd] at ha
      exact hs.lt_length hrd i a ha
    rw [displace_of_some hp hd hrt]
    refine ⟨ht.limits, by simp [ht.observers_limits], fun k => ?_, fun h => ?_,
      fun key k _ => ht.positions key k⟩
    · rw [get?_setRecord _ (by simpa [ht.size] using get?_lt hrd), get?_untrackAll, ht.get?, hpos]
      by_cases hk : k = d
      · simp [hk, hd]
      · simp [hk, Ne.symm hk]
    · rw [observers_setRecord, area?_untrackAll_of_lt hlt, ht.area?, hpos]
      by_cases hf : h.formula = d
      · simp [hf]
      · simp [hf, Ne.symm hf]

theorem put_update (hs : s.Coherent) {id : Nat} {old : FormulaRecord}
    (hold : s.get? id = some old) (links : SheetLinks) (f : FormulaRecord → FormulaRecord) :
    Put s (s.update links id f) links id (f old) := by
  rw [update_of_some hold]
  exact ((lifted_lift hs hold (f old)).ready_displace hs).put_settle hs links

end

end FormulaStore

end Spreadsheet
