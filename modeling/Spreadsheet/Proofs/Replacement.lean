import Spreadsheet.Proofs.Coherence

/-!
Replacing single tokens of stored formulas.

A replacement changes neither the key of a record nor the number of its tokens, so a run of
replacements comes down to a change of tokens in place.
-/

namespace Spreadsheet

namespace FormulaBody

@[simp] lemma tokens_withTokens (b : FormulaBody) (ts : List Token) :
    (b.withTokens ts).tokens = ts := by
  cases b <;> rfl

@[simp] lemma kind_withTokens (b : FormulaBody) (ts : List Token) :
    (b.withTokens ts).kind = b.kind := by
  cases b <;> rfl

@[simp] lemma position_withTokens (b : FormulaBody) (ts : List Token) :
    (b.withTokens ts).position = b.position := by
  cases b <;> rfl

@[simp] lemma members_withTokens (b : FormulaBody) (ts : List Token) :
    (b.withTokens ts).members = b.members := by
  cases b <;> rfl

@[simp] lemma withTokens_withTokens (b : FormulaBody) (ts ts' : List Token) :
    (b.withTokens ts).withTokens ts' = b.withTokens ts' := by
  cases b <;> rfl

@[simp] lemma withTokens_tokens (b : FormulaBody) : b.withTokens b.tokens = b := by
  cases b <;> rfl

end FormulaBody

namespace FormulaRecord

/-- The record with each token changed, which may depend on its position. -/
def mapTokens (r : FormulaRecord) (f : Nat → Token → Token) : FormulaRecord :=
  { r with body := r.body.withTokens (r.tokens.mapIdx f) }

variable (r : FormulaRecord) (f g : Nat → Token → Token)

@[simp] lemma sheet_mapTokens : (r.mapTokens f).sheet = r.sheet := rfl

@[simp] lemma tokens_mapTokens : (r.mapTokens f).tokens = r.tokens.mapIdx f := by
  simp [mapTokens, tokens]

@[simp] lemma position_mapTokens : (r.mapTokens f).position = r.position := by
  simp [mapTokens, position]

@[simp] lemma key_mapTokens : (r.mapTokens f).key = r.key := by
  simp [mapTokens, key, place, position]

@[simp] lemma kind_mapTokens : (r.mapTokens f).body.kind = r.body.kind := by
  simp [mapTokens]

@[simp] lemma members_mapTokens : (r.mapTokens f).body.members = r.body.members := by
  simp [mapTokens]

lemma mapTokens_mapTokens :
    (r.mapTokens f).mapTokens g = r.mapTokens fun i t => g i (f i t) := by
  obtain ⟨sheet, body⟩ := r
  cases body <;> simp [mapTokens, tokens, FormulaBody.tokens, FormulaBody.withTokens,
    List.mapIdx_mapIdx, Function.comp_def]

lemma mapTokens_congr (h : ∀ i t, r.tokens[i]? = some t → f i t = g i t) :
    r.mapTokens f = r.mapTokens g := by
  have : r.tokens.mapIdx f = r.tokens.mapIdx g := by
    refine List.ext_getElem? fun i => ?_
    rcases ht : r.tokens[i]? with _ | t
    · simp [ht]
    · simp [ht, h i t ht]
  simp [mapTokens, this]

lemma mapTokens_id (h : ∀ i t, r.tokens[i]? = some t → f i t = t) : r.mapTokens f = r := by
  have hid : r.tokens.mapIdx (fun _ t => t) = r.body.tokens :=
    List.ext_getElem? fun i => by simp [tokens]
  rw [r.mapTokens_congr f (fun _ t => t) h, mapTokens, hid, FormulaBody.withTokens_tokens]

lemma setToken_eq (i : Nat) (t : Token) :
    r.setToken i t = r.mapTokens fun j u => if j = i then t else u := by
  unfold setToken mapTokens
  congr 2
  refine List.ext_getElem? fun j => ?_
  rw [List.getElem?_set, List.getElem?_mapIdx]
  by_cases hj : j = i
  · subst hj
    by_cases hlt : j < r.tokens.length
    · simp [hlt]
    · simp [hlt]
  · rcases r.tokens[j]? with _ | u <;> simp [hj, Ne.symm hj]

/-- What a token observes depends on the token and on the cells of the record alone. -/
lemma observed?_congr {r r' : FormulaRecord} {i : Nat} (hs : r'.sheet = r.sheet)
    (hp : r'.position = r.position) (hm : r'.body.members = r.body.members)
    (ht : r'.tokens[i]? = r.tokens[i]?) (links : SheetLinks) (limits : Limits) :
    r'.observed? links limits i = r.observed? links limits i := by
  unfold observed?
  rw [hs, hp, hm, ht]

lemma due?_mapTokens {i : Nat} (h : ∀ t, r.tokens[i]? = some t → f i t = t) (links : SheetLinks)
    (limits : Limits) : (r.mapTokens f).due? links limits i = r.due? links limits i := by
  unfold due?
  rw [observed?_congr (r.sheet_mapTokens f) (r.position_mapTokens f) (r.members_mapTokens f)]
  rcases ht : r.tokens[i]? with _ | t
  · simp [ht]
  · simp [ht, h t ht]

end FormulaRecord

/-- Records what a token observes now in place of what it observed before. -/
def Observers.renew (o : Observers) (h : Handle) : Option Area → Observers
  | some a => o.track h a
  | none => o.untrack h

namespace FormulaStore

variable {s : FormulaStore} {links : SheetLinks}

lemma Handle.mk_eq_iff {h : Handle} {i : Nat} : Handle.mk h.formula i = h ↔ i = h.token := by
  cases h
  simp

lemma limits_renew (o : Observers) (h : Handle) (a? : Option Area) :
    (o.renew h a?).limits = o.limits := by
  cases a? <;> simp [Observers.renew]

lemma area?_renew (links : SheetLinks) (o : Observers) (r : FormulaRecord) (h k : Handle)
    (i : Nat) : (o.renew h (r.observed? links o.limits i)).area? k =
      if k = h then r.due? links o.limits i else o.area? k := by
  unfold FormulaRecord.due?
  rcases r.observed? links o.limits i with _ | a
  · exact Observers.area?_untrack o h k
  · rw [Observers.renew, Observers.area?_track, isWhole_eq]
    cases hw : a.range.isWhole o.limits <;> simp [Option.filter, hw]

lemma replaceToken_of_some {h : Handle} {r : FormulaRecord} (hr : s.get? h.formula = some r)
    (hlt : h.token < r.tokens.length) (links : SheetLinks) (t : Token) :
    s.replaceToken links h t = { s.setRecord h.formula (some (r.setToken h.token t)) with
      observers := s.observers.renew h
        ((r.setToken h.token t).observed? links s.limits h.token) } := by
  unfold replaceToken
  simp only [hr, hlt, if_true]
  rfl

lemma replaceToken_of_none {h : Handle} (hn : s.token? h = none) (links : SheetLinks) (t : Token) :
    s.replaceToken links h t = s := by
  unfold replaceToken
  rcases hr : s.get? h.formula with _ | r
  · rfl
  · have hle : ¬h.token < r.tokens.length := by simpa [token?, hr] using hn
    simp [hle]

/-- `s'` is `s` with the tokens of one formula changed in place. -/
structure Change (s s' : FormulaStore) (links : SheetLinks) (h : Handle) (t : Token) : Prop where
  get? : ∀ k, s'.get? k =
    (s.get? k).map (·.mapTokens fun i u => if Handle.mk k i = h then t else u)
  area? : ∀ k, s'.observers.area? k = if k = h then s'.due? links h else s.observers.area? k
  limits : s'.limits = s.limits
  coherent : s'.Coherent

theorem change_replaceToken (hs : s.Coherent) {h : Handle} (ht : (s.token? h).isSome)
    (links : SheetLinks) (t : Token) : Change s (s.replaceToken links h t) links h t := by
  obtain ⟨u, hu⟩ := Option.isSome_iff_exists.mp ht
  obtain ⟨r, hr, hru⟩ := Option.bind_eq_some_iff.mp hu
  have hlt : h.token < r.tokens.length := (List.getElem?_eq_some_iff.mp hru).1
  have heq := replaceToken_of_some hr hlt links t
  have hget : ∀ k, (s.replaceToken links h t).get? k =
      (s.get? k).map (·.mapTokens fun i u => if Handle.mk k i = h then t else u) := by
    intro k
    rw [heq]
    refine (get?_setRecord s (get?_lt hr) _ k).trans ?_
    split_ifs with hk
    · subst hk
      rw [hr, r.setToken_eq]
      simp [Handle.mk_eq_iff]
    · rcases hk' : s.get? k with _ | d
      · rfl
      · rw [Option.map_some, d.mapTokens_id]
        rintro i u -
        rw [if_neg]
        rintro rfl
        exact hk rfl
  have hdue : (s.replaceToken links h t).due? links h =
      (r.setToken h.token t).due? links s.limits h.token := by
    unfold due?
    rw [hget, hr, r.setToken_eq]
    simp [heq, Handle.mk_eq_iff]
  have harea : ∀ k, (s.replaceToken links h t).observers.area? k =
      if k = h then (s.replaceToken links h t).due? links h else s.observers.area? k := by
    intro k
    rw [hdue, heq]
    have hrenew := area?_renew links s.observers (r.setToken h.token t) h k h.token
    rw [hs.limits] at hrenew
    exact hrenew
  refine ⟨hget, harea, by rw [heq]; rfl, ⟨?_, fun key k => ?_, fun k a ha => ?_⟩⟩
  · rw [heq]
    exact (limits_renew _ _ _).trans hs.limits
  · have hpos : (s.replaceToken links h t).positions = s.positions := by rw [heq]; rfl
    rw [hpos, hs.index, hget]
    rcases s.get? k with _ | d <;> simp
  · rw [hget]
    rw [harea] at ha
    split_ifs at ha with hk
    · subst hk
      exact ⟨_, by rw [hr]; rfl, by simpa using hlt⟩
    · obtain ⟨d, hd, hdl⟩ := hs.live k a ha
      exact ⟨_, by rw [hd]; rfl, by simpa using hdl⟩

lemma Change.due?_ne {s' : FormulaStore} {h : Handle} {t : Token} (hc : Change s s' links h t)
    {k : Handle} (hk : k ≠ h) : s'.due? links k = s.due? links k := by
  unfold due?
  rw [hc.get?, hc.limits]
  rcases s.get? k.formula with _ | r
  · rfl
  · refine r.due?_mapTokens _ (fun u _ => if_neg ?_) links s.limits
    exact hk

/-! ### Runs of replacements by a rule -/

/-- The new form of a token under a rule, which looks at the sheet of the formula and at the
token. -/
def replacement? (s : FormulaStore) (rule : Nat → Token → Option Token) (h : Handle) :
    Option Token :=
  (s.get? h.formula).bind fun r => (r.tokens[h.token]?).bind (rule r.sheet)

def replaceBy (links : SheetLinks) (rule : Nat → Token → Option Token) (s : FormulaStore)
    (h : Handle) : FormulaStore :=
  match s.replacement? rule h with
  | some t => s.replaceToken links h t
  | none => s

variable {rule : Nat → Token → Option Token}

lemma token?_of_replacement? {h : Handle} {t : Token} (ht : s.replacement? rule h = some t) :
    (s.token? h).isSome := by
  obtain ⟨r, hr, ht⟩ := Option.bind_eq_some_iff.mp ht
  obtain ⟨u, hu, -⟩ := Option.bind_eq_some_iff.mp ht
  simp [token?, hr, hu]

/-- `s'` is `s` with the rule applied to the given tokens. -/
structure Replaced (s s' : FormulaStore) (rule : Nat → Token → Option Token)
    (p : Handle → Prop) [DecidablePred p] : Prop where
  get? : ∀ k, s'.get? k = (s.get? k).map fun r =>
    r.mapTokens fun i u => if p ⟨k, i⟩ then (rule r.sheet u).getD u else u
  limits : s'.limits = s.limits
  coherent : s'.Coherent

lemma replaced_replaceBy (hs : s.Coherent) (links : SheetLinks)
    (rule : Nat → Token → Option Token) (h : Handle) :
    Replaced s (replaceBy links rule s h) rule (· = h) := by
  unfold replaceBy
  rcases ht : s.replacement? rule h with _ | t
  · refine ⟨fun k => ?_, rfl, hs⟩
    rcases hr : s.get? k with _ | r
    · rfl
    · rw [Option.map_some, r.mapTokens_id]
      intro i u hu
      split_ifs with hi
      · subst hi
        have : rule r.sheet u = none := by simpa [replacement?, hr, hu] using ht
        simp [this]
      · rfl
  · have hc := change_replaceToken hs (token?_of_replacement? ht) links t
    refine ⟨fun k => ?_, hc.limits, hc.coherent⟩
    rw [hc.get?]
    rcases hr : s.get? k with _ | r
    · rfl
    · rw [Option.map_some, Option.map_some, r.mapTokens_congr]
      intro i u hu
      split_ifs with hi
      · subst hi
        have : rule r.sheet u = some t := by simpa [replacement?, hr, hu] using ht
        simp [this]
      · rfl

theorem replaced_foldl (hs : s.Coherent) (links : SheetLinks)
    (rule : Nat → Token → Option Token) {hl : List Handle} (hn : hl.Nodup) :
    Replaced s (hl.foldl (replaceBy links rule) s) rule (· ∈ hl) := by
  induction hl generalizing s with
  | nil =>
    refine ⟨fun k => ?_, rfl, hs⟩
    rw [List.foldl_nil]
    rcases s.get? k with _ | r
    · rfl
    · rw [Option.map_some, r.mapTokens_id]
      simp
  | cons h hl ih =>
    obtain ⟨hnot, hn⟩ := List.nodup_cons.mp hn
    have h1 := replaced_replaceBy hs links rule h
    have h2 := ih h1.coherent hn
    refine ⟨fun k => ?_, h2.limits.trans h1.limits, h2.coherent⟩
    rw [List.foldl_cons, h2.get?, h1.get?]
    rcases s.get? k with _ | r
    · rfl
    · simp only [Option.map_some, FormulaRecord.mapTokens_mapTokens,
        FormulaRecord.sheet_mapTokens]
      rw [r.mapTokens_congr]
      intro i u _
      by_cases hi : Handle.mk k i = h
      · simp [hi, hnot]
      · simp [hi]

/-- Replacing tokens one after the other by what the rule made of them at first is the same as
applying the rule to each in its turn. -/
lemma foldl_replaceToken (hs : s.Coherent) {xs : List (Handle × Token)}
    (hn : (xs.map Prod.fst).Nodup) (hx : ∀ x ∈ xs, s.replacement? rule x.1 = some x.2) :
    xs.foldl (fun s x => s.replaceToken links x.1 x.2) s =
      (xs.map Prod.fst).foldl (replaceBy links rule) s := by
  induction xs generalizing s with
  | nil => rfl
  | cons x xs ih =>
    obtain ⟨hnot, hn⟩ := List.nodup_cons.mp hn
    have hfirst := hx x List.mem_cons_self
    have hstep : replaceBy links rule s x.1 = s.replaceToken links x.1 x.2 := by
      rw [replaceBy, hfirst]
    have hc := change_replaceToken hs (token?_of_replacement? hfirst) links x.2
    rw [List.map_cons, List.foldl_cons, List.foldl_cons, hstep]
    refine ih hc.coherent hn fun y hy => ?_
    have hne : y.1 ≠ x.1 := fun he => hnot (he ▸ List.mem_map_of_mem hy)
    rw [← hx y (List.mem_cons_of_mem x hy)]
    unfold replacement?
    rw [hc.get?]
    rcases s.get? y.1.formula with _ | r
    · rfl
    · rcases hu : r.tokens[y.1.token]? with _ | u
      · simp [hu]
      · simp [hu, hne]

end FormulaStore

end Spreadsheet
