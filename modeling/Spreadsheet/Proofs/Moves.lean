import Spreadsheet.Proofs.Coherence

/-!
Runs of removals and of moves.

A run of moves displaces nothing if no formula comes to a place that is taken at that time: not by
one that does not move, not by one that moves later, and not by one that came there before.
-/

namespace Spreadsheet

namespace FormulaStore

variable {s s' : FormulaStore}

lemma Put.get?_self {links : SheetLinks} {id : Nat} {r : FormulaRecord} (h : Put s s' links id r) :
    s'.get? id = some r := by
  rw [h.get?, if_pos rfl]

/-- A formula that is not displaced stays. -/
lemma Put.get?_of_ne {links : SheetLinks} {id k : Nat} {r d : FormulaRecord}
    (h : Put s s' links id d) (hr : s.get? k = some r) (hk : k ≠ id) (hkey : r.key ≠ d.key) :
    s'.get? k = some r := by
  rw [h.get?, if_neg hk, hr, Option.filter_some, if_pos]
  simpa using hkey

/-- `s'` is `s` without some formulas. -/
structure Removed (s s' : FormulaStore) (ids : List Nat) : Prop where
  get? : ∀ k, s'.get? k = if k ∈ ids then none else s.get? k
  limits : s'.limits = s.limits
  coherent : s'.Coherent

theorem removed_foldl (hs : s.Coherent) (ids : List Nat) :
    Removed s (ids.foldl remove s) ids := by
  induction ids generalizing s with
  | nil => exact ⟨fun k => by simp, rfl, hs⟩
  | cons id ids ih =>
    have hd := drop_remove hs id
    have hrest := ih hd.coherent
    refine ⟨fun k => ?_, hrest.limits.trans hd.limits, hrest.coherent⟩
    rw [List.foldl_cons, hrest.get?, hd.get?]
    by_cases hk : k = id
    · simp [hk]
    · simp [hk]

/-- The moves of some formulas, one after the other, displace nothing. -/
structure Clear (s : FormulaStore) (f : FormulaRecord → FormulaRecord) (ids : List Nat) : Prop where
  nodup : ids.Nodup
  /-- A place is not taken by a formula that moves later. -/
  later : ids.Pairwise fun a b => ∀ ra rb, s.get? a = some ra → s.get? b = some rb →
    rb.key ≠ (f ra).key
  /-- A place is not taken by a formula that does not move. -/
  fixed : ∀ a ∈ ids, ∀ b, b ∉ ids → ∀ ra rb, s.get? a = some ra → s.get? b = some rb →
    rb.key ≠ (f ra).key
  /-- No two formulas come to the same place. -/
  apart : ∀ a ∈ ids, ∀ b ∈ ids, a ≠ b → ∀ ra rb, s.get? a = some ra → s.get? b = some rb →
    (f rb).key ≠ (f ra).key

/-- `s'` is `s` with some formulas moved. -/
structure Moved (s s' : FormulaStore) (f : FormulaRecord → FormulaRecord) (ids : List Nat) :
    Prop where
  get? : ∀ k, s'.get? k = if k ∈ ids then (s.get? k).map f else s.get? k
  limits : s'.limits = s.limits
  coherent : s'.Coherent

variable {f : FormulaRecord → FormulaRecord} {id : Nat} {ids : List Nat}

lemma Clear.moved_update (hc : s.Clear f (id :: ids)) (hs : s.Coherent) (links : SheetLinks) :
    Moved s (s.update links id f) f [id] := by
  rcases hr : s.get? id with _ | r
  · rw [update_of_none hr]
    refine ⟨fun k => ?_, rfl, hs⟩
    by_cases hk : k = id
    · simp [hk, hr]
    · simp [hk]
  have hp := put_update hs hr links f
  refine ⟨fun k => ?_, hp.limits, hp.coherent⟩
  rw [hp.get?]
  by_cases hk : k = id
  · simp [hk, hr]
  rcases hrk : s.get? k with _ | rk
  · simp [hk]
  have hfree : rk.key ≠ (f r).key := by
    by_cases hmem : k ∈ ids
    · exact (List.pairwise_cons.mp hc.later).1 k hmem r rk hr hrk
    · exact hc.fixed id List.mem_cons_self k (by simp [hk, hmem]) r rk hr hrk
  simp [hk, Option.filter_some, hfree]

lemma Clear.tail (hc : s.Clear f (id :: ids)) (hm : Moved s s' f [id]) : s'.Clear f ids := by
  obtain ⟨hnot, hnodup⟩ := List.nodup_cons.mp hc.nodup
  have hsame : ∀ k ∈ ids, s'.get? k = s.get? k := by
    intro k hk
    have hne : k ≠ id := fun he => hnot (he ▸ hk)
    rw [hm.get?, if_neg (by simpa using hne)]
  refine ⟨hnodup, ?_, ?_, ?_⟩
  · refine (List.pairwise_cons.mp hc.later).2.imp_of_mem fun ha hb h ra rb hra hrb => ?_
    exact h ra rb (hsame _ ha ▸ hra) (hsame _ hb ▸ hrb)
  · intro a ha b hb ra rb hra hrb
    rw [hsame a ha] at hra
    rw [hm.get?] at hrb
    split_ifs at hrb with hbid
    · -- the formula that has just moved
      obtain ⟨r, hr, rfl⟩ := Option.map_eq_some_iff.mp hrb
      obtain rfl := List.mem_singleton.mp hbid
      exact hc.apart a (List.mem_cons_of_mem _ ha) b List.mem_cons_self (fun he => hnot (he ▸ ha))
        ra r hra hr
    · exact hc.fixed a (List.mem_cons_of_mem _ ha) b (by simpa [hb] using hbid) ra rb hra hrb
  · intro a ha b hb hne ra rb hra hrb
    exact hc.apart a (List.mem_cons_of_mem _ ha) b (List.mem_cons_of_mem _ hb) hne ra rb
      (hsame a ha ▸ hra) (hsame b hb ▸ hrb)

theorem Clear.moved_foldl (hc : s.Clear f ids) (hs : s.Coherent) (links : SheetLinks) :
    Moved s (ids.foldl (fun s id => s.update links id f) s) f ids := by
  induction ids generalizing s with
  | nil => exact ⟨fun k => by simp, rfl, hs⟩
  | cons id ids ih =>
    have hfirst := hc.moved_update hs links
    have hrest := ih (hc.tail hfirst) hfirst.coherent
    have hnot := (List.nodup_cons.mp hc.nodup).1
    refine ⟨fun k => ?_, hrest.limits.trans hfirst.limits, hrest.coherent⟩
    rw [List.foldl_cons, hrest.get?, hfirst.get?]
    by_cases hk : k = id
    · simp [hk, hnot]
    · simp [hk]

/-- A formula that is left by a run of moves is one that was there, moved once if at all. -/
lemma of_get?_foldl_update (hs : s.Coherent) (hn : ids.Nodup) (links : SheetLinks) {k : Nat}
    {r' : FormulaRecord}
    (h : (ids.foldl (fun s id => s.update links id f) s).get? k = some r') :
    ∃ r, s.get? k = some r ∧ r' = if k ∈ ids then f r else r := by
  induction ids generalizing s with
  | nil => exact ⟨r', h, by simp⟩
  | cons id ids ih =>
    obtain ⟨hnot, hn⟩ := List.nodup_cons.mp hn
    rcases hid : s.get? id with _ | d
    · rw [List.foldl_cons, update_of_none hid] at h
      obtain ⟨r, hr, rfl⟩ := ih hs hn h
      have hne : k ≠ id := by
        rintro rfl
        rw [hid] at hr
        cases hr
      exact ⟨r, hr, by simp [hne]⟩
    · have hput := put_update hs hid links f
      obtain ⟨r, hr, rfl⟩ := ih hput.coherent hn h
      rw [hput.get?] at hr
      split_ifs at hr with hk
      · subst hk
        cases hr
        exact ⟨d, hid, by simp [hnot]⟩
      · exact ⟨r, (Option.filter_eq_some_iff.mp hr).1, by simp [hk]⟩

/-! ### Moves of which some displace -/

/-- The formulas that are still to move are not changed by a move, unless it displaces them. -/
lemma Put.of_get?_of_mem {links : SheetLinks} {r d : FormulaRecord} {a : Nat}
    (h : Put s s' links id r) (hid : id ∉ ids) (ha : a ∈ ids) (hd : s'.get? a = some d) :
    s.get? a = some d := by
  rw [h.get?, if_neg fun he : a = id => hid (he ▸ ha)] at hd
  exact (Option.filter_eq_some_iff.mp hd).1

/-- A formula that does not move stays, if no other one comes to its place. -/
lemma get?_foldl_update_of_fixed (hs : s.Coherent) (hn : ids.Nodup) (links : SheetLinks) {k : Nat}
    {r : FormulaRecord} (hr : s.get? k = some r) (hk : k ∉ ids)
    (hfree : ∀ a ∈ ids, ∀ d, s.get? a = some d → (f d).key ≠ r.key) :
    (ids.foldl (fun s id => s.update links id f) s).get? k = some r := by
  induction ids generalizing s with
  | nil => exact hr
  | cons id ids ih =>
    obtain ⟨hid, hn⟩ := List.nodup_cons.mp hn
    obtain ⟨hne, hk⟩ := List.ne_and_not_mem_of_not_mem_cons hk
    rw [List.foldl_cons]
    rcases hd : s.get? id with _ | d
    · rw [update_of_none hd]
      exact ih hs hn hr hk fun a ha => hfree a (List.mem_cons_of_mem _ ha)
    · have hput := put_update hs hd links f
      refine ih hput.coherent hn ?_ hk fun a ha d' hd' =>
        hfree a (List.mem_cons_of_mem _ ha) d' (hput.of_get?_of_mem hid ha hd')
      exact hput.get?_of_ne hr hne (Ne.symm (hfree id List.mem_cons_self d hd))

/-- A formula is at its new place after a run of moves, if none came to its old place before it had
moved, and none to the new one later. -/
theorem get?_foldl_update_of_moved (hs : s.Coherent) (hn : ids.Nodup) (links : SheetLinks) {k : Nat}
    {r : FormulaRecord} (hr : s.get? k = some r) (hk : k ∈ ids)
    (hold : ids.Pairwise fun a b => b = k → ∀ d, s.get? a = some d → (f d).key ≠ r.key)
    (hnew : ids.Pairwise fun a b => a = k → ∀ d, s.get? b = some d → (f d).key ≠ (f r).key) :
    (ids.foldl (fun s id => s.update links id f) s).get? k = some (f r) := by
  induction ids generalizing s with
  | nil => cases hk
  | cons id ids ih =>
    obtain ⟨hid, hnodup⟩ := List.nodup_cons.mp hn
    obtain ⟨hfirst, hrest⟩ := List.pairwise_cons.mp hold
    obtain ⟨hfirst', hrest'⟩ := List.pairwise_cons.mp hnew
    rw [List.foldl_cons]
    rcases List.mem_cons.mp hk with rfl | hk
    · have hput := put_update hs hr links f
      have hmoved : (s.update links k f).get? k = some (f r) := hput.get?_self
      exact get?_foldl_update_of_fixed hput.coherent hnodup links hmoved hid
        fun a ha d hd => hfirst' a ha rfl d (hput.of_get?_of_mem hid ha hd)
    · have hne : k ≠ id := fun he => hid (he ▸ hk)
      rcases hd : s.get? id with _ | d
      · rw [update_of_none hd]
        exact ih hs hnodup hr hk hrest hrest'
      · have hput := put_update hs hd links f
        refine ih hput.coherent hnodup ?_ hk ?_ ?_
        · exact hput.get?_of_ne hr hne (Ne.symm (hfirst k hk rfl d hd))
        · exact hrest.imp_of_mem fun ha _ h hb d hd => h hb d (hput.of_get?_of_mem hid ha hd)
        · exact hrest'.imp_of_mem fun _ hb h ha d hd => h ha d (hput.of_get?_of_mem hid hb hd)

end FormulaStore

end Spreadsheet
