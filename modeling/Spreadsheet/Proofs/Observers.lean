import Mathlib.Algebra.Group.Nat.Defs
import Mathlib.Data.List.Nodup
import Mathlib.Tactic.Common
import Spreadsheet.Workbook.Observers

/-!
What the observers know about a token after each change, and what the queries find.

The view is `area?`, the area that a token is recorded with. Every change is at one token; the
queries answer with exactly the tokens of which the view says so, each once. This is so also for the
queries that look into the index of a sheet, since the indexes hold what the view shows.
-/

namespace Spreadsheet

namespace Handle

lemma compare_eq {h k : Handle} : Handle.compare h k = .eq ↔ h = k :=
  Std.LawfulEqCmp.compare_eq_iff_eq

@[simp] lemma mem_sort {hs : List Handle} {h : Handle} : h ∈ sort hs ↔ h ∈ hs :=
  List.mem_mergeSort

lemma nodup_sort {hs : List Handle} : (sort hs).Nodup ↔ hs.Nodup :=
  (List.mergeSort_perm hs _).nodup_iff

end Handle

namespace Observers

variable {T : Type} [RegionIndex T] (o : Observers T) (h k : Handle) (a : Area)

@[simp] lemma area?_empty (limits : Limits) : (empty limits : Observers T).area? h = none := by
  simp [area?, empty]

@[simp] lemma limits_untrack : (o.untrack h).limits = o.limits := by
  unfold untrack
  split <;> rfl

@[simp] lemma limits_track : (o.track h a).limits = o.limits := by
  unfold track
  split <;> simp

lemma area?_untrack : (o.untrack h).area? k = if k = h then none else o.area? k := by
  simp only [area?, getElem?_areas_untrack, eq_comm (a := h)]

lemma area?_track : (o.track h a).area? k =
    if k = h then (if o.isWhole a.range then none else some a) else o.area? k := by
  unfold track
  split
  · exact area?_untrack o h k
  · unfold area?
    simp only [Std.HashMap.getElem?_insert, getElem?_areas_untrack, beq_iff_eq, eq_comm (a := h)]
    split_ifs <;> rfl

/-! ### Queries -/

variable {o h a}

lemma mem_areas : (h, a) ∈ o.areas.toList ↔ o.area? h = some a :=
  Std.HashMap.mem_toList_iff_getElem?_eq_some

/-- The index of a sheet holds what is recorded there. -/
lemma mem_entriesOn {sheet : Nat} {e : Entry} :
    e ∈ RegionIndex.entriesOn o.sheets sheet ↔ o.area? e.handle = some ⟨sheet, e.range⟩ := by
  rw [← List.count_pos_iff, o.hold, area?]
  split_ifs with ha <;> simp [ha]

/-- No token has two entries on a sheet. -/
lemma pairwise_entriesOn (o : Observers T) (sheet : Nat) :
    (RegionIndex.entriesOn o.sheets sheet).Pairwise fun e e' => e.handle ≠ e'.handle := by
  have hnodup : (RegionIndex.entriesOn o.sheets sheet).Nodup :=
    List.nodup_iff_count_le_one.mpr fun e => by
      rw [o.hold]
      split <;> omega
  refine List.Pairwise.imp_of_mem ?_ hnodup
  intro e e' he he' hne heq
  rw [mem_entriesOn] at he he'
  rw [heq, he', Option.some.injEq, Area.mk.injEq] at he
  obtain ⟨handle, range⟩ := e
  exact hne (by rw [Entry.mk.injEq]; exact ⟨heq, he.2.symm⟩)

/-- A query finds the tokens of the entries that meet the area. -/
lemma overlapping_eq_sort (o : Observers T) (a : Area) : ∃ es : List Entry,
    es.Perm ((RegionIndex.entriesOn o.sheets a.sheet).filter fun e =>
      (e.range.intersect? a.range).isSome) ∧
    o.overlapping a = Handle.sort (es.map Entry.handle) := by
  unfold overlapping RegionIndex.entriesOn
  cases o.sheets[a.sheet]? with
  | none => exact ⟨[], .refl _, by simp [Handle.sort]⟩
  | some t => exact ⟨_, RegionIndex.meeting_perm t a.range, rfl⟩

lemma mem_overlapping : h ∈ o.overlapping a ↔
    ∃ b, o.area? h = some b ∧ b.sheet = a.sheet ∧ (b.range.intersect? a.range).isSome := by
  obtain ⟨es, hperm, heq⟩ := o.overlapping_eq_sort a
  simp only [heq, Handle.mem_sort, List.mem_map, hperm.mem_iff, List.mem_filter, mem_entriesOn]
  constructor
  · rintro ⟨⟨k, r⟩, ⟨hk, hr⟩, rfl⟩
    exact ⟨_, hk, rfl, hr⟩
  · rintro ⟨⟨s, r⟩, hr, rfl, hmeet⟩
    exact ⟨⟨h, r⟩, ⟨hr, hmeet⟩, rfl⟩

lemma mem_onSheet {sheet : Nat} :
    h ∈ o.onSheet sheet ↔ ∃ b, o.area? h = some b ∧ b.sheet = sheet := by
  unfold onSheet
  simp only [Handle.mem_sort, List.mem_filterMap, Prod.exists, Option.ite_none_right_eq_some]
  constructor
  · rintro ⟨k, b, hm, hb, he⟩
    obtain rfl : k = h := Option.some.inj he
    exact ⟨b, mem_areas.mp hm, hb⟩
  · rintro ⟨b, hm, hb⟩
    exact ⟨h, b, mem_areas.mpr hm, hb, rfl⟩

lemma nodup_overlapping (o : Observers T) (a : Area) : (o.overlapping a).Nodup := by
  obtain ⟨es, hperm, heq⟩ := o.overlapping_eq_sort a
  rw [heq, Handle.nodup_sort, (hperm.map Entry.handle).nodup_iff]
  exact List.pairwise_map.mpr ((o.pairwise_entriesOn a.sheet).filter _)

lemma nodup_onSheet (o : Observers T) (sheet : Nat) : (o.onSheet sheet).Nodup := by
  rw [onSheet, Handle.nodup_sort]
  refine List.Pairwise.filterMap _ ?_ o.areas.distinct_keys_toList
  intro x y hxy u hu v hv huv
  obtain ⟨-, hu⟩ := Option.ite_none_right_eq_some.mp hu
  obtain ⟨-, hv⟩ := Option.ite_none_right_eq_some.mp hv
  rw [beq_eq_false_iff_ne] at hxy
  exact hxy (by rw [Option.some.inj hu, Option.some.inj hv, huv])

end Observers

end Spreadsheet
