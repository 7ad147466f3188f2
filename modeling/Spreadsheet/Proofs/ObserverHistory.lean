import Mathlib.Data.List.Induction
import Spreadsheet.Proofs.FormulaStore

/-!
The observers after any history of calls.

What is recorded for a token is decided by the last call that took effect on it: every call on the
token does, but for a relocation at a time when nothing is recorded. The queries list exactly the
tokens that are recorded with an area of the wanted kind, in strictly ascending order. All this is
so for every index of regions, whatever it is inside.
-/

namespace Spreadsheet

namespace CellRange

/-- Two ranges meet if they have a cell in common. -/
lemma isSome_intersect?_iff {r s : CellRange} :
    (r.intersect? s).isSome ↔ ∃ c, c ∈ r ∧ c ∈ s := by
  have hrow := r.row_le
  have hcol := r.col_le
  have hrow' := s.row_le
  have hcol' := s.col_le
  unfold intersect?
  simp only [mem_iff]
  split_ifs with h
  · refine iff_of_true rfl ⟨⟨max r.start.row s.start.row, max r.start.col s.start.col⟩, ?_⟩
    dsimp only
    omega
  · refine iff_of_false Bool.false_ne_true ?_
    rintro ⟨c, hcr, hcs⟩
    omega

lemma mem_single {c d : Cell} : c ∈ single d ↔ c = d := by
  obtain ⟨row, col⟩ := c
  obtain ⟨row', col'⟩ := d
  rw [mem_iff, Cell.mk.injEq]
  dsimp only [single]
  omega

end CellRange

namespace Handle

/-- The handle comes first in ascending order. -/
def Before (h k : Handle) : Prop :=
  h.formula < k.formula ∨ h.formula = k.formula ∧ h.token < k.token

lemma isLE_compare {h k : Handle} : (Handle.compare h k).isLE ↔ h.Before k ∨ h = k := by
  have hlt : Handle.compare h k = .lt ↔ h.Before k := by
    simp only [Handle.compare, compareLex, compareOn, Ordering.then_eq_lt, Nat.compare_eq_lt,
      Nat.compare_eq_eq, Before]
  rw [Ordering.isLE_iff_eq_lt_or_eq_eq, hlt, compare_eq]

/-- Sorting puts different handles in strictly ascending order. -/
lemma pairwise_sort {hs : List Handle} (h : hs.Nodup) : (sort hs).Pairwise Before := by
  have hsorted : (sort hs).Pairwise fun h k => (Handle.compare h k).isLE :=
    List.pairwise_mergeSort (fun _ _ _ => Std.TransCmp.isLE_trans) (fun h k => by
      rw [Bool.or_eq_true, isLE_compare, isLE_compare, Before, Before]
      obtain ⟨f, i⟩ := h
      obtain ⟨g, j⟩ := k
      simp only [mk.injEq]
      omega) hs
  have hboth := hsorted.and (nodup_sort.mpr h)
  exact hboth.imp fun ⟨hle, hne⟩ => (isLE_compare.mp hle).resolve_right hne

end Handle

/-- A call that may change what is recorded. -/
inductive ObserverCall
  | track (h : Handle) (a : Area)
  | untrack (h : Handle)
  | relocate (h : Handle) (a : Area)

namespace ObserverCall

def handle : ObserverCall → Handle
  | track h _ | untrack h | relocate h _ => h

/-- The area that the call gives to its token. -/
def area? : ObserverCall → Option Area
  | track _ a | relocate _ a => some a
  | untrack _ => none

/-- A relocation takes effect only on a token that is recorded. -/
def takesEffect (recorded : Bool) : ObserverCall → Bool
  | relocate .. => recorded
  | _ => true

/-- What the call leaves recorded if it takes effect. -/
def left? (limits : Limits) (c : ObserverCall) : Option Area :=
  c.area?.filter fun a => !a.range.isWhole limits

/-- What is left recorded by the last of some calls that all took effect. -/
def lastLeft? (limits : Limits) (calls : List ObserverCall) : Option Area :=
  calls.getLast?.bind (left? limits)

/-- The calls of a history, oldest first, that take effect on a token. -/
def effective (limits : Limits) (h : Handle) (history : List ObserverCall) : List ObserverCall :=
  history.foldl (fun past c =>
    if c.handle = h ∧ c.takesEffect (lastLeft? limits past).isSome then past ++ [c] else past) []

end ObserverCall

namespace Observers

open ObserverCall

variable {T : Type} [RegionIndex T]

def call (o : Observers T) : ObserverCall → Observers T
  | .track h a => o.track h a
  | .untrack h => o.untrack h
  | .relocate h a => o.relocate h a

def run (o : Observers T) (history : List ObserverCall) : Observers T := history.foldl call o

/-- The list holds exactly the handles with a property, in strictly ascending order. -/
structure Lists (hs : List Handle) (P : Handle → Prop) : Prop where
  ascending : hs.Pairwise Handle.Before
  mem_iff : ∀ h, h ∈ hs ↔ P h

/-- What the observers answer after a history of calls. -/
structure Answers (o : Observers T) (limits : Limits) (history : List ObserverCall) : Prop where
  area? : ∀ h, o.area? h = lastLeft? limits (effective limits h history)
  overlapping : ∀ a, Lists (o.overlapping a) fun h =>
    ∃ b, o.area? h = some b ∧ b.sheet = a.sheet ∧ ∃ c, c ∈ b.range ∧ c ∈ a.range
  of : ∀ p, Lists (o.of p) fun h => ∃ b, o.area? h = some b ∧ b.sheet = p.sheet ∧ p.cell ∈ b.range
  onSheet : ∀ sheet, Lists (o.onSheet sheet) fun h => ∃ b, o.area? h = some b ∧ b.sheet = sheet
  size : ∃ hs, Lists hs (fun h => (o.area? h).isSome) ∧ o.size = hs.length

/-! ### What is recorded -/

lemma contains_eq (o : Observers T) (h : Handle) : o.contains h = (o.area? h).isSome := by
  rw [contains, Observers.area?, Std.HashMap.isSome_getElem?_eq_contains]

@[simp] lemma limits_call (o : Observers T) (c : ObserverCall) : (o.call c).limits = o.limits := by
  cases c with
  | track h a => exact limits_track o h a
  | untrack h => exact limits_untrack o h
  | relocate h a =>
    change (o.relocate h a).limits = o.limits
    unfold relocate
    split
    · exact limits_track o h a
    · rfl

lemma area?_track_left (o : Observers T) (h k : Handle) (a : Area) : (o.track h a).area? k =
    if h = k then (ObserverCall.track h a).left? o.limits else o.area? k := by
  have hwhole : o.isWhole a.range = a.range.isWhole o.limits := rfl
  rw [area?_track, hwhole]
  by_cases hk : k = h
  · subst hk
    cases hw : a.range.isWhole o.limits <;> simp [left?, ObserverCall.area?, Option.filter, hw]
  · simp [hk, Ne.symm hk]

/-- One call changes what is recorded for its own token, and only if it takes effect. -/
lemma area?_call (o : Observers T) (c : ObserverCall) (h : Handle) : (o.call c).area? h =
    if c.handle = h ∧ c.takesEffect (o.area? h).isSome then c.left? o.limits else o.area? h := by
  cases c with
  | track k a =>
    simp only [handle, takesEffect, and_true]
    exact area?_track_left o k h a
  | untrack k =>
    simp only [handle, takesEffect, and_true]
    rw [show o.call (.untrack k) = o.untrack k from rfl, area?_untrack]
    by_cases hk : h = k
    · simp [hk, left?, ObserverCall.area?]
    · simp [hk, Ne.symm hk]
  | relocate k a =>
    change (if o.contains k then o.track k a else o).area? h =
      if k = h ∧ (o.area? h).isSome then (ObserverCall.track k a).left? o.limits else o.area? h
    rw [contains_eq, apply_ite fun o : Observers T => o.area? h, area?_track_left]
    by_cases hk : k = h
    · simp only [hk, if_true, true_and]
    · simp only [hk, if_false, false_and, ite_self]

lemma run_append (o : Observers T) (history : List ObserverCall) (c : ObserverCall) :
    o.run (history ++ [c]) = (o.run history).call c := by
  simp [run]

lemma effective_append (limits : Limits) (h : Handle) (history : List ObserverCall)
    (c : ObserverCall) : effective limits h (history ++ [c]) =
      if c.handle = h ∧ c.takesEffect (lastLeft? limits (effective limits h history)).isSome
        then effective limits h history ++ [c] else effective limits h history := by
  unfold effective
  rw [List.foldl_append]
  rfl

lemma lastLeft?_append (limits : Limits) (calls : List ObserverCall) (c : ObserverCall) :
    lastLeft? limits (calls ++ [c]) = c.left? limits := by
  simp [lastLeft?]

lemma limits_run (limits : Limits) (history : List ObserverCall) :
    ((empty limits : Observers T).run history).limits = limits := by
  induction history using List.reverseRecOn with
  | nil => rfl
  | append_singleton history c ih => rw [run_append, limits_call, ih]

/-- What is recorded for a token is left there by the last call that took effect on it. -/
lemma area?_run (limits : Limits) (history : List ObserverCall) (h : Handle) :
    ((empty limits : Observers T).run history).area? h =
      lastLeft? limits (effective limits h history) := by
  induction history using List.reverseRecOn with
  | nil => exact area?_empty h limits
  | append_singleton history c ih =>
    rw [run_append, area?_call, ih, limits_run, effective_append]
    split_ifs
    · rw [lastLeft?_append]
    · rfl

/-! ### What is found -/

lemma lists_overlapping (o : Observers T) (a : Area) : Lists (o.overlapping a) fun h =>
    ∃ b, o.area? h = some b ∧ b.sheet = a.sheet ∧ ∃ c, c ∈ b.range ∧ c ∈ a.range where
  ascending := by
    have hnodup := o.nodup_overlapping a
    obtain ⟨es, -, heq⟩ := o.overlapping_eq_sort a
    rw [heq] at hnodup ⊢
    exact Handle.pairwise_sort (Handle.nodup_sort.mp hnodup)
  mem_iff h := by simp only [mem_overlapping, CellRange.isSome_intersect?_iff]

lemma lists_of (o : Observers T) (p : Place) : Lists (o.of p) fun h =>
    ∃ b, o.area? h = some b ∧ b.sheet = p.sheet ∧ p.cell ∈ b.range where
  ascending := (o.lists_overlapping (.single p)).ascending
  mem_iff h := by
    refine ((o.lists_overlapping (.single p)).mem_iff h).trans ?_
    simp [Area.single, CellRange.mem_single]

lemma lists_onSheet (o : Observers T) (sheet : Nat) :
    Lists (o.onSheet sheet) fun h => ∃ b, o.area? h = some b ∧ b.sheet = sheet where
  ascending := Handle.pairwise_sort (Handle.nodup_sort.mp (o.nodup_onSheet sheet))
  mem_iff _ := mem_onSheet

lemma exists_lists_size (o : Observers T) :
    ∃ hs, Lists hs (fun h => (o.area? h).isSome) ∧ o.size = hs.length := by
  refine ⟨Handle.sort o.areas.keys, ⟨Handle.pairwise_sort o.areas.nodup_keys, fun h => ?_⟩, ?_⟩
  · rw [Handle.mem_sort, Std.HashMap.mem_keys, ← contains_eq, contains,
      Std.HashMap.contains_iff_mem]
  · rw [size, Handle.sort, List.length_mergeSort, Std.HashMap.length_keys]

/-- **The observers answer from their history**, for every index of regions. -/
theorem answers_run (limits : Limits) (history : List ObserverCall) :
    ((empty limits : Observers T).run history).Answers limits history where
  area? := area?_run limits history
  overlapping := lists_overlapping _
  of := lists_of _
  onSheet := lists_onSheet _
  size := exists_lists_size _

/-- Two tokens are recorded, and the first of them is moved onto a whole column and back. -/
def movedOntoColumn : List ObserverCall :=
  [.track ⟨0, 0⟩ ⟨0, .single ⟨1, 1⟩⟩, .track ⟨0, 1⟩ ⟨0, .single ⟨2, 2⟩⟩,
    .relocate ⟨0, 0⟩ ⟨1, .ofCorners ⟨0, 2⟩ ⟨3, 2⟩⟩, .relocate ⟨0, 0⟩ ⟨0, .single ⟨1, 1⟩⟩]

/-- With lists as indexes: the way back does not take effect, and only the second token is found. -/
theorem answers_run_movedOntoColumn :
    ((empty ⟨4, 4⟩ : Observers (List Entry)).run movedOntoColumn).Answers ⟨4, 4⟩ movedOntoColumn ∧
      effective ⟨4, 4⟩ ⟨0, 0⟩ movedOntoColumn = [movedOntoColumn[0], movedOntoColumn[2]] ∧
      ((empty ⟨4, 4⟩ : Observers (List Entry)).run movedOntoColumn).area? ⟨0, 0⟩ = none ∧
      ⟨0, 1⟩ ∈ ((empty ⟨4, 4⟩ : Observers (List Entry)).run movedOntoColumn).of ⟨0, ⟨2, 2⟩⟩ := by
  have answers : ((empty ⟨4, 4⟩ : Observers (List Entry)).run movedOntoColumn).Answers ⟨4, 4⟩
      movedOntoColumn := answers_run ⟨4, 4⟩ movedOntoColumn
  refine ⟨answers, rfl, answers.area? ⟨0, 0⟩, ((answers.of ⟨0, ⟨2, 2⟩⟩).mem_iff ⟨0, 1⟩).mpr ?_⟩
  exact ⟨⟨0, .single ⟨2, 2⟩⟩, answers.area? ⟨0, 1⟩, rfl, CellRange.mem_single.mpr rfl⟩

end Observers

end Spreadsheet
