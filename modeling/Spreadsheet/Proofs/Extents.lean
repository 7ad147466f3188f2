import Mathlib.Order.Interval.Set.Basic
import Spreadsheet.Proofs.GridEdit

/-!
What an edit makes of an interval and what it makes of the coordinates in it.

The new interval is found from the two ends, and is all that the coordinates come to one by one. An
insertion inside it adds the new coordinates, as far as the grid goes. The size of a grid has 32
bits, so that its last coordinate is less than the greatest with 32 bits, the only one that could be
taken for one behind a deleted block that it is part of.
-/

namespace Spreadsheet.GridEdit

variable {e : GridEdit} {i j k l lo hi i' lo' hi' : Nat}

/-! ### Coordinates -/

lemma index?_insert_eq_some (hc : e.change = .insert) : e.index? i = some k ↔
    i < e.start ∧ k = i ∨ e.start ≤ i ∧ k = i + e.count ∧ k ≤ e.last := by
  unfold index?
  simp only [hc]
  split_ifs <;> simp only [Option.some.injEq, false_iff] <;> omega

lemma index?_delete_eq_some (hc : e.change = .delete) (hi : i < maxCoordinate) :
    e.index? i = some k ↔ i < e.start ∧ k = i ∨ e.start + e.count ≤ i ∧ k + e.count = i := by
  unfold index?
  simp only [hc, stop_le_iff hi]
  split_ifs <;> simp only [Option.some.injEq, false_iff] <;> omega

/-- **Coordinates stay in order.** -/
theorem index?_lt_index? (hj : j < maxCoordinate) (hij : i < j) (h : e.index? i = some k)
    (h' : e.index? j = some l) : k < l := by
  cases hc : e.change with
  | insert =>
    rw [index?_insert_eq_some hc] at h h'
    omega
  | delete =>
    rw [index?_delete_eq_some hc (Nat.lt_trans hij hj)] at h
    rw [index?_delete_eq_some hc hj] at h'
    omega

/-- What the coordinates of an interval come to. -/
def images (e : GridEdit) (lo hi : Nat) : Set Nat := {k | ∃ i ∈ Set.Icc lo hi, e.index? i = some k}

lemma mem_images_insert (hc : e.change = .insert) : k ∈ e.images lo hi ↔
    lo ≤ k ∧ k ≤ hi ∧ k < e.start ∨
      e.start + e.count ≤ k ∧ lo + e.count ≤ k ∧ k ≤ hi + e.count ∧ k ≤ e.last := by
  constructor
  · rintro ⟨i, ⟨hlo, hhi⟩, h⟩
    rw [index?_insert_eq_some hc] at h
    omega
  · rintro (⟨hlo, hhi, hk⟩ | ⟨hk, hlo, hhi, hlast⟩)
    · exact ⟨k, ⟨hlo, hhi⟩, index?_of_lt hk⟩
    · exact ⟨k - e.count, ⟨by omega, by omega⟩, (index?_insert_eq_some hc).mpr (by omega)⟩

lemma mem_images_delete (hc : e.change = .delete) (hmax : hi < maxCoordinate) :
    k ∈ e.images lo hi ↔ lo ≤ k ∧ k ≤ hi ∧ k < e.start ∨
      e.start ≤ k ∧ lo ≤ k + e.count ∧ k + e.count ≤ hi := by
  constructor
  · rintro ⟨i, ⟨hlo, hhi⟩, h⟩
    rw [index?_delete_eq_some hc (by omega)] at h
    omega
  · rintro (⟨hlo, hhi, hk⟩ | ⟨hk, hlo, hhi⟩)
    · exact ⟨k, ⟨hlo, hhi⟩, index?_of_lt hk⟩
    · exact ⟨k + e.count, ⟨hlo, hhi⟩, (index?_delete_eq_some hc (by omega)).mpr (by omega)⟩

/-- The new coordinates of an insertion that goes between those of an interval. -/
def inserted (e : GridEdit) (lo hi : Nat) : Set Nat :=
  {k | e.change = .insert ∧ lo < e.start ∧ e.start ≤ hi ∧
    k ∈ Set.Ico e.start (e.start + e.count) ∧ k ≤ e.last}

lemma mem_inserted : k ∈ e.inserted lo hi ↔ e.change = .insert ∧ lo < e.start ∧ e.start ≤ hi ∧
    (e.start ≤ k ∧ k < e.start + e.count) ∧ k ≤ e.last := Iff.rfl

/-! ### Intervals -/

/-- An interval whose first coordinate stays starts with it. -/
lemma span?_fst (h : e.span? lo hi = some (lo', hi')) (hlo : e.index? lo = some i) : lo' = i := by
  unfold span? at h
  cases hc : e.change with
  | insert =>
    simp only [hc, hlo] at h
    cases h
    rfl
  | delete =>
    simp only [index?, hc] at h hlo
    split_ifs at h hlo <;> simp only [Option.some.injEq, Prod.mk.injEq] at h hlo <;> omega

/-- An interval whose last coordinate stays ends with it. -/
lemma span?_snd (h : e.span? lo hi = some (lo', hi')) (hhi : e.index? hi = some i) : hi' = i := by
  unfold span? at h
  cases hc : e.change with
  | insert =>
    simp only [index?, hc] at h hhi
    obtain ⟨k, -, h⟩ := Option.bind_eq_some_iff.mp h
    split_ifs at h hhi <;> simp only [Option.some.injEq, pure, Prod.mk.injEq] at h hhi <;> omega
  | delete =>
    simp only [index?, hc] at h hhi
    split_ifs at h hhi <;> simp only [Option.some.injEq, Prod.mk.injEq] at h hhi <;> omega

/-- An interval stays if one of its ends does. -/
lemma isSome_span? (hle : lo ≤ hi) (h : (e.index? lo).isSome ∨ (e.index? hi).isSome) :
    (e.span? lo hi).isSome := by
  unfold span?
  cases hc : e.change with
  | insert =>
    -- an insertion that leaves the last coordinate on the grid leaves the first one there
    have hlo : ∃ k, e.index? lo = some k := by
      rcases h with h | h
      · exact Option.isSome_iff_exists.mp h
      · simp only [index?, hc] at h ⊢
        split_ifs at h ⊢ <;> simp at h ⊢ <;> omega
    obtain ⟨k, hk⟩ := hlo
    simp only [hk]
    rfl
  | delete =>
    simp only [index?, hc] at h ⊢
    split_ifs at h ⊢ <;> simp at h ⊢
    omega

/-- If any coordinate of an interval lives, its first or its last one does. -/
lemma isSome_index?_end (hmax : hi < maxCoordinate) (hlo : lo ≤ i) (hhi : i ≤ hi)
    (h : (e.index? i).isSome) : (e.index? lo).isSome ∨ (e.index? hi).isSome := by
  simp only [Option.isSome_iff_exists] at h ⊢
  obtain ⟨k, hk⟩ := h
  rcases Nat.lt_or_ge lo e.start with hstart | hstart
  · exact .inl ⟨lo, index?_of_lt hstart⟩
  cases hc : e.change with
  | insert =>
    -- what is pushed off the grid first is the last coordinate
    rw [index?_insert_eq_some hc] at hk
    exact .inl ⟨lo + e.count, (index?_insert_eq_some hc).mpr (by omega)⟩
  | delete =>
    rw [index?_delete_eq_some hc (by omega)] at hk
    exact .inr ⟨hi - e.count, (index?_delete_eq_some hc hmax).mpr (by omega)⟩

/-- An interval lives as long as one of its coordinates does. -/
lemma isSome_span?_iff (hmax : hi < maxCoordinate) (hle : lo ≤ hi) :
    (e.span? lo hi).isSome ↔ ∃ i ∈ Set.Icc lo hi, (e.index? i).isSome := by
  refine ⟨fun h => ?_, fun ⟨i, ⟨hlo, hhi⟩, h⟩ => isSome_span? hle (isSome_index?_end hmax hlo hhi h)⟩
  rcases Nat.lt_or_ge lo e.start with hstart | hstart
  · exact ⟨lo, ⟨Nat.le_refl lo, hle⟩, by rw [index?_of_lt hstart]; rfl⟩
  cases hc : e.change with
  | insert =>
    rw [span?_insert hc, Option.isSome_map] at h
    exact ⟨lo, ⟨Nat.le_refl lo, hle⟩, h⟩
  | delete =>
    rw [span?_delete hc hle hmax, if_neg (by omega)] at h
    by_cases hstop : e.start + e.count ≤ hi
    · have hhi : e.index? hi = some (hi - e.count) :=
        (index?_delete_eq_some hc hmax).mpr (.inr ⟨hstop, Nat.sub_add_cancel (by omega)⟩)
      exact ⟨hi, ⟨hle, Nat.le_refl hi⟩, by rw [hhi]; rfl⟩
    · rw [if_neg hstop, if_neg (by omega)] at h
      cases h

/-- The new interval is what its coordinates come to, and what is inserted between them. -/
lemma Icc_of_span? (hmax : hi < maxCoordinate) (hle : lo ≤ hi) (hhi : hi ≤ e.last)
    (h : e.span? lo hi = some (lo', hi')) :
    Set.Icc lo' hi' = e.images lo hi ∪ e.inserted lo hi := by
  ext k
  rw [Set.mem_union, Set.mem_Icc, mem_inserted]
  cases hc : e.change with
  | insert =>
    simp only [mem_images_insert hc, true_and]
    rw [span?_insert hc] at h
    obtain ⟨first, hfirst, h⟩ := Option.map_eq_some_iff.mp h
    rw [index?_insert_eq_some hc] at hfirst
    simp only [Prod.mk.injEq] at h
    split_ifs at h <;> omega
  | delete =>
    simp only [mem_images_delete hc hmax, reduceCtorEq, false_and, or_false]
    rw [span?_delete hc hle hmax] at h
    split_ifs at h <;> simp only [Option.some.injEq, Prod.mk.injEq] at h <;> omega

/-- A coordinate that stays is in the new interval if it was in the old one. -/
lemma mem_span?_iff (hlast : e.last < maxCoordinate) (hle : lo ≤ hi) (hhi : hi ≤ e.last)
    (hlt : i < maxCoordinate) (h : e.span? lo hi = some (lo', hi'))
    (hmove : e.index? i = some i') : lo' ≤ i' ∧ i' ≤ hi' ↔ lo ≤ i ∧ i ≤ hi := by
  have hmax : hi < maxCoordinate := Nat.lt_of_le_of_lt hhi hlast
  have hset := Icc_of_span? hmax hle hhi h
  rw [← Set.mem_Icc, hset]
  refine ⟨?_, fun hi => .inl ⟨i, hi, hmove⟩⟩
  rintro (⟨j, hj, hmove'⟩ | ⟨hc, -, -, hnew, -⟩)
  · rw [index?_inj hlt (Nat.lt_of_le_of_lt hj.2 hmax) hmove hmove']
    exact hj
  · -- nothing comes to where the new coordinates are
    rw [index?_insert_eq_some hc] at hmove
    rw [Set.mem_Ico] at hnew
    omega

/-! ### Differences -/

/-- A difference, if it is not negative. -/
def minus? (i j : Nat) : Option Nat := if j ≤ i then some (i - j) else none

lemma minus?_of_le (h : j ≤ i) : minus? i j = some (i - j) := if_pos h

/-- The new place of a coordinate, unless a difference on the way to it is negative. -/
def checkedIndex? (e : GridEdit) (i : Nat) : Option (Option Nat) :=
  if i < e.start then some (some i)
  else match e.change with
    | .insert => some (if i + e.count ≤ e.last then some (i + e.count) else none)
    | .delete => if e.stop ≤ i then (minus? i e.count).map some else some none

/-- The new ends of an interval, unless a difference on the way to them is negative. -/
def checkedSpan? (e : GridEdit) (lo hi : Nat) : Option (Option (Nat × Nat)) :=
  match e.change with
  | .insert => do
    let lo ← e.checkedIndex? lo
    return lo.map fun lo => (lo, if hi < e.start then hi else min (hi + e.count) e.last)
  | .delete => do
    let lo' ←
      if lo < e.start then some lo else if e.stop ≤ lo then minus? lo e.count else some e.start
    if hi < e.start then return some (lo', hi)
    else if e.stop ≤ hi then return some (lo', ← minus? hi e.count)
    else if lo < e.start then return some (lo', ← minus? e.start 1)
    else return none

/-- Behind a deleted block there are as many coordinates as are deleted. -/
lemma count_le (hi : i < maxCoordinate) (h : e.stop ≤ i) : e.count ≤ i := by
  rw [stop_le_iff hi] at h
  omega

lemma minus?_count (hi : i < maxCoordinate) (h : e.stop ≤ i) :
    minus? i e.count = some (i - e.count) := minus?_of_le (count_le hi h)

/-- No difference on the way to a coordinate is negative. -/
lemma checkedIndex?_eq (hi : i < maxCoordinate) : e.checkedIndex? i = some (e.index? i) := by
  unfold checkedIndex? index?
  cases e.change with
  | insert => split_ifs <;> rfl
  | delete =>
    dsimp only
    split_ifs with hstart hstop
    · rfl
    · simp only [minus?_count hi hstop, Option.map_some]
    · rfl

/-- No difference on the way to an interval is negative. -/
lemma checkedSpan?_eq (hmax : hi < maxCoordinate) (hle : lo ≤ hi) :
    e.checkedSpan? lo hi = some (e.span? lo hi) := by
  have hlo : lo < maxCoordinate := Nat.lt_of_le_of_lt hle hmax
  unfold checkedSpan? span?
  cases e.change with
  | insert =>
    simp only [checkedIndex?_eq hlo]
    rcases e.index? lo with _ | k <;> rfl
  | delete =>
    have hfirst : lo < e.start → minus? e.start 1 = some (e.start - 1) := fun h =>
      minus?_of_le (Nat.succ_le_of_lt (Nat.zero_lt_of_lt h))
    dsimp only
    split_ifs <;> simp [*, minus?_count]

/-- **Intervals and coordinates move together.** An interval on the grid lives if and only if one of
its coordinates does; it then is what these come to, together with what is inserted between them.
Coordinates stay in order and on the grid, and no difference on the way is negative. -/
theorem span?_by_index? {limits : Limits} (he : e.Suits limits) :
    (∀ lo hi, lo ≤ hi → hi ≤ e.last →
      ((e.span? lo hi).isSome ↔ ∃ i ∈ Set.Icc lo hi, (e.index? i).isSome) ∧
      (∀ lo' hi', e.span? lo hi = some (lo', hi') →
        Set.Icc lo' hi' = e.images lo hi ∪ e.inserted lo hi) ∧
      e.checkedSpan? lo hi = some (e.span? lo hi)) ∧
    (∀ i k, i ≤ e.last → e.index? i = some k → k ≤ e.last) ∧
    (∀ i j k l, i < j → j ≤ e.last → e.index? i = some k → e.index? j = some l → k < l) ∧
    ∀ i ≤ e.last, e.checkedIndex? i = some (e.index? i) := by
  have hmax : ∀ {i}, i ≤ e.last → i < maxCoordinate := fun h => Nat.lt_of_le_of_lt h he.last_lt
  refine ⟨fun lo hi hle hhi => ⟨isSome_span?_iff (hmax hhi) hle, fun lo' hi' => ?_, ?_⟩,
    fun i k hi h => index?_le_last h hi, fun i j k l hij hj => index?_lt_index? (hmax hj) hij,
    fun i hi => checkedIndex?_eq (hmax hi)⟩
  · exact Icc_of_span? (hmax hhi) hle hhi
  · exact checkedSpan?_eq (hmax hhi) hle

/-- Of the rows 1 to 11 there remain 1 to 6 if the rows 4 to 8 are deleted. They take in the whole
grid from row 1 on if more rows are inserted between them than fit. -/
theorem span?_by_index?_rows :
    let e := ofLimits 0 .rows .delete 4 5 {}
    let e' := ofLimits 0 .rows .insert 4 0xFFFFFFFF {}
    (e.Suits {} ∧ e'.Suits {} ∧ 1 ≤ 11 ∧ 11 ≤ 65535) ∧
      Set.Icc 1 6 = e.images 1 11 ∪ e.inserted 1 11 ∧
      Set.Icc 1 65535 = e'.images 1 11 ∪ e'.inserted 1 11 := by
  intro e e'
  have he : e.Suits {} := ⟨rfl, by decide, by decide⟩
  have he' : e'.Suits {} := ⟨rfl, by decide, by decide⟩
  refine ⟨⟨he, he', by decide, by decide⟩, ?_, ?_⟩
  · exact ((span?_by_index? he).1 1 11 (by decide) (by decide)).2.1 1 6 rfl
  · exact ((span?_by_index? he').1 1 11 (by decide) (by decide)).2.1 1 65535 rfl

end Spreadsheet.GridEdit
