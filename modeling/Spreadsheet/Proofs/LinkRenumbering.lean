import Mathlib.Data.List.Range
import Spreadsheet.Proofs.SheetRemoval

/-!
What the removal of a sheet does to the spans of the other sheets.

A span stands for an interval of sheets, of which its two numbers are the ends in either order. An
interval from which a number is removed and whose later numbers are counted down is an interval
again, or empty. The first end of a span is counted down if it lies behind the removed sheet, and
the last end also if it is the removed sheet. That is right unless the last end lies in front of the
first one and one of them is removed.
-/

namespace Spreadsheet

/-! ### Intervals without a number -/

/-- The sheet that a sheet was before the removal. -/
def sheetBefore (removed m : Nat) : Nat := if m < removed then m else m + 1

section
variable {removed a b m : Nat}

lemma sheetBefore_ne (removed m : Nat) : sheetBefore removed m ≠ removed := by
  unfold sheetBefore
  split_ifs <;> omega

lemma sheetAfter_sheetBefore (removed m : Nat) :
    sheetAfter removed (sheetBefore removed m) = m := by
  unfold sheetAfter sheetBefore
  split_ifs <;> omega

lemma sheetBefore_sheetAfter (ha : a ≠ removed) : sheetBefore removed (sheetAfter removed a) = a := by
  unfold sheetAfter sheetBefore
  split_ifs <;> omega

lemma lt_sheetAfter_iff : m < sheetAfter removed a ↔ sheetBefore removed m < a := by
  unfold sheetAfter sheetBefore
  split_ifs <;> omega

lemma sheetAfter_lt_of_lt (ha : a ≠ removed) (h : a < b) :
    sheetAfter removed a < sheetAfter removed b := by
  rwa [lt_sheetAfter_iff, sheetBefore_sheetAfter ha]

/-- An interval with a number other than the removed one is not empty without that. -/
lemma sheetAfter_lt_of_le (hab : a ≤ b) (h : ¬(a = removed ∧ b = removed)) :
    sheetAfter removed a < sheetAfter removed (b + 1) := by
  by_cases ha : a = removed
  · rw [lt_sheetAfter_iff, ha]
    unfold sheetAfter sheetBefore
    simp only [lt_irrefl, if_false]
    omega
  · exact sheetAfter_lt_of_lt ha (Nat.lt_succ_of_le hab)

end

/-- Without one of them and counted anew, the numbers between two ends are those between the ends
counted anew. -/
lemma range'_without (removed lo hi : Nat) :
    ((List.range' lo (hi - lo)).filter (· ≠ removed)).map (sheetAfter removed) =
      List.range' (sheetAfter removed lo) (sheetAfter removed hi - sheetAfter removed lo) := by
  refine List.Pairwise.eq_of_mem_iff (r := (· < ·)) ?_ List.pairwise_lt_range' fun m => ?_
  · rw [List.pairwise_map, List.pairwise_filter]
    refine List.Pairwise.imp (fun hlt ha _ => ?_) List.pairwise_lt_range'
    exact sheetAfter_lt_of_lt (of_decide_eq_true ha) hlt
  · have hlo : sheetAfter removed lo ≤ m ↔ lo ≤ sheetBefore removed m := by
      rw [← Nat.not_lt, lt_sheetAfter_iff, Nat.not_lt]
    have hhi : m < sheetAfter removed hi ↔ sheetBefore removed m < hi := lt_sheetAfter_iff
    have hmem : ∀ a, a ∈ (List.range' lo (hi - lo)).filter (· ≠ removed) ↔
        (lo ≤ a ∧ a < hi) ∧ a ≠ removed := by
      intro a
      rw [List.mem_filter, List.mem_range'_1, decide_eq_true_iff]
      omega
    rw [List.mem_map, List.mem_range'_1]
    constructor
    · rintro ⟨a, ha, rfl⟩
      obtain ⟨hrange, hne⟩ := (hmem a).mp ha
      rw [sheetBefore_sheetAfter hne] at hlo hhi
      omega
    · intro hm
      refine ⟨sheetBefore removed m, (hmem _).mpr ⟨?_, sheetBefore_ne removed m⟩,
        sheetAfter_sheetBefore removed m⟩
      omega

/-- The sheets of a link after the removal of a sheet, or an error if there are none left. -/
def sheetsAfter (removed : Nat) (sheets : List Nat) : Except CellError (List Nat) :=
  match (sheets.filter (· ≠ removed)).map (sheetAfter removed) with
  | [] => .error .reference
  | rest => .ok rest

lemma sheetsAfter_range' (removed lo hi : Nat) : sheetsAfter removed (List.range' lo (hi - lo)) =
    if sheetAfter removed hi ≤ sheetAfter removed lo then .error .reference
    else .ok (List.range' (sheetAfter removed lo)
      (sheetAfter removed hi - sheetAfter removed lo)) := by
  unfold sheetsAfter
  rw [range'_without]
  split_ifs with h
  · rw [Nat.sub_eq_zero_of_le h]
    rfl
  · obtain ⟨n, hn⟩ := Nat.exists_eq_succ_of_ne_zero (Nat.sub_ne_zero_of_lt (Nat.not_le.mp h))
    rw [hn, List.range'_succ]

/-! ### Spans -/

lemma Surroundings.sheetsOf_span {s : Surroundings} {link : UInt16} {first last : Nat}
    (h : s.link link = some (.span first last)) : s.sheetsOf link =
      if s.sheetCount ≤ max first last then .error .reference
      else .ok (List.range' (min first last) (max first last + 1 - min first last)) := by
  unfold sheetsOf
  rw [h]
  dsimp only
  have hn : max first last - min first last + 1 = max first last + 1 - min first last := by omega
  rw [hn, ← List.range'_eq_map_range]

namespace SheetLink

/-- The first end of a span after the removal of a sheet, as it is computed. -/
def firstAfter (removed first : Nat) : Int := if removed < first then first - 1 else first

/-- The last end of a span after the removal of a sheet, as it is computed. -/
def lastAfter (removed last : Nat) : Int := if removed ≤ last then last - 1 else last

lemma withoutSheet_span (removed : Nat) (name : String) (first last : Nat) :
    (span first last).withoutSheet removed name =
      if first = removed ∧ last = removed then deleted (some name)
      else span (firstAfter removed first).toNat (lastAfter removed last).toNat := by
  unfold withoutSheet firstAfter lastAfter
  by_cases h : first = removed ∧ last = removed
  · simp only [h, and_self, if_true]
  · simp only [h, if_false, span.injEq]
    split_ifs <;> omega

lemma firstAfter_eq (removed first : Nat) : firstAfter removed first = sheetAfter removed first := by
  unfold firstAfter sheetAfter
  split_ifs <;> omega

lemma lastAfter_eq (removed last : Nat) :
    lastAfter removed last = sheetAfter removed (last + 1) - 1 := by
  unfold lastAfter sheetAfter
  split_ifs <;> omega

/-- The new ends are those of the interval counted anew, and none is below zero. -/
lemma endsAfter_iff {removed first last : Nat} (h : ¬(first = removed ∧ last = removed)) :
    ((min (firstAfter removed first).toNat (lastAfter removed last).toNat =
          sheetAfter removed (min first last) ∧
        max (firstAfter removed first).toNat (lastAfter removed last).toNat + 1 =
          sheetAfter removed (max first last + 1)) ∧
      0 ≤ firstAfter removed first ∧ 0 ≤ lastAfter removed last) ↔
    ¬(last < first ∧ (removed = first ∨ removed = last)) := by
  rw [firstAfter_eq, lastAfter_eq, Int.toNat_natCast]
  rcases Nat.lt_or_ge last first with hlt | hle
  · rw [Nat.min_eq_right hlt.le, Nat.max_eq_left hlt.le]
    unfold sheetAfter
    split_ifs <;> omega
  · have hends := sheetAfter_lt_of_le hle h
    rw [Nat.min_eq_left hle, Nat.max_eq_right hle]
    omega

end SheetLink

namespace Workbook

variable {w : Workbook} {sheet : Nat} {link : UInt16} {first last : Nat}

lemma link_deleteSheet (hs : sheet < w.sheets.size) (link : UInt16) :
    (w.deleteSheet sheet).surroundings.link link =
      (w.surroundings.link link).map (·.withoutSheet sheet w.sheets[sheet].name) := by
  unfold deleteSheet
  rw [Array.getElem?_eq_getElem hs]
  exact Array.getElem?_map

lemma sheetCount_deleteSheet (hs : sheet < w.sheets.size) :
    (w.deleteSheet sheet).surroundings.sheetCount = w.sheets.size - 1 := by
  unfold deleteSheet
  rw [Array.getElem?_eq_getElem hs]
  show (w.sheets.eraseIdxIfInBounds sheet).size = _
  simp [Array.eraseIdxIfInBounds, hs]

/-- A span that stands for another sheet too is the interval counted anew, if and only if its ends
are. -/
lemma sheetsOf_deleteSheet_iff (hs : sheet < w.sheets.size)
    (hlink : w.surroundings.link link = some (.span first last))
    (hcount : max first last < w.sheets.size) (hother : ¬(first = sheet ∧ last = sheet)) :
    (w.deleteSheet sheet).surroundings.sheetsOf link =
        sheetsAfter sheet (List.range' (min first last) (max first last + 1 - min first last)) ↔
      min (SheetLink.firstAfter sheet first).toNat (SheetLink.lastAfter sheet last).toNat =
          sheetAfter sheet (min first last) ∧
        max (SheetLink.firstAfter sheet first).toNat (SheetLink.lastAfter sheet last).toNat + 1 =
          sheetAfter sheet (max first last + 1) := by
  have hlink' := link_deleteSheet hs link
  rw [hlink, Option.map_some, SheetLink.withoutSheet_span, if_neg hother] at hlink'
  have hlt : sheetAfter sheet (min first last) < sheetAfter sheet (max first last + 1) :=
    sheetAfter_lt_of_le (Nat.le_trans (Nat.min_le_left ..) (Nat.le_max_left ..)) (by omega)
  have hle : sheetAfter sheet (max first last + 1) ≤ w.sheets.size - 1 := by
    unfold sheetAfter
    split_ifs <;> omega
  rw [Surroundings.sheetsOf_span hlink', sheetCount_deleteSheet hs, sheetsAfter_range',
    if_neg (Nat.not_le.mpr hlt)]
  split_ifs with hend
  · refine iff_of_false nofun ?_
    omega
  · rw [Except.ok.injEq, List.range'_inj]
    omega

/-- **What the removal of a sheet does to a span.** The link stands for the sheets that it stood
for, other than the removed one and counted anew, or is an error if there are none, and no number
below zero is computed, unless the last end of the span lies in front of the first one and one of
the two is the removed sheet. -/
theorem deleteSheet_renumbers_span_iff (hs : sheet < w.sheets.size)
    (hlink : w.surroundings.link link = some (.span first last)) {sheets : List Nat}
    (hsheets : w.surroundings.sheetsOf link = .ok sheets) :
    ((w.deleteSheet sheet).surroundings.sheetsOf link = sheetsAfter sheet sheets ∧
      (¬(first = sheet ∧ last = sheet) →
        0 ≤ SheetLink.firstAfter sheet first ∧ 0 ≤ SheetLink.lastAfter sheet last)) ↔
    ¬(last < first ∧ (sheet = first ∨ sheet = last)) := by
  rw [Surroundings.sheetsOf_span hlink] at hsheets
  split_ifs at hsheets with hcount
  obtain rfl := Except.ok.inj hsheets
  by_cases hboth : first = sheet ∧ last = sheet
  · have hlink' := link_deleteSheet hs link
    rw [hlink, Option.map_some, SheetLink.withoutSheet_span, if_pos hboth] at hlink'
    have herror : (w.deleteSheet sheet).surroundings.sheetsOf link = .error .reference := by
      unfold Surroundings.sheetsOf
      rw [hlink']
    obtain ⟨rfl, rfl⟩ := hboth
    rw [herror, sheetsAfter_range', if_pos (by simp [sheetAfter])]
    simp
  · rw [sheetsOf_deleteSheet_iff hs hlink (Nat.not_le.mp hcount) hboth,
      ← SheetLink.endsAfter_iff hboth]
    simp only [hboth, not_false_eq_true, true_implies]

/-- A span of three sheets that loses the one in the middle, and one of two that loses its first. -/
theorem deleteSheet_renumbers_span_middle :
    let w := (empty {}).run [.addSheet "A", .addSheet "B", .addSheet "C", .addLink (.span 0 2)]
    1 < w.sheets.size ∧ w.surroundings.link 0 = some (.span 0 2) ∧
      w.surroundings.sheetsOf 0 = .ok [0, 1, 2] ∧
      (w.deleteSheet 1).surroundings.sheetsOf 0 = .ok [0, 1] := by
  intro w
  have hs : 1 < w.sheets.size := by decide
  have hlink : w.surroundings.link 0 = some (.span 0 2) := rfl
  have hsheets : w.surroundings.sheetsOf 0 = .ok [0, 1, 2] := by decide
  exact ⟨hs, hlink, hsheets, ((deleteSheet_renumbers_span_iff hs hlink hsheets).mpr (by decide)).1⟩

/-- A span in reverse order that loses its last end comes to stand for the sheet in front of it. -/
theorem deleteSheet_widens_reversed_span :
    let w := (empty {}).run [.addSheet "A", .addSheet "B", .addSheet "C", .addLink (.span 2 1)]
    w.surroundings.sheetsOf 0 = .ok [1, 2] ∧ sheetsAfter 1 [1, 2] = .ok [1] ∧
      (w.deleteSheet 1).surroundings.sheetsOf 0 = .ok [0, 1] := by
  intro w
  have hs : 1 < w.sheets.size := by decide
  have hlink := link_deleteSheet hs 0
  refine ⟨by decide, rfl, ?_⟩
  rw [Surroundings.sheetsOf_span hlink, sheetCount_deleteSheet hs]
  decide

end Workbook

end Spreadsheet
