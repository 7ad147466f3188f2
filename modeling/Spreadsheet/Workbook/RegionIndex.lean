import Spreadsheet.Formula.Reference
import Std.Data.HashMap

/-!
Indexes that find tokens by the cells which they observe.

There is an index for each sheet. What an index is inside is left open; it is known by the entries
that it holds. The indexes of all sheets hold a table of areas if each area is an entry of its sheet
once, and there are no other entries.
-/

namespace Spreadsheet

/-- A token by the number of its formula and its position in it. -/
structure Handle where
  formula : Nat
  token : Nat
  deriving DecidableEq, Hashable, Repr, Inhabited

namespace Handle

/-- Handles are sorted by formula, and within a formula by position. -/
def compare : Handle → Handle → Ordering :=
  compareLex (compareOn Handle.formula) (compareOn Handle.token)

instance : Std.TransCmp Handle.compare :=
  inferInstanceAs (Std.TransCmp (compareLex (compareOn Handle.formula) (compareOn Handle.token)))

instance : Std.LawfulEqCmp Handle.compare where
  eq_of_compare {h k} e := by
    obtain ⟨e₁, e₂⟩ := compareLex_eq_eq.mp e
    cases h; cases k
    simp_all [compareOn]

def sort (hs : List Handle) : List Handle := hs.mergeSort fun h k => (compare h k).isLE

end Handle

/-- A token and the range that it observes on some sheet. -/
structure Entry where
  handle : Handle
  range : CellRange
  deriving DecidableEq, Repr

/-- An index of entries that finds those whose ranges meet a given one. It may hold an entry more
than once, and lists entries in any order. -/
class RegionIndex (T : Type) where
  empty : T
  insert : T → Entry → T
  /-- Takes out an entry once. -/
  erase : T → Entry → T
  meeting : T → CellRange → List Entry
  size : T → Nat
  /-- What the index holds. -/
  entries : T → List Entry
  entries_empty : entries empty = []
  entries_insert (t : T) (e : Entry) : (entries (insert t e)).Perm (e :: entries t)
  entries_erase {t : T} {e : Entry} (h : e ∈ entries t) :
    (entries (erase t e)).Perm ((entries t).erase e)
  meeting_perm (t : T) (r : CellRange) :
    (meeting t r).Perm ((entries t).filter fun e => (e.range.intersect? r).isSome)
  size_eq (t : T) : size t = (entries t).length

/-- The plainest index is a list that is searched from end to end. -/
instance : RegionIndex (List Entry) where
  empty := []
  insert t e := e :: t
  erase := List.erase
  meeting t r := t.filter fun e => (e.range.intersect? r).isSome
  size := List.length
  entries := id
  entries_empty := rfl
  entries_insert _ _ := .refl _
  entries_erase _ := .refl _
  meeting_perm _ _ := .refl _
  size_eq _ := rfl

namespace RegionIndex

variable {T : Type} [RegionIndex T]

/-! ### The indexes of all sheets -/

/-- The entries of one sheet. -/
def entriesOn (sheets : Std.HashMap Nat T) (sheet : Nat) : List Entry :=
  (sheets[sheet]?).elim [] entries

def insertOn (sheets : Std.HashMap Nat T) (sheet : Nat) (e : Entry) : Std.HashMap Nat T :=
  sheets.insert sheet (insert (sheets.getD sheet empty) e)

/-- Takes out an entry of a sheet. An index goes with its last entry. -/
def eraseOn (sheets : Std.HashMap Nat T) (sheet : Nat) (e : Entry) : Std.HashMap Nat T :=
  match sheets[sheet]? with
  | none => sheets
  | some t =>
    let t := erase t e
    if size t = 0 then sheets.erase sheet else sheets.insert sheet t

variable {sheets : Std.HashMap Nat T} {areas : Std.HashMap Handle Area} {sheet : Nat} {e : Entry}
  {h : Handle} {a : Area}

theorem entriesOn_insertOn (other : Nat) : (entriesOn (insertOn sheets sheet e) other).Perm
    (if sheet = other then e :: entriesOn sheets sheet else entriesOn sheets other) := by
  unfold insertOn entriesOn
  rw [Std.HashMap.getElem?_insert, Std.HashMap.getD_eq_getD_getElem?]
  by_cases hs : sheet = other
  · simp only [hs, beq_self_eq_true, if_true, Option.elim_some]
    cases sheets[other]? with
    | none => exact entries_empty (T := T) ▸ entries_insert empty e
    | some t => exact entries_insert t e
  · simp [hs]

theorem entriesOn_eraseOn (he : e ∈ entriesOn sheets sheet) (other : Nat) :
    (entriesOn (eraseOn sheets sheet e) other).Perm
      (if sheet = other then (entriesOn sheets sheet).erase e else entriesOn sheets other) := by
  obtain ⟨t, ht⟩ : ∃ t, sheets[sheet]? = some t := by
    cases ht : sheets[sheet]? with
    | none => simp [entriesOn, ht] at he
    | some t => exact ⟨t, rfl⟩
  have hon : entriesOn sheets sheet = entries t := by simp [entriesOn, ht]
  rw [hon] at he ⊢
  have hperm := entries_erase he
  simp only [eraseOn, ht]
  by_cases hs : sheet = other
  · subst hs
    rw [if_pos rfl]
    split
    · rename_i hsize
      rw [size_eq, hperm.length_eq, List.length_eq_zero_iff] at hsize
      simp [entriesOn, hsize]
    · simpa [entriesOn] using hperm
  · rw [if_neg hs]
    split
    · simp [entriesOn, Std.HashMap.getElem?_erase, hs]
    · simp [entriesOn, Std.HashMap.getElem?_insert, hs]

/-- The entries of the sheets are the given areas, each once. -/
def Hold (sheets : Std.HashMap Nat T) (areas : Std.HashMap Handle Area) : Prop :=
  ∀ sheet e, (entriesOn sheets sheet).count e =
    if areas[e.handle]? = some ⟨sheet, e.range⟩ then 1 else 0

theorem hold_empty : Hold (∅ : Std.HashMap Nat T) ∅ := by
  intro sheet e
  simp [entriesOn]

theorem Hold.insert (hold : Hold sheets areas) (ha : areas[h]? = none) :
    Hold (insertOn sheets a.sheet ⟨h, a.range⟩) (areas.insert h a) := by
  intro sheet ⟨k, r⟩
  have hcount := hold sheet ⟨k, r⟩
  rw [(entriesOn_insertOn sheet).count_eq, Std.HashMap.getElem?_insert]
  obtain ⟨s, range⟩ := a
  by_cases hs : s = sheet
  · subst hs
    by_cases hk : h = k
    · subst hk
      rw [ha, if_neg nofun] at hcount
      simp [List.count_cons, hcount]
    · simp [hk, hcount]
  · by_cases hk : h = k
    · subst hk
      rw [ha, if_neg nofun] at hcount
      simp [hs, hcount]
    · simp [hs, hk, hcount]

theorem Hold.erase (hold : Hold sheets areas) (ha : areas[h]? = some a) :
    Hold (eraseOn sheets a.sheet ⟨h, a.range⟩) (areas.erase h) := by
  have hmem : (⟨h, a.range⟩ : Entry) ∈ entriesOn sheets a.sheet := by
    rw [← List.count_pos_iff, hold, if_pos ha]
    exact Nat.one_pos
  intro sheet ⟨k, r⟩
  have hcount := hold sheet ⟨k, r⟩
  rw [(entriesOn_eraseOn hmem sheet).count_eq, Std.HashMap.getElem?_erase]
  obtain ⟨s, range⟩ := a
  by_cases hs : s = sheet
  · subst hs
    by_cases hk : h = k
    · subst hk
      simp_all [List.count_erase]
    · simp [List.count_erase, hk, hcount]
  · by_cases hk : h = k
    · subst hk
      simp [hs, ha, hcount]
    · simp [hs, hk, hcount]

end RegionIndex

end Spreadsheet
