import Spreadsheet.Proofs.Lookup
import Spreadsheet.Proofs.ObserverHistory

/-!
The formula store after any history of operations, while the links stay the same.

The index and the observers say at all times what follows from the stored records, whatever the
changes do to the records. A number that has lost its record never gets one again: records come back
only where one is changed, and new ones get numbers that were never given.
-/

namespace Spreadsheet

/-- An operation of the formula store. -/
inductive StoreOperation
  | insert (r : FormulaRecord)
  | remove (id : Nat)
  | replaceToken (h : Handle) (t : Token)
  | update (id : Nat) (edit : FormulaRecord → FormulaRecord)

namespace FormulaStore

def apply (links : SheetLinks) (s : FormulaStore) : StoreOperation → FormulaStore
  | .insert r => (s.insert links r).2
  | .remove id => s.remove id
  | .replaceToken h t => s.replaceToken links h t
  | .update id edit => s.update links id edit

def run (links : SheetLinks) (s : FormulaStore) (history : List StoreOperation) : FormulaStore :=
  history.foldl (apply links) s

/-- A token of a stored record observes an area that can be recorded. -/
def Observes (s : FormulaStore) (links : SheetLinks) (h : Handle) (a : Area) : Prop :=
  ∃ r, s.get? h.formula = some r ∧ r.observed? links s.limits h.token = some a ∧
    a.range.isWhole s.limits = false

/-- The index and the observers are what the stored records make them. -/
structure Exact (s : FormulaStore) (links : SheetLinks) : Prop where
  index : ∀ key id, s.positions[key]? = some id ↔ ∃ r, s.get? id = some r ∧ r.key = key
  key_inj : ∀ id id' r r', s.get? id = some r → s.get? id' = some r' → r.key = r'.key → id = id'
  cellFormula? : ∀ p id, s.cellFormula? p = some id ↔
    ∃ tokens, s.get? id = some ⟨p.sheet, .cell p.cell tokens⟩
  sharedAt? : ∀ p f, s.sharedAt? p = some f ↔
    f.anchor = p.cell ∧ ∃ id, s.get? id = some ⟨p.sheet, .shared f⟩
  arrayAt? : ∀ p f, s.arrayAt? p = some f ↔
    f.range.start = p.cell ∧ ∃ id, s.get? id = some ⟨p.sheet, .array f⟩
  area? : ∀ h a, s.observers.area? h = some a ↔ s.Observes links h a
  overlapping : ∀ a, Observers.Lists (s.observers.overlapping a) fun h =>
    ∃ b, s.Observes links h b ∧ b.sheet = a.sheet ∧ ∃ c, c ∈ b.range ∧ c ∈ a.range

section
variable {s : FormulaStore} {links : SheetLinks} {limits : Limits}

/-! ### The index -/

lemma cellFormula?_eq_some_iff (hs : s.Coherent) {p : Place} {id : Nat} :
    s.cellFormula? p = some id ↔ ∃ tokens, s.get? id = some ⟨p.sheet, .cell p.cell tokens⟩ := by
  rw [cellFormula?, hs.index]
  constructor
  · rintro ⟨⟨sheet, body⟩, hr, hkey⟩
    cases body with
    | cell c tokens =>
      cases hkey
      exact ⟨tokens, hr⟩
    | shared f => cases hkey
    | array f => cases hkey
  · rintro ⟨tokens, hr⟩
    exact ⟨_, hr, rfl⟩

lemma sharedAt?_eq_some_iff (hs : s.Coherent) {p : Place} {f : SharedFormula} :
    s.sharedAt? p = some f ↔ s.find? ⟨.shared, p⟩ = some ⟨p.sheet, .shared f⟩ := by
  unfold sharedAt? find?
  simp only [Option.bind_eq_bind, Option.bind_eq_some_iff]
  constructor
  · rintro ⟨id, hid, ⟨sheet, body⟩, hr, hbody⟩
    obtain ⟨r, hr', hkey⟩ := (hs.index _ id).mp hid
    obtain rfl := Option.some.inj (hr.symm.trans hr')
    cases body with
    | cell c tokens => cases hbody
    | shared g =>
      cases hbody
      cases hkey
      exact ⟨id, hid, hr⟩
    | array g => cases hbody
  · rintro ⟨id, hid, hr⟩
    exact ⟨id, hid, _, hr, rfl⟩

/-! ### The observers -/

lemma due?_eq_some_iff {h : Handle} {a : Area} :
    s.due? links h = some a ↔ s.Observes links h a := by
  simp only [due?, FormulaRecord.due?, Observes, Option.bind_eq_some_iff, Option.filter_eq_some_iff,
    Bool.not_eq_true']

lemma Agrees.exact (hs : s.Agrees Agreement.full limits links) : s.Exact links := by
  have harea : ∀ h a, s.observers.area? h = some a ↔ s.Observes links h a := fun h a => by
    rw [show s.observers.area? h = s.due? links h from hs.agrees h, due?_eq_some_iff]
  refine ⟨hs.coherent.index, fun _ _ _ _ => hs.coherent.key_inj, fun p id => ?_, fun p f => ?_,
    fun p f => ?_, harea, fun a => ?_⟩
  · exact cellFormula?_eq_some_iff hs.coherent
  · obtain ⟨sheet, cell⟩ := p
    rw [sharedAt?_eq_some_iff hs.coherent, find?_eq_some_iff hs.coherent, exists_and_right,
      and_comm]
    simp [FormulaRecord.key, FormulaRecord.place, FormulaRecord.position, FormulaBody.kind,
      FormulaBody.position]
  · obtain ⟨sheet, cell⟩ := p
    rw [arrayAt?_eq_some_iff hs.coherent, find?_eq_some_iff hs.coherent, exists_and_right, and_comm]
    simp [FormulaRecord.key, FormulaRecord.place, FormulaRecord.position, FormulaBody.kind,
      FormulaBody.position]
  · have hlists := s.observers.lists_overlapping a
    exact ⟨hlists.ascending, fun h => by simp only [hlists.mem_iff, harea]⟩

/-- Every operation leaves every token recorded as it should be. -/
lemma Agrees.apply {R : Agreement} (hR : ∀ t x, R t x x) (hs : s.Agrees R limits links)
    (op : StoreOperation) : (s.apply links op).Agrees R limits links := by
  cases op with
  | insert r => exact hs.insert hR r
  | remove id => exact hs.remove hR id
  | replaceToken h t => exact hs.replaceToken hR h t
  | update id edit => exact hs.update hR id edit

lemma Agrees.run {R : Agreement} (hR : ∀ t x, R t x x) (hs : s.Agrees R limits links)
    (history : List StoreOperation) : (s.run links history).Agrees R limits links :=
  List.foldlRecOn _ _ hs fun _ ht op _ => ht.apply hR op

/-! ### Numbers -/

lemma size_remove (id : Nat) : (s.remove id).records.size = s.records.size := by
  unfold remove
  split <;> simp

lemma size_insert (r : FormulaRecord) :
    (s.insert links r).2.records.size = s.records.size + 1 := by
  unfold insert
  split <;> simp [trackAll, size_remove]

lemma size_update (id : Nat) (edit : FormulaRecord → FormulaRecord) :
    (s.update links id edit).records.size = s.records.size := by
  unfold update
  split
  · rfl
  · simp only [trackAll]
    split
    · simp
    · split_ifs
      · simp
      · split <;> simp

lemma size_replaceToken (h : Handle) (t : Token) :
    (s.replaceToken links h t).records.size = s.records.size := by
  unfold replaceToken
  split
  · rfl
  · split_ifs <;> simp

lemma size_edit (e : GridEdit) : (s.edit links e).records.size = s.records.size :=
  edit_induction (P := fun t => t.records.size = s.records.size)
    (fun _ h t ht => (size_replaceToken h t).trans ht)
    (fun _ id ht => (size_remove id).trans ht)
    (fun _ id ht => (size_update id _).trans ht) rfl

/-- Numbers are never taken back. -/
lemma size_le_apply (op : StoreOperation) : s.records.size ≤ (s.apply links op).records.size := by
  cases op with
  | insert r => exact Nat.le_trans (Nat.le_succ _) (Nat.le_of_eq (size_insert r).symm)
  | remove id => exact Nat.le_of_eq (size_remove id).symm
  | replaceToken h t => exact Nat.le_of_eq (size_replaceToken h t).symm
  | update id edit => exact Nat.le_of_eq (size_update id edit).symm

lemma size_le_run (history : List StoreOperation) :
    s.records.size ≤ (s.run links history).records.size := by
  induction history generalizing s with
  | nil => exact Nat.le_refl _
  | cons op history ih => exact Nat.le_trans (size_le_apply op) ih

/-- The number was given to a record that is no longer stored. -/
def Retired (s : FormulaStore) (id : Nat) : Prop := id < s.records.size ∧ s.get? id = none

/-- No operation brings back a number. -/
lemma Retired.apply (hs : s.Coherent) {id : Nat} (hid : s.Retired id) (op : StoreOperation) :
    (s.apply links op).Retired id := by
  obtain ⟨hlt, hnone⟩ := hid
  refine ⟨Nat.lt_of_lt_of_le hlt (size_le_apply op), ?_⟩
  cases op with
  | insert r =>
    change (s.insert links r).2.get? id = none
    rw [(put_insert links r hs).get?, if_neg (Nat.ne_of_lt hlt), hnone, Option.filter_none]
  | remove k =>
    change (s.remove k).get? id = none
    rw [(drop_remove hs k).get?, hnone, ite_self]
  | replaceToken h t =>
    change (s.replaceToken links h t).get? id = none
    cases ht : s.token? h with
    | none => rw [replaceToken_of_none ht, hnone]
    | some u => rw [(change_replaceToken hs (by simp [ht]) links t).get?, hnone, Option.map_none]
  | update k edit =>
    change (s.update links k edit).get? id = none
    cases hk : s.get? k with
    | none => rw [update_of_none hk, hnone]
    | some r =>
      have hne : id ≠ k := by
        rintro rfl
        rw [hnone] at hk
        cases hk
      rw [(put_update hs hk links edit).get?, if_neg hne, hnone, Option.filter_none]

lemma Retired.run {R : Agreement} (hR : ∀ t x, R t x x) (hs : s.Agrees R limits links) {id : Nat}
    (hid : s.Retired id) (history : List StoreOperation) : (s.run links history).Retired id := by
  induction history generalizing s with
  | nil => exact hid
  | cons op history ih => exact ih (hs.apply hR op) (hid.apply hs.coherent op)

end

/-- A number whose formula is stored after some operations of a history, and no longer after some
more, is the number of no formula after all of them. -/
def StaysRetired (limits : Limits) (links : SheetLinks) (history : List StoreOperation) : Prop :=
  ∀ earlier between later, history = earlier ++ between ++ later → ∀ id,
    (((empty limits).run links earlier).get? id).isSome →
    ((empty limits).run links (earlier ++ between)).get? id = none →
    ((empty limits).run links history).get? id = none

lemma staysRetired (limits : Limits) (links : SheetLinks) (history : List StoreOperation) :
    StaysRetired limits links history := by
  have hR : ∀ t x, Agreement.full t x x := fun _ _ => rfl
  rintro earlier between later rfl id hlive hgone
  obtain ⟨r, hr⟩ := Option.isSome_iff_exists.mp hlive
  have hlt : id < ((empty limits).run links (earlier ++ between)).records.size := by
    refine Nat.lt_of_lt_of_le (get?_lt hr) ?_
    rw [run, run, List.foldl_append]
    exact size_le_run between
  have hthen : ((empty limits).run links (earlier ++ between)).Agrees Agreement.full limits links :=
    (agrees_empty hR).run hR (earlier ++ between)
  rw [run, List.foldl_append]
  exact (Retired.run hR hthen ⟨hlt, hgone⟩ later).2

/-- **The store keeps its index, its observers and its numbers in order** through every history of
operations. -/
theorem exact_run (limits : Limits) (links : SheetLinks) (history : List StoreOperation) :
    ((empty limits).run links history).Exact links ∧ StaysRetired limits links history := by
  have hR : ∀ t x, Agreement.full t x x := fun _ _ => rfl
  exact ⟨((agrees_empty hR).run hR history).exact, staysRetired limits links history⟩

end FormulaStore

end Spreadsheet
