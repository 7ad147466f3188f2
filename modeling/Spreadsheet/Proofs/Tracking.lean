import Spreadsheet.Proofs.Replacement
import Spreadsheet.Workbook.Edit

/-!
Agreement between the observers and the stored tokens.

The agreement is stated through a relation between what a token is recorded with and what it should
be recorded with. Every change of the store records anew what it touches and leaves the rest, so it
keeps any such relation that holds of equals. Equality itself is one; that nothing wrong is
recorded is another.
-/

namespace Spreadsheet

/-- A relation between a token, what it is recorded with and what it should be recorded with. -/
abbrev Agreement := Option Token → Option Area → Option Area → Prop

/-- The number of a sheet after the removal of another one. -/
def sheetAfter (removed sheet : Nat) : Nat := if removed < sheet then sheet - 1 else sheet

def FormulaRecord.onSheetAfter (r : FormulaRecord) (removed : Nat) : FormulaRecord :=
  { r with sheet := sheetAfter removed r.sheet }

namespace FormulaStore

/-- The relation holds of a token. -/
def AgreesAt (R : Agreement) (s : FormulaStore) (links : SheetLinks) (h : Handle) : Prop :=
  R (s.token? h) (s.observers.area? h) (s.due? links h)

/-- A coherent store on the grid of the given size whose observers agree with its tokens. -/
structure Agrees (R : Agreement) (limits : Limits) (links : SheetLinks) (s : FormulaStore) :
    Prop where
  coherent : s.Coherent
  limits_eq : s.limits = limits
  agrees : ∀ h, s.AgreesAt R links h

lemma due?_eq_none {s : FormulaStore} {links : SheetLinks} {h : Handle}
    (hn : s.get? h.formula = none) : s.due? links h = none := by
  simp [due?, hn]

/-- What single replacements, removals and moves keep, a whole edit keeps. -/
lemma edit_induction {P : FormulaStore → Prop} {links : SheetLinks} {e : GridEdit}
    (hreplace : ∀ s h t, P s → P (s.replaceToken links h t))
    (hremove : ∀ s id, P s → P (s.remove id))
    (hmove : ∀ s id, P s → P (s.update links id e.moveRecord)) {s : FormulaStore} (h : P s) :
    P (s.edit links e) := by
  have h1 : P (s.moveObserved links e) := by
    refine List.foldlRecOn _ _ h fun t ht k _ => ?_
    split
    · exact hreplace t k _ ht
    · exact ht
  have h2 : P ((s.moveObserved links e).moveWholeAreas links e) :=
    List.foldlRecOn _ _ h1 fun t ht x _ => hreplace t x.1 x.2 ht
  have h3 : P (((s.moveObserved links e).moveWholeAreas links e).dropDeleted e) :=
    List.foldlRecOn _ _ h2 fun t ht x _ => hremove t x.1 ht
  exact List.foldlRecOn _ _ h3 fun t ht id _ => hmove t id ht

/-- Removes a formula of the removed sheet, or renumbers the sheet of another one. -/
def renumber (links : SheetLinks) (removed : Nat) (s : FormulaStore) (id : Nat) : FormulaStore :=
  if (s.get? id).map FormulaRecord.sheet = some removed then s.remove id
  else s.update links id (·.onSheetAfter removed)

lemma withoutSheet_eq (s : FormulaStore) (links : SheetLinks) (removed : Nat) :
    s.withoutSheet links removed = s.ids.foldl (renumber links removed) s := rfl

section
variable {R : Agreement} {limits : Limits} {links : SheetLinks} {s s' : FormulaStore}

variable (hR : ∀ t x, R t x x)
include hR

lemma agreesAt_dead (hs : s.Coherent) {h : Handle} (hn : s.get? h.formula = none) :
    s.AgreesAt R links h := by
  unfold AgreesAt
  rw [hs.area?_eq_none hn, due?_eq_none hn]
  exact hR _ none

lemma agrees_empty : (FormulaStore.empty limits).Agrees R limits links :=
  ⟨coherent_empty limits, rfl, fun h =>
    agreesAt_dead hR (coherent_empty limits) (by simp [FormulaStore.empty, get?])⟩

lemma Drop.agreesAt {id : Nat} (hd : Drop s s' id) {h : Handle}
    (ha : h.formula ≠ id → s.AgreesAt R links h) : s'.AgreesAt R links h := by
  by_cases hf : h.formula = id
  · exact agreesAt_dead hR hd.coherent (by rw [hd.get?, if_pos hf])
  · have hg : s'.get? h.formula = s.get? h.formula := by rw [hd.get?, if_neg hf]
    have := ha hf
    unfold AgreesAt due? token? at this ⊢
    rw [hd.area?, if_neg hf, hg, hd.limits]
    exact this

lemma Put.agreesAt {id : Nat} {r : FormulaRecord} (hp : Put s s' links id r) {h : Handle}
    (ha : h.formula ≠ id → s.AgreesAt R links h) : s'.AgreesAt R links h := by
  by_cases hf : h.formula = id
  · have : s'.due? links h = r.due? links s.limits h.token := by
      unfold due?
      rw [hp.get?, if_pos hf, hp.limits]
      rfl
    unfold AgreesAt
    rw [hp.area?, if_pos hf, this]
    exact hR _ _
  · rcases hg : s'.get? h.formula with _ | d
    · exact agreesAt_dead hR hp.coherent hg
    · have hgs : s.get? h.formula = some d := by
        rw [hp.get?, if_neg hf] at hg
        exact (Option.filter_eq_some_iff.mp hg).1
      have := ha hf
      unfold AgreesAt due? token? at this ⊢
      rw [hp.area?, if_neg hf, hg, hp.limits]
      rwa [hgs] at this

lemma Change.agrees {h : Handle} {t : Token} (hc : Change s s' links h t)
    (ha : s.Agrees R limits links) : s'.Agrees R limits links := by
  refine ⟨hc.coherent, hc.limits.trans ha.limits_eq, fun k => ?_⟩
  unfold AgreesAt
  rw [hc.area?]
  split_ifs with hk
  · rw [hk]
    exact hR _ _
  · rw [hc.due?_ne hk]
    have htok : s'.token? k = s.token? k := by
      unfold token?
      rw [hc.get?]
      rcases s.get? k.formula with _ | r
      · rfl
      · rcases hu : r.tokens[k.token]? with _ | u <;> simp [hu, hk]
    rw [htok]
    exact ha.agrees k

/-! ### The operations of the store -/

lemma Agrees.remove (h : s.Agrees R limits links) (id : Nat) :
    (s.remove id).Agrees R limits links :=
  have hd := drop_remove h.coherent id
  ⟨hd.coherent, hd.limits.trans h.limits_eq, fun k => hd.agreesAt hR fun _ => h.agrees k⟩

lemma Agrees.put (h : s.Agrees R limits links) {id : Nat} {r : FormulaRecord}
    (hp : Put s s' links id r) : s'.Agrees R limits links :=
  ⟨hp.coherent, hp.limits.trans h.limits_eq, fun k => hp.agreesAt hR fun _ => h.agrees k⟩

lemma Agrees.insert (h : s.Agrees R limits links) (r : FormulaRecord) :
    (s.insert links r).2.Agrees R limits links :=
  h.put hR (put_insert links r h.coherent)

lemma Agrees.update (h : s.Agrees R limits links) (id : Nat)
    (f : FormulaRecord → FormulaRecord) : (s.update links id f).Agrees R limits links := by
  rcases hr : s.get? id with _ | r
  · rwa [update_of_none hr]
  · exact h.put hR (put_update h.coherent hr links f)

lemma Agrees.replaceToken (h : s.Agrees R limits links) (k : Handle) (t : Token) :
    (s.replaceToken links k t).Agrees R limits links := by
  rcases hk : s.token? k with _ | u
  · rwa [replaceToken_of_none hk]
  · exact (change_replaceToken h.coherent (by simp [hk]) links t).agrees hR h

lemma Agrees.edit (h : s.Agrees R limits links) (e : GridEdit) :
    (s.edit links e).Agrees R limits links :=
  edit_induction (fun _ k t ht => ht.replaceToken hR k t) (fun _ id ht => ht.remove hR id)
    (fun _ id ht => ht.update hR id _) h

/-! ### The removal of a sheet -/

/-- A formula that is renumbered is recorded anew, or goes with all that was recorded. -/
lemma agreesAt_renumber (hs : s.Coherent) (links : SheetLinks) (removed id : Nat) :
    (renumber links removed s id).Coherent ∧ (renumber links removed s id).limits = s.limits ∧
      ∀ h, (h.formula ≠ id → s.AgreesAt R links h) →
        (renumber links removed s id).AgreesAt R links h := by
  unfold renumber
  split_ifs
  · have hd := drop_remove hs id
    exact ⟨hd.coherent, hd.limits, fun h ha => hd.agreesAt hR ha⟩
  · rcases hr : s.get? id with _ | r
    · rw [update_of_none hr]
      refine ⟨hs, rfl, fun h ha => ?_⟩
      by_cases hf : h.formula = id
      · exact agreesAt_dead hR hs (by rw [hf, hr])
      · exact ha hf
    · have hp := put_update hs hr links (·.onSheetAfter removed)
      exact ⟨hp.coherent, hp.limits, fun h ha => hp.agreesAt hR ha⟩

/-- Renumbering brings about the agreement for the formulas that it reaches. -/
lemma agrees_renumber (hs : s.Coherent) (links : SheetLinks) (removed : Nat) {ids : List Nat}
    (ha : ∀ h, h.formula ∉ ids → s.AgreesAt R links h) :
    (ids.foldl (renumber links removed) s).Agrees R s.limits links := by
  induction ids generalizing s with
  | nil => exact ⟨hs, rfl, fun h => ha h List.not_mem_nil⟩
  | cons id ids ih =>
    obtain ⟨hc, hl, hstep⟩ := agreesAt_renumber hR hs links removed id
    rw [List.foldl_cons, ← hl]
    refine ih hc fun h hm => hstep h fun hne => ha h ?_
    rw [List.mem_cons, not_or]
    exact ⟨hne, hm⟩

/-- After the removal of a sheet the observers agree with the tokens under the new links, whatever
was recorded before. -/
lemma agrees_withoutSheet (hs : s.Coherent) (links : SheetLinks) (removed : Nat) :
    (s.withoutSheet links removed).Agrees R s.limits links := by
  rw [withoutSheet_eq]
  refine agrees_renumber hR hs links removed fun h hm => agreesAt_dead hR hs ?_
  simpa [mem_ids] using hm

end

end FormulaStore

end Spreadsheet
