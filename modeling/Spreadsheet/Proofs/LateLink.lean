import Spreadsheet.Proofs.Operation

/-!
How far the observers can be trusted.

What is recorded is right in every workbook. What is missing are references into other sheets that
were stored before their link was: a new link does not look for them. So the observers are exact
throughout a run of operations if and only if no link comes late.
-/

namespace Spreadsheet

/-- The link through which a token refers to another sheet. -/
def Token.link? : Token → Option UInt16
  | ref3d _ link _ | area3d _ link _ => some link
  | _ => none

namespace SheetLinks

variable (links : SheetLinks) (link : SheetLink)

lemma localSheet?_push (i : UInt16) : SheetLinks.localSheet? (links.push link) i =
    if i.toNat = links.size then link.localSheet? else links.localSheet? i := by
  unfold localSheet?
  rw [Array.getElem?_push]
  split_ifs <;> rfl

lemma localSheet?_of_size {i : UInt16} (h : i.toNat = links.size) :
    links.localSheet? i = none := by
  rw [localSheet?, Array.getElem?_eq_none (by omega)]
  rfl

end SheetLinks

lemma Token.observedSheet?_push (own : Nat) (links : SheetLinks) (link : SheetLink) (t : Token)
    (h : t.link?.map UInt16.toNat ≠ some links.size) :
    t.observedSheet? own (links.push link) = t.observedSheet? own links := by
  cases t <;> simp_all [observedSheet?, link?, SheetLinks.localSheet?_push]

lemma Token.observedSheet?_of_size (own : Nat) (links : SheetLinks) (t : Token)
    (h : t.link?.map UInt16.toNat = some links.size) : t.observedSheet? own links = none := by
  cases t <;> simp_all [observedSheet?, link?, SheetLinks.localSheet?_of_size]

namespace FormulaRecord

variable (r : FormulaRecord) (links : SheetLinks) (link : SheetLink) (limits : Limits) {i : Nat}

lemma observed?_push (h : (r.tokens[i]?.bind Token.link?).map UInt16.toNat ≠ some links.size) :
    r.observed? (links.push link) limits i = r.observed? links limits i := by
  unfold observed?
  rcases ht : r.tokens[i]? with _ | t
  · rfl
  · have : t.observedSheet? r.sheet (links.push link) = t.observedSheet? r.sheet links :=
      t.observedSheet?_push r.sheet links link (by simpa [ht] using h)
    simp [this]

lemma observed?_of_size
    (h : (r.tokens[i]?.bind Token.link?).map UInt16.toNat = some links.size) :
    r.observed? links limits i = none := by
  unfold observed?
  rcases ht : r.tokens[i]? with _ | t
  · rfl
  · have : t.observedSheet? r.sheet links = none :=
      t.observedSheet?_of_size r.sheet links (by simpa [ht] using h)
    simp [this]

end FormulaRecord

/-- Every token is recorded as it should be. -/
def Agreement.full : Agreement := fun _ is due => is = due

/-- Nothing is recorded that should not be, and only references into other sheets are missing. -/
def Agreement.sound : Agreement := fun t is due =>
  is = due ∨ is = none ∧ ∃ u, t = some u ∧ u.link?.isSome

namespace Workbook

/-- Every token is recorded with the area that it observes, unless that takes in all rows or all
columns, and nothing else is recorded. -/
structure ObserversExact (w : Workbook) : Prop where
  live : ∀ id r i, w.formulas.get? id = some r → i < r.tokens.length →
    w.formulas.observers.area? ⟨id, i⟩ =
      (r.observed? w.links w.limits i).filter fun a => !w.formulas.observers.isWhole a.range
  only_live : ∀ h a, w.formulas.observers.area? h = some a →
    ∃ r, w.formulas.get? h.formula = some r ∧ h.token < r.tokens.length

/-- A stored token refers through the number that the next link gets, and will observe an area
that can be recorded once it is `link`. -/
def Awaits (w : Workbook) (link : SheetLink) : Prop :=
  ∃ id r i a, w.formulas.get? id = some r ∧
    (r.tokens[i]?.bind Token.link?).map UInt16.toNat = some w.links.size ∧
    r.observed? (w.links.push link) w.limits i = some a ∧ a.range.isWhole w.limits = false

section
variable {w : Workbook}

lemma Agrees.observersExact (h : w.Agrees Agreement.full) : w.ObserversExact := by
  refine ⟨fun id r i hr _ => ?_, fun k a ha => h.coherent.live k a ha⟩
  have := h.agrees ⟨id, i⟩
  unfold FormulaStore.AgreesAt Agreement.full FormulaStore.due? at this
  rw [this, hr, h.limits_eq]
  simp only [FormulaStore.isWhole_eq, h.coherent.limits, h.limits_eq]
  rfl

lemma due?_addLink (w : Workbook) (link : SheetLink) (h : Handle) :
    (w.formulas.due? (w.links.push link) h = w.formulas.due? w.links h) ∨
      (w.formulas.due? w.links h = none ∧ ∃ u, w.formulas.token? h = some u ∧ u.link?.isSome) := by
  unfold FormulaStore.due? FormulaStore.token?
  rcases hr : w.formulas.get? h.formula with _ | r
  · exact Or.inl rfl
  · by_cases hi : (r.tokens[h.token]?.bind Token.link?).map UInt16.toNat = some w.links.size
    · right
      obtain ⟨l, hl', -⟩ := Option.map_eq_some_iff.mp hi
      obtain ⟨u, hu, hul⟩ := Option.bind_eq_some_iff.mp hl'
      refine ⟨?_, u, by simpa using hu, by simp [hul]⟩
      simp [FormulaRecord.due?, r.observed?_of_size w.links _ hi]
    · left
      simp [FormulaRecord.due?, r.observed?_push w.links link _ hi]

lemma Agrees.addLink_sound (h : w.Agrees Agreement.sound) (link : SheetLink) :
    (w.addLink link).2.Agrees Agreement.sound := by
  refine ⟨h.coherent, h.limits_eq, fun k => ?_⟩
  have hk := h.agrees k
  unfold FormulaStore.AgreesAt Agreement.sound at hk ⊢
  rcases due?_addLink w link k with hd | ⟨hd, hu⟩
  · show _ = w.formulas.due? (w.links.push link) k ∨ _
    rwa [hd]
  · rw [hd] at hk
    exact Or.inr ⟨hk.elim id And.left, hu⟩

/-- A link that no token waits for keeps the observers exact. -/
lemma Agrees.addLink (h : w.Agrees Agreement.full) {link : SheetLink} (hw : ¬w.Awaits link) :
    (w.addLink link).2.Agrees Agreement.full := by
  refine ⟨h.coherent, h.limits_eq, fun k => ?_⟩
  have hk := h.agrees k
  unfold FormulaStore.AgreesAt Agreement.full at hk ⊢
  show w.formulas.observers.area? k = w.formulas.due? (w.links.push link) k
  rw [hk]
  unfold FormulaStore.due?
  rcases hr : w.formulas.get? k.formula with _ | r
  · rfl
  rw [Option.bind_some, Option.bind_some, h.limits_eq]
  unfold FormulaRecord.due?
  by_cases hi : (r.tokens[k.token]?.bind Token.link?).map UInt16.toNat = some w.links.size
  · rw [r.observed?_of_size w.links _ hi, Option.filter_none, eq_comm, Option.filter_eq_none_iff]
    intro a ha
    by_contra hc
    exact hw ⟨k.formula, r, k.token, a, hr, hi, ha, by simpa using hc⟩
  · rw [r.observed?_push w.links link _ hi]

/-- A link that a token waits for leaves it unrecorded. -/
lemma Awaits.not_observersExact (h : w.Agrees Agreement.full) {link : SheetLink}
    (hw : w.Awaits link) : ¬(w.addLink link).2.ObserversExact := by
  obtain ⟨id, r, i, a, hr, hi, ha, hwhole⟩ := hw
  intro hx
  have hlt : i < r.tokens.length := by
    by_contra hc
    rw [r.observed?_of_le (Nat.le_of_not_lt hc)] at ha
    cases ha
  have hnew := hx.live id r i hr hlt
  have hold := h.observersExact.live id r i hr hlt
  rw [r.observed?_of_size w.links _ hi] at hold
  have hsame : (w.addLink link).2.formulas.observers.area? ⟨id, i⟩ =
      w.formulas.observers.area? ⟨id, i⟩ := rfl
  have hwhole' : (w.addLink link).2.formulas.observers.isWhole a.range = false := by
    show w.formulas.observers.isWhole a.range = false
    rw [FormulaStore.isWhole_eq, h.coherent.limits, h.limits_eq, hwhole]
  have ha' : r.observed? (w.addLink link).2.links (w.addLink link).2.limits i = some a := ha
  rw [hsame, hold, ha'] at hnew
  simp only [Option.filter_some, hwhole', Bool.not_false, if_true] at hnew
  cases hnew

lemma Agrees.run_sound (h : w.Agrees Agreement.sound) (ops : List Operation) :
    (w.run ops).Agrees Agreement.sound := by
  induction ops generalizing w with
  | nil => exact h
  | cons op ops ih =>
    refine ih ?_
    by_cases hop : ∃ link, op = .addLink link
    · obtain ⟨link, rfl⟩ := hop
      exact h.addLink_sound link
    · exact h.apply (fun _ _ => Or.inl rfl) fun link he => hop ⟨link, he⟩

lemma ObserversExact.agrees {R : Agreement} (hx : w.ObserversExact) (h : w.Agrees R) :
    w.Agrees Agreement.full := by
  refine ⟨h.coherent, h.limits_eq, fun k => ?_⟩
  rcases hr : w.formulas.get? k.formula with _ | r
  · exact FormulaStore.agreesAt_dead (fun _ _ => rfl) h.coherent hr
  unfold FormulaStore.AgreesAt Agreement.full FormulaStore.due?
  rw [hr, Option.bind_some, h.limits_eq]
  by_cases hlt : k.token < r.tokens.length
  · rw [hx.live k.formula r k.token hr hlt]
    simp only [FormulaStore.isWhole_eq, h.coherent.limits, h.limits_eq]
    rfl
  · rw [r.due?_of_le (Nat.le_of_not_lt hlt)]
    rcases ha : w.formulas.observers.area? k with _ | a
    · rfl
    · obtain ⟨d, hd, hlt'⟩ := hx.only_live k a ha
      rw [hr] at hd
      cases hd
      exact absurd hlt' hlt

/-- The observers are exact throughout a run that starts with exact ones if and only if no token
waits for any of the links that the run adds. -/
lemma Agrees.observersExact_iff (h : w.Agrees Agreement.full) (ops : List Operation) :
    (∀ n, (w.run (ops.take n)).ObserversExact) ↔
      ∀ n link, ops[n]? = some (.addLink link) → ¬(w.run (ops.take n)).Awaits link := by
  have hsound : ∀ n, (w.run (ops.take n)).Agrees Agreement.sound := fun n =>
    Agrees.run_sound ⟨h.coherent, h.limits_eq, fun k => Or.inl (h.agrees k)⟩ _
  have hnext : ∀ n op, ops[n]? = some op →
      w.run (ops.take (n + 1)) = (w.run (ops.take n)).apply op := by
    intro n op hop
    rw [List.take_add_one, hop, run_append]
    rfl
  constructor
  · intro hx n link hop hw
    refine hw.not_observersExact ((hx n).agrees (hsound n)) ?_
    have := hx (n + 1)
    rwa [hnext n _ hop] at this
  · intro hno n
    suffices hf : (w.run (ops.take n)).Agrees Agreement.full from hf.observersExact
    induction n with
    | zero => exact h
    | succ n ih =>
      rcases hop : ops[n]? with _ | op
      · have hle : ops.length ≤ n := List.getElem?_eq_none_iff.mp hop
        rw [List.take_of_length_le (by omega)]
        rwa [List.take_of_length_le hle] at ih
      · rw [hnext n op hop]
        by_cases hl : ∃ link, op = .addLink link
        · obtain ⟨link, rfl⟩ := hl
          exact ih.addLink (hno n link hop)
        · exact ih.apply (fun _ _ => rfl) fun link he => hl ⟨link, he⟩

end

/-- **What the observers know.** After any operations each token is recorded with exactly what it
observes, or it is an unrecorded reference into another sheet. They are exact all the way if and
only if no stored token waits for any link at the time when it is added. -/
theorem observers_exact_iff_no_late_link (settings : Settings) (ops : List Operation) :
    (∀ h, let w := (empty settings).run ops
      w.formulas.observers.area? h = w.formulas.due? w.links h ∨
        w.formulas.observers.area? h = none ∧
          ∃ t, w.formulas.token? h = some t ∧ t.link?.isSome) ∧
    ((∀ n, ((empty settings).run (ops.take n)).ObserversExact) ↔
      ∀ n link, ops[n]? = some (.addLink link) →
        ¬((empty settings).run (ops.take n)).Awaits link) := by
  have hsound := (agrees_empty (fun _ _ => Or.inl rfl) settings).run_sound ops
  exact ⟨hsound.agrees, (agrees_empty (fun _ _ => rfl) settings).observersExact_iff ops⟩

/-- A reference through a link that is added only after it is missing. -/
theorem observers_inexact_of_late_link :
    ¬((empty {}).run [.addSheet "Data",
      .setFormula ⟨0, ⟨0, 0⟩⟩ [.ref3d .value 0 ⟨4, 0, true, true⟩],
      .addLink (.span 0 0)]).ObserversExact := by
  set w := (empty {}).apply (.addSheet "Data")
  have hw : w.Agrees Agreement.full := agrees_empty (fun _ _ => rfl) {}
  have hset := hw.setFormula (fun _ _ => rfl) ⟨0, ⟨0, 0⟩⟩ [.ref3d .value 0 ⟨4, 0, true, true⟩]
  have hput := FormulaStore.put_insert w.links
    ⟨0, .cell ⟨0, 0⟩ [.ref3d .value 0 ⟨4, 0, true, true⟩]⟩ hw.coherent
  have hwait : (w.setFormula ⟨0, ⟨0, 0⟩⟩ [.ref3d .value 0 ⟨4, 0, true, true⟩]).2.Awaits
      (.span 0 0) := by
    refine ⟨w.formulas.records.size, _, 0, ⟨0, .single ⟨4, 0⟩⟩,
      (hput.get? _).trans (if_pos rfl), ?_⟩
    decide
  exact hwait.not_observersExact hset

end Workbook

end Spreadsheet
