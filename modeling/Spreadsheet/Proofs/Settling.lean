import Mathlib.Data.Nat.Find
import Spreadsheet.Proofs.Nesting

/-!
Cells with one result.

A cell settles if it has a result that does not depend on how it comes to be computed. Constants
settle, and placeholders that lead nowhere. A formula settles if it asks only for cells that settle
before it, and so does every other formula at its place, because a lock does not tell formulas at
one place apart. The formulas of a circle settle if none of them drops the error, so that all come
out circular wherever the circle is entered.

A pass is sound if all that it remembers of cells that settle is right. Whatever cell is computed, a
sound pass stays sound, and a cell that settles comes out with its result.
-/

namespace Spreadsheet

@[simp] lemma BoundFormula.shown_circular (f : BoundFormula) (c : Cell) :
    f.shown c (.error .circular) = .error .circular := by
  cases f <;> rfl

namespace Workbook

/-- The result of a cell whose formula reads given values. A constant is its own result, and a
placeholder that leads nowhere fails. Other formulas are evaluated at their place; of the result of
an array block the cell shows its part. -/
def result (w : Workbook) (functions : Dispatcher) (values : Place → Value) (p : Place) :
    Except EvalError Value :=
  match w.bound? p with
  | none => .ok (w.cellValue p)
  | some (.error e) => .error e
  | some (.ok f) => f.shown p.cell <$> (w.evaluation functions f (f.home p)).eval values

/-- What formulas see of cells with given results. -/
abbrev seen (results : Place → Except EvalError Value) (p : Place) : Value :=
  valueOrFailure (results p)

/-- A set of formula cells that all come out circular if those of the set that they ask for read so.
It holds the cells of an array block together. -/
structure Circle (w : Workbook) (functions : Dispatcher)
    (results : Place → Except EvalError Value) (C : Place → Prop) : Prop where
  formula : ∀ {p}, C p → ∃ f, w.bound? p = some (.ok f)
  block : ∀ {p q f}, C p → w.bound? p = some (.ok f) → w.bound? q = some (.ok f) →
    f.home q = f.home p → C q
  reads : ∀ {p}, C p → results p = .ok (.error .circular)
  comes : ∀ {p f}, C p → w.bound? p = some (.ok f) →
    (w.evaluation functions f (f.home p)).eval (seen results) = .ok (.error .circular)

/-- A cell settles within a number of steps on a result. -/
inductive Settles (w : Workbook) (functions : Dispatcher) :
    Nat → Place → Except EvalError Value → Prop
  | constant {n : Nat} {p : Place} (h : w.bound? p = none) :
    Settles w functions n p (.ok (w.cellValue p))
  | unbound {n : Nat} {p : Place} {e : EvalError} (h : w.bound? p = some (.error e)) :
    Settles w functions n p (.error e)
  | formula {n : Nat} {p : Place} {f : BoundFormula} (h : w.bound? p = some (.ok f))
    (results : Place → Except EvalError Value)
    (hasked : ∀ q g, w.bound? q = some (.ok g) → g.home q = f.home p →
      ∀ a ∈ (w.evaluation functions g (f.home p)).asked (seen results),
        Settles w functions n a (results a)) :
    Settles w functions (n + 1) p
      (f.shown p.cell <$> (w.evaluation functions f (f.home p)).eval (seen results))
  | circle {n : Nat} {p : Place} {C : Place → Prop} (hp : C p)
    (results : Place → Except EvalError Value) (hC : w.Circle functions results C)
    (hasked : ∀ q f, C q → w.bound? q = some (.ok f) →
      ∀ a ∈ (w.evaluation functions f (f.home q)).asked (seen results), ¬C a →
        Settles w functions n a (results a)) :
    Settles w functions (n + 1) p (.ok (.error .circular))

/-- The formulas at a place all ask only for cells that settle within a number of steps. -/
def Firm (w : Workbook) (functions : Dispatcher) (n : Nat) (home : Place) : Prop :=
  ∃ results : Place → Except EvalError Value, ∀ q g, w.bound? q = some (.ok g) →
    g.home q = home → ∀ a ∈ (w.evaluation functions g home).asked (seen results),
      w.Settles functions n a (results a)

/-- The anchor of every array block still holds its placeholder. -/
def AnchorsKept (w : Workbook) : Prop :=
  ∀ p f, w.formulas.arrayAt? p = some f → w.formula? p = some [placeholder p.cell]

variable {w : Workbook} {functions : Dispatcher} {p q : Place} {f g : BoundFormula} {n m : Nat}
  {r r' : Except EvalError Value}

/-! ### Formulas at one place -/

lemma arrayAt?_of_bound? (hw : w.formulas.Coherent) {a : ArrayFormula}
    (hp : w.bound? p = some (.ok (.array a))) :
    w.formulas.arrayAt? ⟨p.sheet, a.range.start⟩ = some a ∧
      ∃ tokens, placeholderAnchor? tokens = some a.range.start := by
  obtain ⟨tokens, -, hf⟩ := Option.map_eq_some_iff.mp hp
  obtain ⟨anchor, hanchor, ha, -⟩ := instantiate_eq_array_iff.mp hf
  obtain ⟨id, -, hkey⟩ := (FormulaStore.find?_eq_some_iff hw).mp
    ((FormulaStore.arrayAt?_eq_some_iff hw).mp ha)
  obtain rfl : a.range.start = anchor := congrArg (fun k : FormulaKey => k.place.cell) hkey
  exact ⟨ha, tokens, hanchor⟩

/-- One place is the anchor of one array block only. -/
lemma array_eq_of_home_eq (hw : w.formulas.Coherent) {a b : ArrayFormula}
    (hp : w.bound? p = some (.ok (.array a))) (hq : w.bound? q = some (.ok (.array b)))
    (h : (BoundFormula.array a).home p = (BoundFormula.array b).home q) : a = b := by
  have ha := (arrayAt?_of_bound? hw hp).1
  have hb := (arrayAt?_of_bound? hw hq).1
  change (⟨p.sheet, a.range.start⟩ : Place) = ⟨q.sheet, b.range.start⟩ at h
  rw [h, hb] at ha
  exact (Option.some.inj ha).symm

lemma placeholderAnchor?_placeholder {tokens : List Token} {anchor : Cell}
    (h : placeholderAnchor? tokens = some anchor) :
    placeholderAnchor? [placeholder anchor] = some anchor := by
  unfold placeholderAnchor? at h
  split at h
  · cases h
    simp [placeholder, placeholderAnchor?]
  · cases h

/-- A formula is the one that its place holds. -/
theorem AnchorsKept.bound?_home (h : w.AnchorsKept) (hw : w.formulas.Coherent)
    (hp : w.bound? p = some (.ok f)) : w.bound? (f.home p) = some (.ok f) := by
  cases f with
  | plain tokens | shared tokens => exact hp
  | array a =>
    obtain ⟨ha, tokens, hanchor⟩ := arrayAt?_of_bound? hw hp
    rw [bound?, BoundFormula.home, h _ a ha]
    refine congrArg some (instantiate_eq_array_iff.mpr ⟨_, placeholderAnchor?_placeholder hanchor,
      ha, CellRange.mem_iff.mpr ?_⟩)
    exact ⟨Nat.le_refl _, a.range.row_le, Nat.le_refl _, a.range.col_le⟩

/-- If the anchors are kept, then each formula has its place to itself. -/
theorem AnchorsKept.eq_of_home_eq (h : w.AnchorsKept) (hw : w.formulas.Coherent)
    (hp : w.bound? p = some (.ok f)) (hq : w.bound? q = some (.ok g))
    (he : g.home q = f.home p) : g = f := by
  have hf := h.bound?_home hw hp
  rw [← he, h.bound?_home hw hq] at hf
  exact Except.ok.inj (Option.some.inj hf)

/-! ### One result -/

lemma Settles.mono (h : w.Settles functions n p r) (hm : n ≤ m) : w.Settles functions m p r := by
  induction h generalizing m with
  | constant h => exact .constant h
  | unbound h => exact .unbound h
  | formula h results _ ih =>
    obtain ⟨k, rfl⟩ := Nat.exists_eq_add_of_lt hm
    exact .formula h results fun q g hg he a ha => ih q g hg he a ha (by omega)
  | circle hp results hC _ ih =>
    obtain ⟨k, rfl⟩ := Nat.exists_eq_add_of_lt hm
    exact .circle hp results hC fun q g hq hg a ha hna => ih q g hq hg a ha hna (by omega)

/-- Results that agree wherever both are asked for lead an evaluation to one end. -/
lemma eval_eq_of_agree {results results' : Place → Except EvalError Value} {home : Place}
    (h : ∀ a ∈ (w.evaluation functions f home).asked (seen results),
      a ∈ (w.evaluation functions f home).asked (seen results') → results a = results' a) :
    (w.evaluation functions f home).eval (seen results) =
      (w.evaluation functions f home).eval (seen results') :=
  (Query.eval_congr fun a ha ha' => congrArg valueOrFailure (h a ha' ha)).2

/-- The formulas of a circle ask for cells that settle, those of the circle among them. -/
lemma Circle.settles_of_asked {C : Place → Prop} {results : Place → Except EvalError Value}
    (hC : w.Circle functions results C)
    (hasked : ∀ q f, C q → w.bound? q = some (.ok f) →
      ∀ a ∈ (w.evaluation functions f (f.home q)).asked (seen results), ¬C a →
        w.Settles functions n a (results a))
    (hp : C p) (hf : w.bound? p = some (.ok f)) :
    ∀ a ∈ (w.evaluation functions f (f.home p)).asked (seen results),
      w.Settles functions (n + 1) a (results a) := by
  intro a ha
  by_cases hmem : C a
  · rw [hC.reads hmem]
    exact .circle hmem results hC hasked
  · exact (hasked p f hp hf a ha hmem).mono (Nat.le_succ n)

/-- A cell settles on one result only. -/
theorem Settles.unique (h : w.Settles functions n p r) (h' : w.Settles functions m p r') :
    r = r' := by
  induction hk : n + m using Nat.strongRecOn generalizing n m p r r' with
  | ind k ih =>
  subst hk
  cases h with
  | constant h =>
    cases h' with
    | constant _ => rfl
    | unbound h' | formula h' => rw [h] at h'; cases h'
    | circle hp _ hC =>
      obtain ⟨f, hf⟩ := hC.formula hp
      rw [h] at hf; cases hf
  | unbound h =>
    cases h' with
    | unbound h' => rw [h] at h'; cases h'; rfl
    | constant h' | formula h' => rw [h] at h'; cases h'
    | circle hp _ hC =>
      obtain ⟨f, hf⟩ := hC.formula hp
      rw [h] at hf; cases hf
  | formula h results hasked =>
    cases h' with
    | constant h' | unbound h' => rw [h] at h'; cases h'
    | formula h' results' hasked' =>
      rw [h] at h'
      cases h'
      exact congrArg _ (eval_eq_of_agree fun a ha ha' =>
        ih _ (by omega) (hasked p _ h rfl a ha) (hasked' p _ h rfl a ha') rfl)
    | circle hp results' hC hasked' =>
      rw [eval_eq_of_agree fun a ha ha' => ih _ (by omega) (hasked p _ h rfl a ha)
        (hC.settles_of_asked hasked' hp h a ha') rfl, hC.comes hp h]
      exact congrArg Except.ok (BoundFormula.shown_circular _ _)
  | circle hp results hC hasked =>
    cases h' with
    | constant h' | unbound h' =>
      obtain ⟨f, hf⟩ := hC.formula hp
      rw [h'] at hf; cases hf
    | formula h' results' hasked' =>
      rw [eval_eq_of_agree fun a ha ha' => ih _ (by omega) (hasked' p _ h' rfl a ha)
        (hC.settles_of_asked hasked hp h' a ha') rfl, hC.comes hp h']
      exact congrArg Except.ok (BoundFormula.shown_circular _ _).symm
    | circle => rfl

lemma settles_iff_of_none (h : w.bound? p = none) :
    w.Settles functions n p r ↔ r = .ok (w.cellValue p) :=
  ⟨fun hr => hr.unique (.constant (n := 0) h), fun hr => hr ▸ .constant h⟩

lemma settles_iff_of_error {e : EvalError} (h : w.bound? p = some (.error e)) :
    w.Settles functions n p r ↔ r = .error e :=
  ⟨fun hr => hr.unique (.unbound (n := 0) h), fun hr => hr ▸ .unbound h⟩

/-- A formula whose place is firm settles in the next step. -/
lemma Settles.of_home {home : Place} {results : Place → Except EvalError Value}
    (hasked : ∀ q g, w.bound? q = some (.ok g) → g.home q = home →
      ∀ a ∈ (w.evaluation functions g home).asked (seen results),
        w.Settles functions n a (results a))
    (hp : w.bound? p = some (.ok f)) (hhome : f.home p = home) :
    w.Settles functions (n + 1) p
      (f.shown p.cell <$> (w.evaluation functions f home).eval (seen results)) := by
  subst hhome
  exact .formula hp results hasked

/-- Where the formulas are not firm, what settles is a circle, for every cell that shows it. -/
lemma Settles.circular_of_not_firm (h : w.Settles functions n p r) (hp : w.bound? p = some (.ok f))
    (hfirm : ∀ k < n, ¬w.Firm functions k (f.home p)) :
    ∃ results, (w.evaluation functions f (f.home p)).eval (seen results) =
        .ok (.error .circular) ∧
      (∀ a ∈ (w.evaluation functions f (f.home p)).asked (seen results),
        w.Settles functions n a (results a)) ∧
      ∀ q, w.bound? q = some (.ok f) → f.home q = f.home p →
        w.Settles functions n q (.ok (.error .circular)) := by
  cases h with
  | constant h | unbound h => rw [hp] at h; cases h
  | formula h results hasked =>
    rw [hp] at h
    cases h
    exact absurd ⟨results, hasked⟩ (hfirm _ (Nat.lt_succ_self _))
  | circle hmem results hC hasked =>
    exact ⟨results, hC.comes hmem hp, hC.settles_of_asked hasked hmem hp,
      fun q hq he => .circle (hC.block hmem hp hq he) results hC hasked⟩

/-- The evaluation of a formula that settles asks for cells that settle. None of them takes longer
than it takes the place to be firm, and the outcome is right for every cell that shows it. -/
lemma Settles.evaluates (h : w.Settles functions n p r) (hp : w.bound? p = some (.ok f)) :
    ∃ m ≤ n, ∃ results, (∀ k < m, ¬w.Firm functions k (f.home p)) ∧
      (∀ a ∈ (w.evaluation functions f (f.home p)).asked (seen results),
        w.Settles functions m a (results a)) ∧
      ∀ q, w.bound? q = some (.ok f) → f.home q = f.home p → ∃ i, w.Settles functions i q
        (f.shown q.cell <$> (w.evaluation functions f (f.home p)).eval (seen results)) := by
  classical
  by_cases hfirm : ∃ m < n, w.Firm functions m (f.home p)
  · obtain ⟨hlt, results, hasked⟩ := Nat.find_spec hfirm
    refine ⟨Nat.find hfirm, Nat.le_of_lt hlt, results, fun k hk hf => ?_,
      hasked p f hp rfl, fun q hq he => ⟨_, .of_home hasked hq he⟩⟩
    exact Nat.find_min hfirm hk ⟨Nat.lt_trans hk hlt, hf⟩
  · have hno : ∀ k < n, ¬w.Firm functions k (f.home p) := fun k hk hf => hfirm ⟨k, hk, hf⟩
    obtain ⟨results, heval, hasked, hsettles⟩ := h.circular_of_not_firm hp hno
    refine ⟨n, Nat.le_refl n, results, hno, hasked, fun q hq he => ⟨n, ?_⟩⟩
    have hshown : f.shown q.cell <$> (.ok (.error .circular) : Except EvalError Value) =
        .ok (.error .circular) := congrArg Except.ok (f.shown_circular q.cell)
    rw [heval, hshown]
    exact hsettles q hq he

/-- What settles has the result that its formula has for the settled values. -/
theorem Settles.eq_result {values : Place → Value} (h : w.Settles functions n p r)
    (hvalues : ∀ q n r, w.Settles functions n q r → values q = valueOrFailure r) :
    r = w.result functions values p := by
  have heval : ∀ {f : BoundFormula} {results : Place → Except EvalError Value} {m : Nat},
      (∀ a ∈ (w.evaluation functions f (f.home p)).asked (seen results),
        w.Settles functions m a (results a)) →
      (w.evaluation functions f (f.home p)).eval values =
        (w.evaluation functions f (f.home p)).eval (seen results) := fun hasked =>
    (Query.eval_congr fun a ha _ => hvalues a _ _ (hasked a ha)).2
  unfold result
  cases h with
  | constant h => rw [h]
  | unbound h => rw [h]
  | formula h results hasked =>
    rw [h]
    exact congrArg _ (heval fun a ha => hasked p _ h rfl a ha).symm
  | circle hp results hC hasked =>
    obtain ⟨f, hf⟩ := hC.formula hp
    rw [hf]
    dsimp only
    rw [heval (hC.settles_of_asked hasked hp hf), hC.comes hp hf]
    exact congrArg Except.ok (f.shown_circular _).symm

end Workbook

namespace Recalculation

variable {w : Workbook} {functions : Dispatcher} {p : Place} {f : BoundFormula} {n m : Nat}
  {r : Except EvalError Value} {s t : Pass} {v : Value}

/-! ### Sound passes -/

/-- What a pass remembers of cells that settle is right. -/
structure Sound (w : Workbook) (functions : Dispatcher) (s : Pass) : Prop where
  cells : ∀ {p v n r}, s.cells[p]? = some v → w.Settles functions n p r → r = .ok v
  results : ∀ {p f v n r}, w.bound? p = some (.ok f) → s.result? p f = some v →
    w.Settles functions n p r → r = .ok (f.shown p.cell v)

/-- No place is locked whose formulas are firm within `n` steps. -/
def Quiet (w : Workbook) (functions : Dispatcher) (n : Nat) (s : Pass) : Prop :=
  ∀ home ∈ s.locked, ∀ k < n, ¬w.Firm functions k home

lemma sound_empty : Sound w functions {} where
  cells h := by simp at h
  results {p f v n x} _ h := by cases f <;> simp [Pass.result?] at h

lemma quiet_of_unlocked (h : s.locked = []) : Quiet w functions n s := by
  intro home hmem
  rw [h] at hmem
  exact absurd hmem List.not_mem_nil

lemma Quiet.lock (h : Quiet w functions n s) (hm : m ≤ n) {home : Place}
    (hhome : ∀ k < m, ¬w.Firm functions k home) (ht : t.locked = home :: s.locked) :
    Quiet w functions m t := by
  intro a ha k hk
  rw [ht, List.mem_cons] at ha
  rcases ha with rfl | ha
  · exact hhome k hk
  · exact h a ha k (by omega)

lemma Sound.lock (h : Sound w functions s) (p : Place) : Sound w functions (s.lock p) := by
  refine ⟨h.cells, fun {p f v n x} hp hv => h.results hp ?_⟩
  cases f <;> exact hv

lemma Sound.unlock (h : Sound w functions s) (p : Place) : Sound w functions (s.unlock p) := by
  refine ⟨h.cells, fun {p f v n x} hp hv => h.results hp ?_⟩
  cases f <;> exact hv

lemma Sound.rememberCell (h : Sound w functions s)
    (hv : ∀ n r, w.Settles functions n p r → r = .ok v) :
    Sound w functions (s.rememberCell p v) := by
  refine ⟨fun {q u n r} hq hr => ?_, fun {q f u n x} hp hu => h.results hp ?_⟩
  · rw [Pass.getElem?_cells_rememberCell] at hq
    split_ifs at hq with hpq
    · subst hpq
      cases hq
      exact hv n r hr
    · exact h.cells hq hr
  · cases f <;> exact hu

/-- An outcome is remembered that is right for every cell that shows a part of it. -/
lemma Sound.remember (hw : w.formulas.Coherent) (h : Sound w functions s)
    (hp : w.bound? p = some (.ok f))
    (hv : ∀ q, w.bound? q = some (.ok f) → f.home q = f.home p →
      ∀ n r, w.Settles functions n q r → r = .ok (f.shown q.cell v)) :
    Sound w functions (s.remember p f v) := by
  refine ⟨(h.rememberCell (hv p hp rfl)).cells, fun {q g u n r} hq hu hr => ?_⟩
  cases g with
  | plain tokens | shared tokens => cases hu
  | array b =>
    cases f with
    | plain tokens | shared tokens => exact h.results hq hu hr
    | array a =>
      have hu' : (s.blocks.insert ((BoundFormula.array a).home p) v)[(BoundFormula.array b).home q]? =
          some u := hu
      rw [Std.HashMap.getElem?_insert] at hu'
      split at hu'
      · rename_i he
        rw [beq_iff_eq] at he
        cases hu'
        obtain rfl := Workbook.array_eq_of_home_eq hw hp hq he
        exact hv q hq he.symm n r hr
      · exact h.results hq hu' hr

/-! ### Computing keeps a pass sound -/

/-- A cell of which the pass knows the outcome. -/
lemma Sound.of_course (hw : w.formulas.Coherent) {t : Pass} {r : Except EvalError Value}
    (h : Sound w functions s) (hc : course w p s = .done r t)
    (hlocked : ∀ f, w.bound? p = some (.ok f) → f.home p ∈ s.locked →
      ∀ q, w.bound? q = some (.ok f) → f.home q = f.home p →
        ∀ n r', w.Settles functions n q r' → r' = .ok (.error .circular)) :
    (∀ n r', w.Settles functions n p r' → r = r') ∧ Sound w functions t := by
  cases Immediate.of_course hc with
  | constant hb => exact ⟨fun n r' hr => ((w.settles_iff_of_none hb).mp hr).symm, h⟩
  | remembered hb hv => exact ⟨fun n r' hr => (h.cells hv hr).symm, h⟩
  | failed hb => exact ⟨fun n r' hr => ((w.settles_iff_of_error hb).mp hr).symm, h⟩
  | known hb hnew hv =>
    have hcell := fun n r' (hr : w.Settles functions n p r') => h.results hb hv hr
    exact ⟨fun n r' hr => (hcell n r' hr).symm, h.rememberCell hcell⟩
  | @locked f hb hnew hl =>
    have hcircular := hlocked f hb hl
    rw [BoundFormula.shown_circular]
    refine ⟨fun n r' hr => (hcircular p hb rfl n r' hr).symm, h.remember hw hb ?_⟩
    intro q hq he n r' hr
    rw [BoundFormula.shown_circular]
    exact hcircular q hq he n r' hr

/-- An evaluation that ends with the right outcome, if there is one. -/
lemma Sound.finish (hw : w.formulas.Coherent) {x : Except EvalError Value}
    (h : Sound w functions s) (hp : w.bound? p = some (.ok f))
    (hx : ∀ q, w.bound? q = some (.ok f) → f.home q = f.home p →
      ∀ n r, w.Settles functions n q r → r = f.shown q.cell <$> x) :
    Sound w functions (finish p f x s).2 := by
  cases x with
  | error e => exact h
  | ok v => exact h.remember hw hp hx

lemma fst_finish (p : Place) (f : BoundFormula) (x : Except EvalError Value) (s : Pass) :
    (finish p f x s).1 = f.shown p.cell <$> x := by
  cases x <;> rfl

/-- An evaluation that reads the results of what it asks for has the outcome for these values. -/
lemma evaluated_eq_eval (hs : Sound w functions s) {home : Place}
    {results : Place → Except EvalError Value}
    (hread : ∀ a ∈ (w.evaluation functions f home).asked (Workbook.seen results), ∀ t,
      Sound w functions t → t.locked = home :: s.locked →
        (w.compute functions a t).1 = results a ∧ Sound w functions (w.compute functions a t).2) :
    (evaluated w functions (w.compute functions) f home s).1 =
        (w.evaluation functions f home).eval (Workbook.seen results) ∧
      Sound w functions (evaluated w functions (w.compute functions) f home s).2 := by
  let I : Pass → Prop := fun t => Sound w functions t ∧ t.locked = home :: s.locked
  have hev : (evaluated w functions (w.compute functions) f home s).1 =
      (w.evaluation functions f home).eval (Workbook.seen results) ∧
        I (evaluated w functions (w.compute functions) f home s).2 :=
    Query.runWith_eq_eval ⟨hs.lock home, rfl⟩ fun a ha t ⟨ht, hl⟩ => by
      obtain ⟨hv, hsound⟩ := hread a ha t ht hl
      exact ⟨congrArg valueOrFailure hv, hsound, (locked_compute w.nestingBound a t).trans hl⟩
  exact ⟨hev.1, hev.2.1⟩

lemma sound_evaluated (hs : Sound w functions s) {home : Place}
    (hread : ∀ a t, Sound w functions t → t.locked = home :: s.locked →
      Sound w functions (w.compute functions a t).2) :
    Sound w functions (evaluated w functions (w.compute functions) f home s).2 := by
  let I : Pass → Prop := fun t => Sound w functions t ∧ t.locked = home :: s.locked
  have hev : I (evaluated w functions (w.compute functions) f home s).2 :=
    Query.runWith_inv ⟨hs.lock home, rfl⟩ fun a t _ ⟨ht, hl⟩ =>
      ⟨hread a t ht hl, (locked_compute w.nestingBound a t).trans hl⟩
  exact hev.1

/-- **A cell that settles comes out with its result**, in every sound pass in which it can be
reached. -/
theorem compute_of_settles (hw : w.formulas.Coherent) (h : w.Settles functions n p r)
    (hs : Sound w functions s) (hq : Quiet w functions n s) :
    (w.compute functions p s).1 = r ∧ Sound w functions (w.compute functions p s).2 := by
  -- Each evaluation locks a place, so the induction is on the places that are free.
  induction hfree : (free w s).length using Nat.strongRecOn generalizing n p r s with
  | ind k ih =>
  rcases hc : course w p s with ⟨r', t⟩ | f
  · have hdone := hs.of_course hw hc fun f hb hl q hqf he i r' hr' => by
      obtain ⟨-, -, -, hcircular⟩ := h.circular_of_not_firm hb (hq _ hl)
      exact hr'.unique (hcircular q hqf he)
    rw [compute_of_done hw hc]
    exact ⟨hdone.1 n r h, hdone.2⟩
  obtain ⟨hb, -, -, hhome⟩ := course_eq_evaluate hc
  obtain ⟨m, hm, results, hno, hasked, hshown⟩ := h.evaluates hb
  have hread : ∀ a ∈ (w.evaluation functions f (f.home p)).asked (Workbook.seen results), ∀ t,
      Sound w functions t → t.locked = f.home p :: s.locked →
        (w.compute functions a t).1 = results a ∧
          Sound w functions (w.compute functions a t).2 := by
    intro a ha t ht hl
    have hlt := length_free_lt (Workbook.home_mem_evaluationPlaces hw hb) hhome hl
    exact ih _ (hfree ▸ hlt) (hasked a ha) ht (hq.lock hm hno hl) rfl
  obtain ⟨houtcome, hsound⟩ := evaluated_eq_eval hs hread
  rw [compute_of_evaluate hw hc, fst_finish, houtcome]
  obtain ⟨i, hp⟩ := hshown p hb rfl
  refine ⟨hp.unique h, (hsound.unlock _).finish hw hb fun q hqf he j r' hr' => ?_⟩
  obtain ⟨i, hsettles⟩ := hshown q hqf he
  exact hr'.unique hsettles

/-- **Any cell leaves a sound pass sound**, if no place is being evaluated whose formulas are
firm. -/
theorem sound_compute (hw : w.formulas.Coherent) (hs : Sound w functions s)
    (hq : ∀ n, Quiet w functions n s) : Sound w functions (w.compute functions p s).2 := by
  induction hfree : (free w s).length using Nat.strongRecOn generalizing p s with
  | ind k ih =>
  by_cases hsettles : ∃ n r, w.Settles functions n p r
  · obtain ⟨n, r, h⟩ := hsettles
    exact (compute_of_settles hw h hs (hq n)).2
  -- Then no cell settles that shows a part of the same outcome.
  have hno : ∀ f, w.bound? p = some (.ok f) → ∀ q, w.bound? q = some (.ok f) →
      f.home q = f.home p → ∀ n r, ¬w.Settles functions n q r := by
    intro f hb q hqf he n r hr
    obtain ⟨-, -, _, -, -, hshown⟩ := hr.evaluates hqf
    obtain ⟨i, hp⟩ := hshown p hb he.symm
    exact hsettles ⟨i, _, hp⟩
  rcases hc : course w p s with ⟨r, t⟩ | f
  · rw [compute_of_done hw hc]
    exact (hs.of_course hw hc fun f hb _ q hqf he n r hr => absurd hr (hno f hb q hqf he n r)).2
  obtain ⟨hb, -, -, hhome⟩ := course_eq_evaluate hc
  have hfirm : ∀ k, ¬w.Firm functions k (f.home p) := fun k ⟨results, hasked⟩ =>
    hsettles ⟨k + 1, _, .of_home hasked hb rfl⟩
  have hsound : Sound w functions
      (evaluated w functions (w.compute functions) f (f.home p) s).2 := by
    refine sound_evaluated hs fun a t ht hl => ?_
    have hlt := length_free_lt (Workbook.home_mem_evaluationPlaces hw hb) hhome hl
    have hquiet := fun n => (hq n).lock (Nat.le_refl n) (fun k _ => hfirm k) hl
    exact ih _ (hfree ▸ hlt) ht hquiet rfl
  rw [compute_of_evaluate hw hc]
  exact (hsound.unlock _).finish hw hb fun q hqf he n r hr => absurd hr (hno f hb q hqf he n r)

end Recalculation

end Spreadsheet
