import Mathlib.Data.List.Induction
import Mathlib.Logic.Relation
import Spreadsheet.Proofs.Fixpoint

/-!
The chain of formulas behind the error of a circle.

A formula comes out circular where its place is locked. The locked places are those of the
evaluations around it, of which each asked for a cell whose value the next one produces. So behind
every error of a circle there is a chain of formulas that leads from a place back to it. It is
closed but for one case: where a formula was entered over the anchor of an array block, the two
share a place, and the chain may lead from one of them to the other.
-/

namespace Spreadsheet

open Recalculation Relation

/-- A formula at its place of evaluation: a cell's own, or that of an array block. -/
structure Producer where
  place : Place
  formula : BoundFormula

namespace Workbook

/-- The value of a cell comes from a formula. -/
def Produces (w : Workbook) (n : Producer) (p : Place) : Prop :=
  ∃ f, w.bound? p = some (.ok f) ∧ n = ⟨f.home p, f⟩

/-- A cell is computed in the pass that is asked for some cells in order, be it one of these or one
that an evaluation asks for. -/
inductive Occurs (w : Workbook) (functions : Dispatcher) (cells : List Place) :
    Place × Pass → Prop
  | request {before after : List Place} {p : Place} (h : cells = before ++ p :: after) :
    Occurs w functions cells (p, (w.reportedFrom functions before {}).2)
  | nested {a b : Place × Pass} (ha : Occurs w functions cells a) (h : Calls w functions a b) :
    Occurs w functions cells b

/-- In the pass, the evaluation of a formula asks for a cell whose value another one produces. -/
def AsksFor (w : Workbook) (functions : Dispatcher) (cells : List Place) (n m : Producer) : Prop :=
  ∃ a b, w.Occurs functions cells a ∧ Calls w functions a b ∧ w.Produces n a.1 ∧ w.Produces m b.1

/-- In the pass, a chain of formulas leads from one to another. -/
abbrev Chain (w : Workbook) (functions : Dispatcher) (cells : List Place) :
    Producer → Producer → Prop :=
  TransGen (w.AsksFor functions cells)

end Workbook

namespace Recalculation

variable {w : Workbook} {functions : Dispatcher} {cells : List Place} {p : Place}
  {f : BoundFormula} {s t : Pass} {a : Place × Pass}

/-! ### Chains and locks -/

lemma locked_reportedFrom (before : List Place) (s : Pass) :
    (w.reportedFrom functions before s).2.locked = s.locked := by
  induction before generalizing s with
  | nil => rfl
  | cons p before ih =>
    rw [Workbook.reportedFrom_cons, ih]
    exact locked_compute w.nestingBound p s

lemma reportedFrom_concat (before : List Place) (p : Place) (s : Pass) :
    (w.reportedFrom functions (before ++ [p]) s).2 =
      (w.compute functions p (w.reportedFrom functions before s).2).2 := by
  induction before generalizing s with
  | nil => rw [List.nil_append, Workbook.reportedFrom_cons]; rfl
  | cons q before ih => rw [List.cons_append, Workbook.reportedFrom_cons, ih,
      Workbook.reportedFrom_cons]

/-- A place is locked by an evaluation from which a chain leads to the cell in question. -/
theorem exists_chain_of_locked (ha : w.Occurs functions cells a) {home : Place}
    (hl : home ∈ a.2.locked) : ∃ n p, n.place = home ∧ w.Produces n p ∧
      ∀ m, w.Produces m a.1 → w.Chain functions cells n m := by
  induction ha with
  | request h =>
    rw [locked_reportedFrom] at hl
    exact absurd hl List.not_mem_nil
  | @nested a b ha h ih =>
    obtain ⟨f, hc, hlocked⟩ := h.evaluates
    have hproduces : w.Produces ⟨f.home a.1, f⟩ a.1 := ⟨f, (course_eq_evaluate hc).1, rfl⟩
    have hlast : ∀ m, w.Produces m b.1 →
        w.AsksFor functions cells ⟨f.home a.1, f⟩ m := fun m hm => ⟨a, b, ha, h, hproduces, hm⟩
    rw [hlocked, List.mem_cons] at hl
    rcases hl with rfl | hl
    · exact ⟨_, a.1, rfl, hproduces, fun m hm => .single (hlast m hm)⟩
    · obtain ⟨n, p, hplace, hn, hchain⟩ := ih hl
      exact ⟨n, p, hplace, hn, fun m hm => (hchain _ hproduces).tail (hlast m hm)⟩

/-! ### Passes without the error of a circle -/

section
variable (hw : w.formulas.Coherent) (hf : functions.CircleFree) (h : w.CircleFree)
include hw h hf

/-- If no chain leads back to its place, then the error of a circle does not come up, neither as
the outcome nor in what the pass remembers. -/
theorem circleFreeEnd_compute (hno : ∀ n m, w.Chain functions cells n m → n.place ≠ m.place)
    (ha : w.Occurs functions cells a) (hs : ValueRule.circleFree.AllowsPass a.2) :
    ValueRule.circleFree.AllowsEnd (w.compute functions a.1 a.2) := by
  induction hfree : (free w a.2).length using Nat.strongRecOn generalizing a with
  | ind k ih =>
  obtain ⟨p, s⟩ := a
  rw [congrFun (congrFun (compute_eq_step hw) p) s]
  refine ValueRule.allowsEnd_step ValueRule.closed_circleFree hw h.allowsBook
    (ValueRule.kept_circleFree hf) hs (fun f hb hl => ?_) fun f hc q t hask ht => ?_
  · obtain ⟨n, q, hplace, -, hchain⟩ := exists_chain_of_locked ha hl
    exact absurd hplace (hno _ _ (hchain ⟨f.home p, f⟩ ⟨f, hb, rfl⟩))
  · have hcalls : Calls w functions (p, s) (q, t) := .intro hc hask
    obtain ⟨home, hmem, hnew, hlocked⟩ := hcalls.locks hw
    exact ih _ (hfree ▸ length_free_lt hmem hnew hlocked) (.nested ha hcalls) ht rfl

variable (hno : ∀ n m, w.Chain functions cells n m → n.place ≠ m.place)
include hno

lemma circleFree_reportedFrom (before : List Place) {after : List Place}
    (hcells : cells = before ++ after) :
    ValueRule.circleFree.AllowsPass (w.reportedFrom functions before {}).2 := by
  induction before using List.reverseRecOn generalizing after with
  | nil => exact .empty
  | append_singleton before p ih =>
    rw [List.append_assoc, List.singleton_append] at hcells
    rw [reportedFrom_concat]
    exact (circleFreeEnd_compute hw hf h hno (.request hcells) (ih hcells)).2

/-- Nor is it remembered wherever in the pass a cell is computed. -/
lemma circleFree_of_occurs (ha : w.Occurs functions cells a) :
    ValueRule.circleFree.AllowsPass a.2 := by
  induction ha with
  | request hcells => exact circleFree_reportedFrom hw hf h hno _ hcells
  | nested ha hcalls ih =>
    obtain ⟨hc, hask⟩ := hcalls
    refine hask.inv (I := ValueRule.circleFree.AllowsPass) (ih.lock _) fun q t hq ht => ?_
    exact (circleFreeEnd_compute hw hf h hno (.nested ha (.intro hc hq)) ht).2

end

end Recalculation

namespace Workbook

variable {w : Workbook} {functions : Dispatcher} {cells : List Place} {n m : Producer}
  {p q : Place}

lemma AsksFor.exists_produces (h : w.AsksFor functions cells n m) :
    (∃ p, w.Produces n p) ∧ ∃ p, w.Produces m p := by
  obtain ⟨a, b, -, -, hn, hm⟩ := h
  exact ⟨⟨a.1, hn⟩, b.1, hm⟩

lemma Chain.exists_produces (h : w.Chain functions cells n m) :
    (∃ p, w.Produces n p) ∧ ∃ p, w.Produces m p := by
  obtain ⟨_, hn, -⟩ := TransGen.head'_iff.mp h
  obtain ⟨_, -, hm⟩ := TransGen.tail'_iff.mp h
  exact ⟨hn.exists_produces.1, hm.exists_produces.2⟩

/-- Different formulas with one place are an array block and the formula of its anchor. -/
lemma Produces.eq_or_anchor (hw : w.formulas.Coherent) (hn : w.Produces n p)
    (hm : w.Produces m q) (hplace : n.place = m.place) : n = m ∨
      ∃ block f, w.formulas.arrayAt? n.place = some block ∧ w.bound? n.place = some (.ok f) ∧
        f ≠ .array block ∧
        (n.formula = .array block ∧ m.formula = f ∨ n.formula = f ∧ m.formula = .array block) := by
  obtain ⟨f, hf, rfl⟩ := hn
  obtain ⟨g, hg, rfl⟩ := hm
  change f.home p = g.home q at hplace
  have hcell : p = q → f = g := by
    rintro rfl
    exact Except.ok.inj (Option.some.inj (hf.symm.trans hg))
  cases f with
  | array a =>
    cases g with
    | array b =>
      have hblock := array_eq_of_home_eq hw hf hg hplace
      exact Or.inl (congrArg₂ Producer.mk hplace (congrArg BoundFormula.array hblock))
    | plain tokens | shared tokens =>
      obtain rfl : (BoundFormula.array a).home p = q := hplace
      exact Or.inr ⟨a, _, (arrayAt?_of_bound? hw hf).1, hg, nofun, Or.inl ⟨rfl, rfl⟩⟩
  | plain tokens | shared tokens =>
    cases g with
    | array b =>
      obtain rfl : p = (BoundFormula.array b).home q := hplace
      exact Or.inr ⟨b, _, (arrayAt?_of_bound? hw hg).1, hf, nofun, Or.inr ⟨rfl, rfl⟩⟩
    | plain tokens | shared tokens =>
      exact Or.inl (congrArg₂ Producer.mk hplace (hcell hplace))

/-- **Behind the error of a circle there is a chain of formulas that leads back to its place.** If
the error is not stored, then the computation of a cell comes to it only if there is a circle of
formulas in the pass, or a chain between an array block and a formula that was entered over its
anchor. -/
theorem exists_chain_of_circular (hw : w.Reachable) (hf : functions.CircleFree) (h : w.CircleFree)
    {s : Pass} {v : Value} (hp : w.Occurs functions cells (p, s))
    (hv : (w.compute functions p s).1 = .ok v) (hc : ¬v.CircleFree) :
    (∃ n, w.Chain functions cells n n) ∨
      ∃ anchor block f, w.formulas.arrayAt? anchor = some block ∧
        w.bound? anchor = some (.ok f) ∧ f ≠ .array block ∧
        (w.Chain functions cells ⟨anchor, .array block⟩ ⟨anchor, f⟩ ∨
          w.Chain functions cells ⟨anchor, f⟩ ⟨anchor, .array block⟩) := by
  by_cases hno : ∀ n m, w.Chain functions cells n m → n.place ≠ m.place
  · have hend := circleFreeEnd_compute hw.coherent hf h hno hp
      (circleFree_of_occurs hw.coherent hf h hno hp)
    refine absurd ?_ hc
    have houtcome := hend.1
    rwa [hv] at houtcome
  · push Not at hno
    obtain ⟨n, m, hchain, hplace⟩ := hno
    obtain ⟨⟨q, hn⟩, q', hm⟩ := hchain.exists_produces
    rcases hn.eq_or_anchor hw.coherent hm hplace with rfl | ⟨block, f, hblock, hbound, hne, hends⟩
    · exact Or.inl ⟨n, hchain⟩
    · refine Or.inr ⟨n.place, block, f, hblock, hbound, hne, ?_⟩
      obtain ⟨place, formula⟩ := n
      obtain ⟨place', formula'⟩ := m
      obtain rfl : place = place' := hplace
      exact hends.imp (fun ⟨hn, hm⟩ => hn ▸ hm ▸ hchain) (fun ⟨hn, hm⟩ => hn ▸ hm ▸ hchain)

namespace ChainExample

open OrderExample FixpointExample

lemma circleFree_overwrittenAnchor : overwrittenAnchor.CircleFree := circleFree_showA2 ⟨0, 0⟩

lemma occurs_a1 : overwrittenAnchor.Occurs Library.empty [a1] (a1, {}) :=
  .request (List.nil_append [a1]).symm

/-- A1 asks for a cell of the block, and the block asks for nothing. -/
lemma eq_of_asksFor {cells : List Place} {n m : Producer}
    (h : overwrittenAnchor.AsksFor Library.empty cells n m) :
    n = ⟨a1, .plain showA2⟩ ∧ m = ⟨a1, .array columnBlock⟩ := by
  obtain ⟨_, _, -, ⟨hc, hask⟩, ⟨f, hf, rfl⟩, g, hg, rfl⟩ := h
  obtain rfl : f = _ := Except.ok.inj (Option.some.inj (hf.symm.trans (course_eq_evaluate hc).1))
  obtain ⟨rfl, rfl⟩ | rfl := bound?_showA2 (q := a1) hf
  · cases hask with
    | here =>
      obtain rfl : g = _ :=
        Except.ok.inj (Option.some.inj (hg.symm.trans bound?_overwrittenAnchor.2))
      exact ⟨rfl, rfl⟩
    | later hask => cases hask
  · cases hask

end ChainExample

open OrderExample ChainExample in
/-- The error of a circle without a circle: A1 comes out circular, though no chain of formulas is
closed, whatever cells are asked for. -/
theorem circular_without_circle :
    overwrittenAnchor.Reachable ∧ overwrittenAnchor.CircleFree ∧
      overwrittenAnchor.Occurs Library.empty [a1] (a1, {}) ∧
      (overwrittenAnchor.compute Library.empty a1 {}).1 = .ok (.error .circular) ∧
      ¬∃ cells n, overwrittenAnchor.Chain Library.empty cells n n := by
  refine ⟨⟨_, _, rfl⟩, circleFree_overwrittenAnchor, occurs_a1,
    congrArg Prod.fst compute_overwrittenAnchor, ?_⟩
  rintro ⟨cells, n, hchain⟩
  obtain ⟨_, hfirst, -⟩ := TransGen.head'_iff.mp hchain
  obtain ⟨_, -, hlast⟩ := TransGen.tail'_iff.mp hchain
  have hn := (eq_of_asksFor hfirst).1.symm.trans (eq_of_asksFor hlast).2
  cases hn

open OrderExample ChainExample in
/-- There the chain leads from the formula over the anchor to the block. -/
theorem exists_chain_of_circular_overwrittenAnchor :
    overwrittenAnchor.Reachable ∧ Library.empty.CircleFree ∧ overwrittenAnchor.CircleFree ∧
      overwrittenAnchor.Occurs Library.empty [a1] (a1, {}) ∧
      (overwrittenAnchor.compute Library.empty a1 {}).1 = .ok (.error .circular) ∧
      ¬(Value.error .circular).CircleFree ∧
      overwrittenAnchor.Chain Library.empty [a1] ⟨a1, .plain showA2⟩ ⟨a1, .array columnBlock⟩ := by
  have hw : overwrittenAnchor.Reachable := ⟨_, _, rfl⟩
  have hv : (overwrittenAnchor.compute Library.empty a1 {}).1 = .ok (.error .circular) :=
    congrArg Prod.fst compute_overwrittenAnchor
  have hc : ¬(Value.error .circular).CircleFree := by simp
  refine ⟨hw, Library.circleFree_empty, circleFree_overwrittenAnchor, occurs_a1, hv, hc, ?_⟩
  have hends : ∀ {n m}, overwrittenAnchor.Chain Library.empty [a1] n m →
      overwrittenAnchor.Chain Library.empty [a1] ⟨a1, .plain showA2⟩ ⟨a1, .array columnBlock⟩ := by
    intro n m hchain
    obtain ⟨_, hfirst, -⟩ := TransGen.head'_iff.mp hchain
    obtain ⟨_, -, hlast⟩ := TransGen.tail'_iff.mp hchain
    rwa [(eq_of_asksFor hfirst).1, (eq_of_asksFor hlast).2] at hchain
  rcases exists_chain_of_circular hw Library.circleFree_empty circleFree_overwrittenAnchor
    occurs_a1 hv hc with ⟨n, hchain⟩ | ⟨_, _, _, -, -, -, hchain | hchain⟩
  all_goals exact hends hchain

end Workbook

end Spreadsheet
