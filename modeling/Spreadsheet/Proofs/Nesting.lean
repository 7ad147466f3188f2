import Mathlib.Data.List.Dedup
import Mathlib.Data.List.Perm.Subperm
import Mathlib.Logic.Function.Iterate
import Spreadsheet.Proofs.Course
import Spreadsheet.Proofs.Lookup

/-!
Recalculation comes to an end.

Every evaluation locks a place at which a formula is evaluated, and none is locked twice. So the
number of free places bounds how deep evaluations nest, in any pass and with any circles. Unfolded
deeper than that, the recursion no longer depends on what its innermost call would do. Within one
formula, names are followed no deeper than the settings allow.
-/

namespace Spreadsheet

namespace Workbook

/-- The places at which formulas are evaluated, each once: the cells with a formula, and the
anchors of array blocks. -/
def evaluationPlaces (w : Workbook) : List Place :=
  ((w.formulas.toList.filter fun (_, r) => r.body.kind ≠ .shared).map fun (_, r) => r.place).dedup

lemma length_evaluationPlaces_le (w : Workbook) :
    w.evaluationPlaces.length ≤ w.formulas.records.size := by
  calc w.evaluationPlaces.length
      ≤ (w.formulas.toList.filter fun (_, r) => r.body.kind ≠ .shared).length :=
        le_of_le_of_eq (List.dedup_sublist _).length_le (List.length_map _)
    _ ≤ w.formulas.toList.length := List.length_filter_le _ _
    _ ≤ w.formulas.records.toList.zipIdx.length := List.length_filterMap_le _ _
    _ = w.formulas.records.size := by rw [List.length_zipIdx, Array.length_toList]

section
variable {w : Workbook} {p : Place}

lemma place_mem_evaluationPlaces {id : Nat} {r : FormulaRecord} (h : w.formulas.get? id = some r)
    (hk : r.body.kind ≠ .shared) : r.place ∈ w.evaluationPlaces := by
  rw [evaluationPlaces, List.mem_dedup, List.mem_map]
  exact ⟨(id, r), List.mem_filter.mpr ⟨FormulaStore.mem_toList.mpr h, by simpa using hk⟩, rfl⟩

/-- A formula is evaluated at one of the places. -/
theorem home_mem_evaluationPlaces (hw : w.formulas.Coherent) {f : BoundFormula}
    (h : w.bound? p = some (.ok f)) : f.home p ∈ w.evaluationPlaces := by
  obtain ⟨tokens, htokens, hf⟩ := Option.map_eq_some_iff.mp h
  have hcell : p ∈ w.evaluationPlaces := by
    rw [formula?_eq, Option.map_eq_some_iff] at htokens
    obtain ⟨r, hr, -⟩ := htokens
    obtain ⟨id, hid, hkey⟩ := (FormulaStore.find?_eq_some_iff hw).mp hr
    obtain ⟨hkind, rfl⟩ := FormulaKey.mk.inj hkey
    exact place_mem_evaluationPlaces hid (by rw [hkind]; decide)
  cases f with
  | plain tokens => exact hcell
  | shared tokens => exact hcell
  | array g =>
    obtain ⟨anchor, -, hg, -⟩ := instantiate_eq_array_iff.mp hf
    rw [FormulaStore.arrayAt?_eq_some_iff hw] at hg
    obtain ⟨id, hid, -⟩ := (FormulaStore.find?_eq_some_iff hw).mp hg
    exact place_mem_evaluationPlaces hid nofun

end

end Workbook

namespace Recalculation

variable {w : Workbook} {functions : Dispatcher} {read read' : Place → PassM Value} {p : Place}
  {s t : Pass}

/-! ### Unfolding the recursion -/

/-- The places that are not locked. -/
def free (w : Workbook) (s : Pass) : List Place := w.evaluationPlaces.filter (· ∉ s.locked)

lemma length_free_le (w : Workbook) (s : Pass) :
    (free w s).length ≤ w.evaluationPlaces.length := List.length_filter_le _ _

/-- A lock leaves fewer places. -/
lemma length_free_lt (hp : p ∈ w.evaluationPlaces) (hl : p ∉ s.locked)
    (ht : t.locked = p :: s.locked) : (free w t).length < (free w s).length := by
  have hfree : free w t = (free w s).filter (· ≠ p) := by
    unfold free
    rw [ht, List.filter_filter]
    refine List.filter_congr fun q _ => ?_
    simp
  rw [hfree, List.length_filter_lt_length_iff_exists]
  exact ⟨p, List.mem_filter.mpr ⟨hp, by simpa using hl⟩, by simp⟩

/-- A step looks at its reader only within the evaluation that it starts. -/
lemma step_congr (h : ∀ f, course w p s = .evaluate f → ∀ q t, t.locked = f.home p :: s.locked →
      read' q t = read q t ∧ (read q t).2.locked = t.locked) :
    step w functions read' p s = step w functions read p s := by
  rcases hc : course w p s with ⟨r, t⟩ | f
  · rw [step_of_done hc, step_of_done hc]
  · have hev : evaluated w functions read' f (f.home p) s = evaluated w functions read f (f.home p) s :=
      Query.runWith_congr (I := fun t => t.locked = f.home p :: s.locked) rfl fun q t ht => by
        obtain ⟨he, hl⟩ := h f hc q t ht
        exact ⟨congrArg (fun x : Except EvalError Value × Pass => (valueOrFailure x.1, x.2)) he,
          hl.trans ht⟩
    rw [step_of_evaluate hc, step_of_evaluate hc, hev]

/-- Unfolded deeper than there are free places, the recursion does not depend on what the innermost
call does. -/
theorem iterate_step_eq_compute (hw : w.formulas.Coherent) (read : Place → PassM Value) {n : Nat}
    (hn : (free w s).length < n) :
    (step w functions)^[n] read p s = compute w functions n p s := by
  induction n generalizing p s with
  | zero => omega
  | succ n ih =>
    rw [Function.iterate_succ_apply', compute_succ]
    refine step_congr fun f hc q t ht => ⟨ih ?_, locked_compute n q t⟩
    obtain ⟨hbound, -, -, hfree⟩ := course_eq_evaluate hc
    have := length_free_lt (Workbook.home_mem_evaluationPlaces hw hbound) hfree ht
    omega

lemma iterate_step_compute (n m : Nat) :
    (step w functions)^[n] (compute w functions m) = compute w functions (n + m) := by
  induction n with
  | zero => rw [Nat.zero_add]; rfl
  | succ n ih => rw [Function.iterate_succ_apply', ih, ← compute_succ, Nat.succ_add]

/-- All bounds that exceed the number of free places are as good. -/
lemma compute_eq_of_lt (hw : w.formulas.Coherent) {n m : Nat} (hn : (free w s).length < n)
    (hm : n ≤ m) : compute w functions m p s = compute w functions n p s := by
  obtain ⟨k, rfl⟩ := Nat.exists_eq_add_of_le hm
  rw [← iterate_step_compute, iterate_step_eq_compute hw _ hn]

theorem iterate_step_eq (hw : w.formulas.Coherent) (read : Place → PassM Value) {n : Nat}
    (hn : w.evaluationPlaces.length < n) : (step w functions)^[n] read = w.compute functions := by
  funext p s
  have hfree := length_free_le w s
  have hsize := w.length_evaluationPlaces_le
  have hlt : (free w s).length < w.evaluationPlaces.length + 1 := by omega
  rw [iterate_step_eq_compute hw read (by omega), compute_eq_of_lt hw hlt hn]
  exact (compute_eq_of_lt hw hlt (Nat.succ_le_succ hsize)).symm

/-- **The recursion without a bound.** A cell is computed by one step that reads cells by the
recursion itself. -/
theorem compute_eq_step (hw : w.formulas.Coherent) :
    w.compute functions = step w functions (w.compute functions) := by
  have hn := Nat.lt_succ_self w.evaluationPlaces.length
  let read : Place → PassM Value := fun _ => return .blank
  calc w.compute functions
      = (step w functions)^[w.evaluationPlaces.length + 2] read :=
        (iterate_step_eq hw read (Nat.lt_succ_of_lt hn)).symm
    _ = step w functions ((step w functions)^[w.evaluationPlaces.length + 1] read) :=
        Function.iterate_succ_apply' ..
    _ = step w functions (w.compute functions) := by rw [iterate_step_eq hw read hn]

lemma compute_of_done (hw : w.formulas.Coherent) {r : Except EvalError Value}
    (h : course w p s = .done r t) : w.compute functions p s = (r, t) := by
  rw [compute_eq_step hw, step_of_done h]

lemma compute_of_evaluate (hw : w.formulas.Coherent) {f : BoundFormula}
    (h : course w p s = .evaluate f) : w.compute functions p s =
      finish p f (evaluated w functions (w.compute functions) f (f.home p) s).1
        ((evaluated w functions (w.compute functions) f (f.home p) s).2.unlock (f.home p)) := by
  rw [congrFun (congrFun (compute_eq_step hw) p) s, step_of_evaluate h]

section Outcome
variable (hw : w.formulas.Coherent) {f : BoundFormula} {v : Value}
include hw

lemma compute_of_remembered (hb : w.bound? p = some (.ok f)) (hv : s.cells[p]? = some v) :
    w.compute functions p s = (.ok v, s) :=
  compute_of_done hw (by simp only [course, hb, hv])

lemma compute_of_locked (hb : w.bound? p = some (.ok f)) (hv : s.cells[p]? = none)
    (hr : s.result? p f = none) (hl : f.home p ∈ s.locked) : w.compute functions p s =
      (.ok (f.shown p.cell (.error .circular)), s.remember p f (.error .circular)) :=
  compute_of_done hw (by simp only [course, hb, hv, hr, if_pos hl])

lemma compute_of_free (hb : w.bound? p = some (.ok f)) (hv : s.cells[p]? = none)
    (hr : s.result? p f = none) (hl : f.home p ∉ s.locked) : w.compute functions p s =
      finish p f (evaluated w functions (w.compute functions) f (f.home p) s).1
        ((evaluated w functions (w.compute functions) f (f.home p) s).2.unlock (f.home p)) :=
  compute_of_evaluate hw (by simp only [course, hb, hv, hr, if_neg hl])

end Outcome

/-! ### Nested calls -/

variable (w functions) in
/-- The computation of a cell in a pass starts an evaluation, which asks for another cell in a
later state of the pass. -/
inductive Calls : Place × Pass → Place × Pass → Prop
  | intro {p q : Place} {s t : Pass} {f : BoundFormula} (h : course w p s = .evaluate f)
    (hask : (w.evaluation functions f (f.home p)).Asks (answers (w.compute functions))
      (s.lock (f.home p)) q t) : Calls (p, s) (q, t)

variable (w functions) in
/-- Calls nest `n` deep from one computation to another. -/
inductive Nested : Nat → Place × Pass → Place × Pass → Prop
  | here (a : Place × Pass) : Nested 0 a a
  | call {n : Nat} {a b c : Place × Pass} (h : Calls w functions a b) (hrest : Nested n b c) :
    Nested (n + 1) a c

/-- A call comes from an evaluation, which holds its place meanwhile. -/
lemma Calls.evaluates {a b : Place × Pass} (h : Calls w functions a b) :
    ∃ f, course w a.1 a.2 = .evaluate f ∧ b.2.locked = f.home a.1 :: a.2.locked := by
  obtain ⟨hc, hask⟩ := h
  refine ⟨_, hc, hask.inv (I := fun t => t.locked = _ :: _) rfl ?_⟩
  exact fun q t _ ht => (locked_compute w.nestingBound q t).trans ht

/-- Each call locks a place that no evaluation around it holds. -/
theorem Calls.locks (hw : w.formulas.Coherent) {a b : Place × Pass} (h : Calls w functions a b) :
    ∃ home ∈ w.evaluationPlaces, home ∉ a.2.locked ∧ b.2.locked = home :: a.2.locked := by
  obtain ⟨f, hc, hlocked⟩ := h.evaluates
  obtain ⟨hbound, -, -, hfree⟩ := course_eq_evaluate hc
  exact ⟨_, Workbook.home_mem_evaluationPlaces hw hbound, hfree, hlocked⟩

/-- The evaluations around a nested call hold as many places, and each another one. -/
theorem Nested.locks (hw : w.formulas.Coherent) {n : Nat} {a b : Place × Pass}
    (h : Nested w functions n a b) : ∃ homes : List Place, homes.length = n ∧ homes.Nodup ∧
      homes ⊆ w.evaluationPlaces ∧ homes.Disjoint a.2.locked ∧
      b.2.locked = homes ++ a.2.locked := by
  induction h with
  | here a => exact ⟨[], rfl, List.nodup_nil, List.nil_subset _, List.disjoint_nil_left _, rfl⟩
  | call hcall _ ih =>
    obtain ⟨home, hmem, hfree, hb⟩ := hcall.locks hw
    obtain ⟨homes, hlen, hnodup, hsub, hdisj, hc⟩ := ih
    rw [hb, List.disjoint_cons_right] at hdisj
    refine ⟨homes ++ [home], by simp [hlen], ?_, ?_, ?_, by simp [hc, hb]⟩
    · exact List.nodup_append.mpr ⟨hnodup, List.nodup_singleton home, by
        rintro x hx y hy rfl
        exact hdisj.1 (List.mem_singleton.mp hy ▸ hx)⟩
    · exact List.append_subset.mpr ⟨hsub, by simpa using hmem⟩
    · exact List.disjoint_append_left.mpr ⟨hdisj.2, by simpa using hfree⟩

theorem Nested.le (hw : w.formulas.Coherent) {n : Nat} {a b : Place × Pass}
    (h : Nested w functions n a b) : n ≤ w.evaluationPlaces.length := by
  obtain ⟨homes, rfl, hnodup, hsub, -⟩ := h.locks hw
  exact (List.subperm_of_subset hnodup hsub).length_le

/-! ### Names -/

end Recalculation

namespace Workbook

open Recalculation

lemma map_fst_mapM {α β : Type} (f : α → StateM Pass β) (as : List α) (s : Pass) :
    ((as.mapM fun a => do return (a, ← f a)).run s).1.map Prod.fst = as := by
  induction as generalizing s with
  | nil => rfl
  | cons a as ih =>
    rw [List.mapM_cons]
    exact congrArg (a :: ·) (ih (f a s).2)

end Workbook

end Spreadsheet
