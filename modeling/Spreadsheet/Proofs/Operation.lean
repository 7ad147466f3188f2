import Spreadsheet.Proofs.Tracking
import Spreadsheet.Workbook.Recalculation

/-!
The changes that a caller can make to a workbook, one by one and in a row.

What the formula store looks like after an operation depends on the store, the links and the grid
alone. Every operation but the addition of a link keeps the observers in agreement with the tokens;
a new link leaves the store as it is.
-/

namespace Spreadsheet

inductive Operation
  | addSheet (name : String)
  | addLink (link : SheetLink)
  | addName (name : DefinedName)
  | addLinkedName (link : UInt16) (name : LinkedName)
  | setValue (p : Place) (v : Value)
  | setFormula (p : Place) (tokens : List Token)
  | setShared (sheet : Nat) (range : CellRange) (body : List Token)
  | setArray (sheet : Nat) (range : CellRange) (body : List Token)
  | edit (sheet : Nat) (axis : Axis) (change : GridChange) (start count : Nat)
  | deleteSheet (sheet : Nat)
  | recalculate (functions : Dispatcher)

namespace Workbook

def apply (w : Workbook) : Operation → Workbook
  | .addSheet name => (w.addSheet name).2
  | .addLink link => (w.addLink link).2
  | .addName name => (w.addName name).2
  | .addLinkedName link name => (w.addLinkedName link name).2
  | .setValue p v => w.setValue p v
  | .setFormula p tokens => (w.setFormula p tokens).2
  | .setShared sheet range body => (w.setShared sheet range body).2
  | .setArray sheet range body => (w.setArray sheet range body).2
  | .edit sheet axis change start count =>
    w.edit (.ofLimits sheet axis change start count w.limits)
  | .deleteSheet sheet => w.deleteSheet sheet
  | .recalculate functions => (w.recalculate functions).2

def run (w : Workbook) (ops : List Operation) : Workbook := ops.foldl apply w

@[simp] lemma run_nil (w : Workbook) : w.run [] = w := rfl

@[simp] lemma run_cons (w : Workbook) (op : Operation) (ops : List Operation) :
    w.run (op :: ops) = (w.apply op).run ops := rfl

lemma run_append (w : Workbook) (ops ops' : List Operation) :
    w.run (ops ++ ops') = (w.run ops).run ops' := by
  simp [run, List.foldl_append]

/-- Workbooks that come about by any operations in any order. -/
def Reachable (w : Workbook) : Prop := ∃ settings ops, w = (empty settings).run ops

lemma Reachable.apply {w : Workbook} (h : w.Reachable) (op : Operation) :
    (w.apply op).Reachable := by
  obtain ⟨settings, ops, rfl⟩ := h
  exact ⟨settings, ops ++ [op], by rw [run_append]; rfl⟩

/-- What holds of an empty workbook and is kept by each operation holds of every workbook. -/
theorem Reachable.induction {P : Workbook → Prop} (hempty : ∀ settings, P (empty settings))
    (hstep : ∀ (w : Workbook) (op : Operation), w.Reachable → P w → P (w.apply op))
    {w : Workbook} (h : w.Reachable) : P w := by
  have hrun : ∀ (ops : List Operation) (w : Workbook), w.Reachable → P w → P (w.run ops) := by
    intro ops
    induction ops with
    | nil => exact fun _ _ hw => hw
    | cons op ops ih => exact fun w hr hw => ih _ (hr.apply op) (hstep w op hr hw)
  obtain ⟨settings, ops, rfl⟩ := h
  exact hrun ops _ ⟨settings, [], rfl⟩ (hempty settings)

/-! ### What the operations do to the formulas -/

/-- The formulas of a workbook agree with its observers, in the sense of `R`. -/
abbrev Agrees (R : Agreement) (w : Workbook) : Prop := w.formulas.Agrees R w.limits w.links

section
variable (w : Workbook)

lemma formulas_setValue (p : Place) (v : Value) : (w.setValue p v).formulas =
    match w.formulas.cellFormula? p with
    | some id => w.formulas.remove id
    | none => w.formulas := by
  unfold setValue
  cases w.formulas.cellFormula? p <;> dsimp only <;> split <;> rfl

lemma links_setValue (p : Place) (v : Value) : (w.setValue p v).links = w.links := by
  unfold setValue
  cases w.formulas.cellFormula? p <;> dsimp only <;> split <;> rfl

lemma limits_setValue (p : Place) (v : Value) : (w.setValue p v).limits = w.limits := by
  unfold setValue
  cases w.formulas.cellFormula? p <;> dsimp only <;> split <;> rfl

end

/-- A value may take the place of a formula, but no formula comes with it. -/
lemma get?_of_setValue {w : Workbook} (hw : w.formulas.Coherent) (p : Place) (v : Value) {id : Nat}
    {r : FormulaRecord} (h : (w.setValue p v).formulas.get? id = some r) :
    w.formulas.get? id = some r := by
  rw [formulas_setValue] at h
  split at h
  · rw [(FormulaStore.drop_remove hw _).get?] at h
    split_ifs at h
    exact h
  · exact h

section
variable {R : Agreement} (hR : ∀ t x, R t x x) {w : Workbook}
include hR

lemma agrees_empty (settings : Settings) : (empty settings).Agrees R :=
  FormulaStore.agrees_empty hR

lemma Agrees.setValue (h : w.Agrees R) (p : Place) (v : Value) : (w.setValue p v).Agrees R := by
  unfold Agrees
  rw [formulas_setValue, links_setValue, limits_setValue]
  split
  · exact FormulaStore.Agrees.remove hR h _
  · exact h

lemma Agrees.insertRecord (h : w.Agrees R) (r : FormulaRecord) : (w.insertRecord r).2.Agrees R :=
  FormulaStore.Agrees.insert hR h r

lemma Agrees.setFormula (h : w.Agrees R) (p : Place) (tokens : List Token) :
    (w.setFormula p tokens).2.Agrees R :=
  FormulaStore.Agrees.insert hR h _

lemma Agrees.fillPlaceholders (h : w.Agrees R) (sheet : Nat) (range : CellRange) :
    (w.fillPlaceholders sheet range).Agrees R :=
  List.foldlRecOn _ _ h fun _ hw _ _ => hw.setFormula hR _ _

lemma Agrees.edit (h : w.Agrees R) (e : GridEdit) : (w.edit e).Agrees R := by
  unfold Workbook.edit
  split_ifs
  · exact h
  · exact FormulaStore.Agrees.edit hR h e

/-- The removal of a sheet makes the observers agree with the tokens, whatever they were. -/
lemma agrees_deleteSheet (hw : w.formulas.Coherent) (hl : w.formulas.limits = w.limits)
    {sheet : Nat} (hs : sheet < w.sheets.size) : (w.deleteSheet sheet).Agrees R := by
  have hb : (w.formulas.breakObservers w.links sheet).Agrees (fun _ _ _ => True) w.limits
      w.links := by
    refine List.foldlRecOn _ _ ⟨hw, hl, fun _ => trivial⟩ fun t ht k _ => ?_
    split
    · exact ht.replaceToken (fun _ _ => trivial) k _
    · exact ht
  unfold deleteSheet
  rw [Array.getElem?_eq_getElem hs]
  have := FormulaStore.agrees_withoutSheet hR hb.coherent
    (w.links.map (·.withoutSheet sheet w.sheets[sheet].name)) sheet
  rw [hb.limits_eq] at this
  exact this

/-- Every operation but the addition of a link keeps the agreement. -/
theorem Agrees.apply (h : w.Agrees R) {op : Operation} (hop : ∀ link, op ≠ .addLink link) :
    (w.apply op).Agrees R := by
  cases op with
  | addSheet _ => exact h
  | addLink link => exact absurd rfl (hop link)
  | addName _ => exact h
  | addLinkedName _ _ => exact h
  | setValue p v => exact h.setValue hR p v
  | setFormula p tokens => exact h.setFormula hR p tokens
  | setShared sheet range body => exact (h.fillPlaceholders hR sheet range).insertRecord hR _
  | setArray sheet range body => exact (h.fillPlaceholders hR sheet range).insertRecord hR _
  | edit sheet axis change start count => exact h.edit hR _
  | deleteSheet sheet =>
    by_cases hs : sheet < w.sheets.size
    · exact agrees_deleteSheet hR h.coherent h.limits_eq hs
    · have : w.deleteSheet sheet = w := by
        unfold Workbook.deleteSheet
        rw [Array.getElem?_eq_none (Nat.le_of_not_lt hs)]
      show (w.deleteSheet sheet).Agrees R
      rwa [this]
  | recalculate functions => exact h

end

end Workbook

end Spreadsheet
