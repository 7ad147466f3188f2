import Spreadsheet.Proofs.RuleLibrary
import Spreadsheet.Proofs.RuleWorkbook

/-!
Arrays are flat.

Arrays come from constants, from areas of cells, from operators that combine arrays of different
shapes, and from functions, which also hand on what they are given. If the array constants of a
workbook fill their rectangles and no constant of a cell is an array, then every array has the
elements of its shape, no more than the settings permit, and none of them is an array. So no cell
ever shows an array.
-/

namespace Spreadsheet

/-- The value is no array. -/
def Value.IsScalar (v : Value) : Prop := ∃ s, v = .scalar s

/-- An array has the elements of its shape, no more than `maxCells`, and none of them is an
array. -/
def Value.WellShaped (maxCells : Nat) : Value → Prop
  | .scalar _ => True
  | .array rows cols values =>
    (values.length = rows * cols ∧ values.length ≤ maxCells) ∧ ∀ v ∈ values, v.IsScalar

/-- An array constant fills its rectangle. -/
def Token.Rectangular : Token → Prop
  | .array _ _ a => a.values.length = a.rows * a.cols
  | _ => True

lemma Token.lasting_rectangular : Token.Lasting Token.Rectangular :=
  .of_literals (fun t ht => by cases t <;> trivial) trivial

namespace ValueRule

/-- Any scalars, but no arrays in cells and in arrays. -/
def flat (maxCells : Nat) : ValueRule where
  scalar _ := True
  element := Value.IsScalar
  shape rows cols count := count = rows * cols ∧ count ≤ maxCells

variable {maxCells : Nat}

lemma allows_flat : (flat maxCells).Allows = Value.WellShaped maxCells := by
  funext v
  cases v <;> rfl

lemma recalculable_flat : (flat maxCells).Recalculable maxCells where
  blank := trivial
  bool _ := trivial
  text _ := trivial
  error _ := trivial
  finite _ := trivial
  negative _ := trivial
  percent _ := trivial
  single _ := ⟨_, rfl⟩
  allows := by
    rintro v ⟨s, rfl⟩
    trivial
  area h := ⟨rfl, h⟩
  filled := by
    rintro rows cols count ⟨rfl, h⟩
    exact ⟨rfl, h⟩
  circular := trivial
  surfaced := by
    rintro v ⟨s, rfl⟩
    exact ⟨_, rfl⟩

lemma isScalar_element (e : ArrayElement) : e.value.IsScalar := by
  cases e <;> exact ⟨_, rfl⟩

/-- Array constants that are too large are not looked at. -/
lemma allowsToken_flat {t : Token} (h : t.Rectangular) :
    (flat maxCells).AllowsToken maxCells t := by
  cases t with
  | error | num => trivial
  | array cls reserved a =>
    intro hcells
    have hlength : (a.values.map ArrayElement.value).length = a.rows * a.cols :=
      (List.length_map _).trans h
    have hbound : (a.values.map ArrayElement.value).length ≤ maxCells := hlength ▸ hcells
    refine ⟨⟨hlength, hbound⟩, fun v hv => ?_⟩
    obtain ⟨e, -, rfl⟩ := List.mem_map.mp hv
    exact isScalar_element e
  | _ => trivial

end ValueRule

namespace Workbook

variable {w : Workbook} {functions : Dispatcher}

/-- **All arrays are well shaped, bounded and flat**, and cells show none. -/
theorem maintains_wellShaped (hw : w.Reachable)
    (h : w.StoresOnly Token.Rectangular Value.IsScalar)
    (hf : functions = Library.basic ∨ functions = Library.empty) :
    w.Maintains functions Token.Rectangular Value.IsScalar
      (Value.WellShaped w.settings.maxArrayCells) := by
  rw [← ValueRule.allows_flat]
  exact ValueRule.maintains ValueRule.recalculable_flat hw.coherent
    (fun _ => ValueRule.allowsToken_flat) h
    (ValueRule.kept_of_eq ValueRule.recalculable_flat.toClosed hf)

/-- Whatever was done to a workbook, no cell holds an array if all array constants that were brought
in fill their rectangles and no array was stored as a constant. -/
theorem isScalar_cellValue_run (settings : Settings) {ops : List Operation}
    (hops : ∀ op ∈ ops, op.Brings Token.Rectangular Value.IsScalar)
    (hf : ∀ functions, .recalculate functions ∈ ops →
      functions = Library.basic ∨ functions = Library.empty) (p : Place) :
    (((empty settings).run ops).cellValue p).IsScalar :=
  ValueRule.element_cellValue_run ValueRule.recalculable_flat Token.lasting_rectangular
    (fun _ => ValueRule.allowsToken_flat) hops
    (fun functions h =>
      ValueRule.kept_of_eq ValueRule.recalculable_flat.toClosed (hf functions h)) p

namespace FlatExample

/-- The sum of `{1;TRUE}+A1:A2`, which joins two arrays of two rows. -/
def sumOfColumns : List Token :=
  [.array .array (.replicate 7 0) ⟨2, 1, [.number 0x3FF0000000000000, .ofBool true]⟩,
    .area .array ⟨⟨0, 0, true, true⟩, ⟨1, 0, true, true⟩⟩, .binary .add,
    .funcVar .value 1 false 4 false]

/-- A truth value at A1, and the sum at B1. -/
def ops : List Operation := [.addSheet "Sheet1", .setValue ⟨0, ⟨0, 0⟩⟩ (.bool true),
  .setFormula ⟨0, ⟨0, 1⟩⟩ sumOfColumns]

def book : Workbook := (empty {}).run ops

lemma storesOnly_book : book.StoresOnly Token.Rectangular Value.IsScalar := by
  have hsum : ∀ t ∈ sumOfColumns, t.Rectangular := by
    simp [sumOfColumns, Token.Rectangular]
  refine storesOnly_run Token.lasting_rectangular {} fun op hop => ?_
  simp only [ops, List.mem_cons, List.not_mem_nil, or_false] at hop
  rcases hop with rfl | rfl | rfl
  · trivial
  · exact ⟨_, rfl⟩
  · exact hsum

theorem maintains_wellShaped_book :
    book.Reachable ∧ book.StoresOnly Token.Rectangular Value.IsScalar ∧
      book.Maintains Library.basic Token.Rectangular Value.IsScalar
        (Value.WellShaped book.settings.maxArrayCells) :=
  have hw : book.Reachable := ⟨_, _, rfl⟩
  ⟨hw, storesOnly_book, maintains_wellShaped hw storesOnly_book (.inl rfl)⟩

end FlatExample

end Workbook

end Spreadsheet
