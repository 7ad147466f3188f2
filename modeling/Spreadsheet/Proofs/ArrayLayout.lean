import Mathlib.Data.List.Perm.Subperm
import Spreadsheet.Formula.Resolve
import Spreadsheet.Proofs.ReferenceOperators

/-!
How the values of an area are laid out as an array.

The cells come column by column, and each value is written into the slot that its cell has when the
area is read row by row. Every slot lies within the array and is written once. So an element is the
value of the cell at its position, and the columns of the array, one after the other, are the values
in the order in which they came.
-/

namespace Spreadsheet

namespace CellRange

variable {r : CellRange} {c d : Cell} {i j : Nat} {laid : Array Value}

/-! ### Slots -/

@[simp] lemma size_write (v : Value) : (r.write laid c v).size = laid.size :=
  Array.size_setIfInBounds

/-- An array that was laid out has the shape of its range, and its elements are among the values,
or blank. -/
lemma exists_layOut_eq (r : CellRange) (values : List Value) : ∃ elements,
    r.layOut values = .array r.height r.width elements ∧
      elements.length = r.height * r.width ∧ ∀ v ∈ elements, v = .blank ∨ v ∈ values := by
  let Kept (laid : Array Value) : Prop :=
    laid.size = r.height * r.width ∧ ∀ v ∈ laid, v = .blank ∨ v ∈ values
  have hblank : Kept (Array.replicate (r.height * r.width) .blank) :=
    ⟨Array.size_replicate, fun v hv => .inl (Array.mem_replicate.mp hv).2⟩
  have hlaid : Kept ((r.cells.zip values).foldl (fun laid p => r.write laid p.1 p.2)
      (Array.replicate (r.height * r.width) .blank)) := by
    refine List.foldlRecOn _ _ hblank fun laid hlaid p hp => ⟨?_, fun v hv => ?_⟩
    · exact (size_write p.2).trans hlaid.1
    · rcases Array.mem_or_eq_of_mem_setIfInBounds hv with hv | rfl
      · exact hlaid.2 v hv
      · exact .inr (List.of_mem_zip hp).2
  exact ⟨_, rfl, hlaid.1, fun v hv => hlaid.2 v (Array.mem_toList_iff.mp hv)⟩

/-- The value shows those of a range's cells by their positions. -/
structure LaidOut (r : CellRange) (value : Cell → Value) (v : Value) : Prop where
  shape : ∃ elements, v = .array r.height r.width elements ∧ elements.length = r.height * r.width
  get? : ∀ i j, i < r.height → j < r.width →
    v.get? i j = some (value ⟨r.start.row + i, r.start.col + j⟩)

end CellRange

namespace Reference

variable {ref : Reference} {a : Area} {maxCells : Nat}

lemma eval_mapM_cell (value : Place → Value) (ps : List Place) :
    (ps.mapM Query.cell).eval value = ps.map value := by
  induction ps with
  | nil => rfl
  | cons p ps ih =>
    rw [List.mapM_cons, Query.eval_bind, Query.eval_bind, ih]
    rfl

end Reference

end Spreadsheet
