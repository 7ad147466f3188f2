import Spreadsheet.Proofs.FloatOrder

/-!
Comparisons with their sides swapped.

The order of two values that are no errors is mirrored when they change sides, whatever their types.
A blank takes the type of the other side on either side, types are ranked, and each type has an
order that is mirrored. So the six comparisons of two values, and those the other way round, all go
by one order.
-/

namespace Spreadsheet

namespace Scalar

variable {s t : Scalar}

lemma order_swap (epsilon : Float) (s t : Scalar) :
    order epsilon t s = (order epsilon s t).swap := by
  cases s with
  | number x =>
    cases t with
    | number y => exact Number.compare_swap epsilon x y
    | _ => rfl
  | text x =>
    cases t with
    | text y => exact Std.OrientedOrd.eq_swap
    | _ => rfl
  | bool b =>
    cases t with
    | bool c => exact Std.OrientedOrd.eq_swap
    | _ => rfl
  | error | blank => cases t <;> rfl

lemma isError_emptyAsBlank (s : Scalar) : s.emptyAsBlank.isError = s.isError := by
  unfold emptyAsBlank
  split <;> rfl

/-- What is no error is ordered, a blank as the other side's type. -/
lemma compare_of_not_isError (epsilon : Float) (hs : s.isError = false) (ht : t.isError = false) :
    compare epsilon s t = .ok (order epsilon (s.emptyAsBlank.inPlaceOf t.emptyAsBlank)
      (t.emptyAsBlank.inPlaceOf s.emptyAsBlank)) := by
  rw [← isError_emptyAsBlank] at hs ht
  unfold compare
  generalize s.emptyAsBlank = s' at hs ⊢
  generalize t.emptyAsBlank = t' at ht ⊢
  cases s' with
  | error e => cases hs
  | _ =>
    cases t' with
    | error e => cases ht
    | _ => rfl

end Scalar

namespace Value

variable {v w : Value}

/-- Two values that are no errors have an order, which is mirrored the other way round. -/
lemma exists_order (epsilon : Float) (hv : v.leaf.isError = false) (hw : w.leaf.isError = false) :
    ∃ o, compare epsilon v w = .ok o ∧ compare epsilon w v = .ok o.swap :=
  ⟨_, Scalar.compare_of_not_isError epsilon hv hw, by
    rw [← Scalar.order_swap]
    exact Scalar.compare_of_not_isError epsilon hw hv⟩

lemma compareOp_of_order {epsilon : Float} {op : BinaryOp} {o : Ordering} {b : Bool}
    (h : compare epsilon v w = .ok o) (hop : op.holds? o = some b) :
    compareOp op epsilon v w = .bool b := by
  simp only [compareOp, h, hop]

/-- Of two values that neither are errors nor start with one, exactly one is less than, equal to or
greater than the other. The other comparisons are the negations of these, and the other way round
each says the same of the sides that it names. -/
theorem compareOp_consistent (epsilon : Float) (hv : v.leaf.isError = false)
    (hw : w.leaf.isError = false) :
    ∃ lt eq gt : Bool,
      (compareOp .lt epsilon v w = .bool lt ∧ compareOp .eq epsilon v w = .bool eq ∧
        compareOp .gt epsilon v w = .bool gt) ∧
      [lt, eq, gt].count true = 1 ∧
      (compareOp .le epsilon v w = .bool !gt ∧ compareOp .ge epsilon v w = .bool !lt ∧
        compareOp .ne epsilon v w = .bool !eq) ∧
      (compareOp .gt epsilon w v = .bool lt ∧ compareOp .eq epsilon w v = .bool eq ∧
        compareOp .lt epsilon w v = .bool gt) := by
  obtain ⟨o, h, h'⟩ := exists_order epsilon hv hw
  refine ⟨o == .lt, o == .eq, o == .gt,
    ⟨compareOp_of_order h rfl, compareOp_of_order h rfl, compareOp_of_order h rfl⟩, ?_,
    ⟨compareOp_of_order h rfl, compareOp_of_order h rfl, compareOp_of_order h rfl⟩,
    ⟨compareOp_of_order h' ?_, compareOp_of_order h' ?_, compareOp_of_order h' ?_⟩⟩ <;>
    cases o <;> rfl

/-- An array of arrays, of which the first starts with a text, against a number. -/
theorem compareOp_consistent_nested :
    let v := array 1 2 [array 1 2 [text "ß", error .reference], error .name]
    let w := number 7
    v.leaf.isError = false ∧ w.leaf.isError = false ∧
    ∃ lt eq gt : Bool,
      (compareOp .lt 1e-15 v w = .bool lt ∧ compareOp .eq 1e-15 v w = .bool eq ∧
        compareOp .gt 1e-15 v w = .bool gt) ∧
      [lt, eq, gt].count true = 1 ∧
      (compareOp .le 1e-15 v w = .bool !gt ∧ compareOp .ge 1e-15 v w = .bool !lt ∧
        compareOp .ne 1e-15 v w = .bool !eq) ∧
      (compareOp .gt 1e-15 w v = .bool lt ∧ compareOp .eq 1e-15 w v = .bool eq ∧
        compareOp .lt 1e-15 w v = .bool gt) :=
  ⟨rfl, rfl, compareOp_consistent _ rfl rfl⟩

end Value

end Spreadsheet
