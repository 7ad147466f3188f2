import Mathlib.Tactic.Common
import Spreadsheet.Value.Broadcast

/-!
Operators on arrays, position by position.

A scalar, or the only element of an array, stands at every position; otherwise an operand has an
element at the positions of its list and at no other. The result has at each of its positions what
the operator makes of the two elements there, and an error where there is but one.
-/

namespace Spreadsheet.Value

variable {f : Value → Value → Value} {u v w a b : Value} {rows cols i : Nat}
  {left right values : List Value}

/-- The numbers of rows and columns. A scalar has none. -/
def shape? : Value → Option (Nat × Nat)
  | scalar _ => none
  | array rows cols _ => some (rows, cols)

/-- The elements row by row. A scalar is its own. -/
def elements : Value → List Value
  | scalar s => [scalar s]
  | array _ _ values => values

/-- An array has the elements of its shape. -/
def FillsShape : Value → Prop
  | scalar _ => True
  | array rows cols values => values.length = rows * cols

/-- The element that an operand has at a position. A single one stands at every position. -/
def at? (v : Value) (i : Nat) : Option Value :=
  match v.elements with
  | [a] => some a
  | values => values[i]?

/-- What an operator makes of the elements at a position. -/
def combineAt (f : Value → Value → Value) (v w : Value) (i : Nat) : Value :=
  match v.at? i, w.at? i with
  | some a, some b => f a b
  | _, _ => .error .value

/-- What an operator has to make of two operands. -/
structure Combines (f : Value → Value → Value) (v w u : Value) : Prop where
  scalars : v.shape? = none → w.shape? = none → u = f v w
  /-- Two scalars make a scalar, if the operator makes one of them; otherwise there is an array. -/
  scalar_iff : (v.shape? = none → w.shape? = none → (f v w).shape? = none) →
    (u.shape? = none ↔ v.shape? = none ∧ w.shape? = none)
  shape_left : v.shape? ≠ none → w.elements.length = 1 → u.shape? = v.shape?
  shape_right : w.shape? ≠ none → v.elements.length = 1 → u.shape? = w.shape?
  shape_longer : v.elements.length ≠ 1 → w.elements.length ≠ 1 →
    u.shape? = if v.elements.length < w.elements.length then w.shape? else v.shape?
  fillsShape : ¬(v.shape? = none ∧ w.shape? = none) → u.FillsShape
  element : ¬(v.shape? = none ∧ w.shape? = none) → ∀ i < u.elements.length,
    u.elements[i]? = some (combineAt f v w i) ∧ ((v.at? i).isSome ∨ (w.at? i).isSome)

/-! ### Elements at positions -/

lemma at?_of_single (h : v.elements = [a]) (i : Nat) : v.at? i = some a := by
  rw [at?, h]

lemma at?_of_ne (h : v.elements.length ≠ 1) (i : Nat) : v.at? i = v.elements[i]? := by
  unfold at?
  split
  · rename_i a ha
    exact absurd (congrArg List.length ha) h
  · rfl

lemma at?_array (h : left.length ≠ 1) (i : Nat) : (array rows cols left).at? i = left[i]? :=
  at?_of_ne (v := array rows cols left) h i

lemma at?_of_lt (h : i < v.elements.length) : v.at? i = v.elements[i]? := by
  by_cases hone : v.elements.length = 1
  · obtain ⟨a, ha⟩ := List.length_eq_one_iff.mp hone
    obtain rfl : i = 0 := by omega
    rw [at?_of_single ha, ha]
    rfl
  · exact at?_of_ne hone i

lemma elements_of_shape?_eq_none (h : v.shape? = none) : v.elements = [v] := by
  cases v with
  | scalar s => rfl
  | array => cases h

/-- An array of one element has one row and one column. -/
lemma shape?_of_single (h : (array rows cols values).FillsShape) (hone : values.length = 1) :
    (rows, cols) = (1, 1) := by
  have hsize : rows * cols = 1 := h.symm.trans hone
  have hcols : cols * rows = 1 := (Nat.mul_comm cols rows).trans hsize
  rw [Nat.dvd_one.mp ⟨_, hsize.symm⟩, Nat.dvd_one.mp ⟨_, hcols.symm⟩]

/-! ### The ways to combine -/

/-- One element with every element of an array on the left. -/
lemma combines_left (hfill : (array rows cols left).FillsShape) (hw : w.elements = [b])
    (hshape : w.shape? ≠ none → left.length = 1 → w.shape? = some (rows, cols)) :
    Combines f (array rows cols left) w (array rows cols (left.map (f · b))) where
  scalars h := nomatch h
  scalar_iff _ := by simp [shape?]
  shape_left _ _ := rfl
  shape_right h hone := (hshape h hone).symm
  shape_longer _ h := absurd (congrArg List.length hw) h
  fillsShape _ := (List.length_map _).trans hfill
  element _ i hi := by
    have hleft : i < left.length := by simpa [elements] using hi
    have hat : (array rows cols left).at? i = some left[i] :=
      (at?_of_lt hleft).trans (List.getElem?_eq_getElem hleft)
    refine ⟨?_, .inl (by rw [hat]; rfl)⟩
    rw [combineAt, hat, at?_of_single hw]
    simp [elements, hleft]

/-- One element with every element of an array on the right. -/
lemma combines_right (hfill : (array rows cols right).FillsShape) (hv : v.elements = [a])
    (hshape : v.shape? ≠ none → right.length = 1 → v.shape? = some (rows, cols)) :
    Combines f v (array rows cols right) (array rows cols (right.map (f a))) where
  scalars _ h := nomatch h
  scalar_iff _ := by simp [shape?]
  shape_left h hone := (hshape h hone).symm
  shape_right _ _ := rfl
  shape_longer h := absurd (congrArg List.length hv) h
  fillsShape _ := (List.length_map _).trans hfill
  element _ i hi := by
    have hright : i < right.length := by simpa [elements] using hi
    have hat : (array rows cols right).at? i = some right[i] :=
      (at?_of_lt hright).trans (List.getElem?_eq_getElem hright)
    refine ⟨?_, .inr (by rw [hat]; rfl)⟩
    rw [combineAt, hat, at?_of_single hv]
    simp [elements, hright]

lemma getElem?_zipPositions {n : Nat} (hi : i < n) : (zipPositions f n left right)[i]? =
    some (match left[i]?, right[i]? with
      | some a, some b => f a b
      | _, _ => .error .value) := by
  rcases hleft : left[i]? with _ | a <;> rcases hright : right[i]? with _ | b <;>
    simp [zipPositions, hi, hleft, hright]

/-- Two arrays position by position, in the shape of the longer one. -/
lemma combines_zip {rows' cols' m n : Nat} (hleft : left.length ≠ 1) (hright : right.length ≠ 1)
    (hshape : some (m, n) = if left.length < right.length then some (rows', cols')
      else some (rows, cols)) (hsize : m * n = max left.length right.length) :
    Combines f (array rows cols left) (array rows' cols' right)
      (array m n (zipPositions f (m * n) left right)) where
  scalars h := nomatch h
  scalar_iff _ := by simp [shape?]
  shape_left _ h := absurd h hright
  shape_right _ h := absurd h hleft
  shape_longer _ _ := hshape
  fillsShape _ := by simp [FillsShape, zipPositions]
  element _ i hi := by
    have hlt : i < m * n := by simpa [elements, zipPositions] using hi
    rw [combineAt, at?_array hleft, at?_array hright]
    refine ⟨getElem?_zipPositions hlt, ?_⟩
    rcases Nat.lt_or_ge i left.length with h | h
    · exact .inl (by simp [h])
    · exact .inr (by simp only [List.getElem?_eq_getElem (show i < right.length by omega)]; rfl)

/-- **The ways of a broadcast** are those three, or the operator itself for two scalars. -/
lemma combines_broadcast (f : Value → Value → Value) (hv : v.FillsShape) (hw : w.FillsShape) :
    Combines f v w (broadcast f v w) := by
  rcases v with s | ⟨rows, cols, left⟩ <;> rcases w with t | ⟨rows', cols', right⟩
  · exact
      { scalars := fun _ _ => rfl
        scalar_iff := fun h => ⟨fun _ => ⟨rfl, rfl⟩, fun _ => h rfl rfl⟩
        shape_left := fun h => absurd rfl h
        shape_right := fun h => absurd rfl h
        shape_longer := fun h => absurd rfl h
        fillsShape := fun h => absurd ⟨rfl, rfl⟩ h
        element := fun h => absurd ⟨rfl, rfl⟩ h }
  · exact combines_right hw rfl fun h => absurd rfl h
  · exact combines_left hv rfl fun h => absurd rfl h
  · have hleft : left.length = rows * cols := hv
    have hright : right.length = rows' * cols' := hw
    unfold broadcast
    dsimp only
    split
    · refine combines_left hv rfl fun _ hone => congrArg some ?_
      rw [shape?_of_single hw rfl, shape?_of_single hv hone]
    · refine combines_right hw rfl fun _ hone => congrArg some ?_
      rw [shape?_of_single hw hone, shape?_of_single hv rfl]
    · rename_i hnotLeft hnotRight
      have hleft' : left.length ≠ 1 := fun h => by
        obtain ⟨a, rfl⟩ := List.length_eq_one_iff.mp h
        exact hnotLeft a rfl
      have hright' : right.length ≠ 1 := fun h => by
        obtain ⟨b, rfl⟩ := List.length_eq_one_iff.mp h
        exact hnotRight b rfl
      split_ifs with hlt
      · exact combines_zip hleft' hright' (if_pos hlt).symm (by omega)
      · exact combines_zip hleft' hright' (if_neg hlt).symm (by omega)

/-! ### Changed operands -/

lemma length_elements (h : v.FillsShape) :
    v.elements.length = v.shape?.elim 1 fun s => s.1 * s.2 := by
  cases v with
  | scalar s => rfl
  | array => exact h

section
variable {u' v' w' : Value} (h : Combines f v w u) (h' : Combines f v' w' u')
  (hv : v.FillsShape) (hw : w.FillsShape) (hv' : v'.FillsShape) (hw' : w'.FillsShape)
  (hvshape : v'.shape? = v.shape?) (hwshape : w'.shape? = w.shape?)
include h h' hv hw hv' hw' hvshape hwshape

/-- Operands of the same shapes make an array of the same shape. -/
lemma Combines.shape?_congr (hnot : ¬(v.shape? = none ∧ w.shape? = none)) :
    u'.shape? = u.shape? := by
  have hvlength : v'.elements.length = v.elements.length := by
    rw [length_elements hv, length_elements hv', hvshape]
  have hwlength : w'.elements.length = w.elements.length := by
    rw [length_elements hw, length_elements hw', hwshape]
  have hone {x : Value} (hx : x.shape? = none) : x.elements.length = 1 := by
    rw [elements_of_shape?_eq_none hx]
    rfl
  by_cases hleft : v.shape? ≠ none ∧ w.elements.length = 1
  · rw [h.shape_left hleft.1 hleft.2, h'.shape_left (hvshape ▸ hleft.1) (hwlength ▸ hleft.2), hvshape]
  by_cases hright : w.shape? ≠ none ∧ v.elements.length = 1
  · rw [h.shape_right hright.1 hright.2, h'.shape_right (hwshape ▸ hright.1) (hvlength ▸ hright.2),
      hwshape]
  have hvne : v.elements.length ≠ 1 := fun hlength => by
    by_cases hwnone : w.shape? = none
    · exact hleft ⟨fun hvnone => hnot ⟨hvnone, hwnone⟩, hone hwnone⟩
    · exact hright ⟨hwnone, hlength⟩
  have hwne : w.elements.length ≠ 1 := fun hlength => by
    by_cases hvnone : v.shape? = none
    · exact hvne (hone hvnone)
    · exact hleft ⟨hvnone, hlength⟩
  rw [h.shape_longer hvne hwne, h'.shape_longer (hvlength ▸ hvne) (hwlength ▸ hwne), hvlength,
    hwlength, hvshape, hwshape]

/-- **Locality.** The result at a position depends on the shapes of the operands and their elements
at this position. -/
lemma Combines.getElem?_congr (hvi : v'.at? i = v.at? i) (hwi : w'.at? i = w.at? i) :
    u'.elements[i]? = u.elements[i]? := by
  by_cases hnot : v.shape? = none ∧ w.shape? = none
  · have hveq : v' = v := by
      rw [at?_of_single (elements_of_shape?_eq_none hnot.1),
        at?_of_single (elements_of_shape?_eq_none (hvshape.trans hnot.1))] at hvi
      exact Option.some.inj hvi
    have hweq : w' = w := by
      rw [at?_of_single (elements_of_shape?_eq_none hnot.2),
        at?_of_single (elements_of_shape?_eq_none (hwshape.trans hnot.2))] at hwi
      exact Option.some.inj hwi
    subst hveq hweq
    rw [h.scalars hnot.1 hnot.2, h'.scalars hnot.1 hnot.2]
  · have hnot' : ¬(v'.shape? = none ∧ w'.shape? = none) := by rwa [hvshape, hwshape]
    have hlength : u'.elements.length = u.elements.length := by
      rw [length_elements (h.fillsShape hnot), length_elements (h'.fillsShape hnot'),
        h.shape?_congr h' hv hw hv' hw' hvshape hwshape hnot]
    rcases Nat.lt_or_ge i u.elements.length with hi | hi
    · rw [(h.element hnot i hi).1, (h'.element hnot' i (hlength ▸ hi)).1, combineAt, combineAt, hvi,
        hwi]
    · rw [List.getElem?_eq_none hi, List.getElem?_eq_none (hlength ▸ hi)]

end

/-- The operand with another element in one place of its list. A scalar stays as it is. -/
def setElement (v : Value) (k : Nat) (x : Value) : Value :=
  match v with
  | scalar s => scalar s
  | array rows cols values => array rows cols (values.set k x)

lemma shape?_setElement (v : Value) (k : Nat) (x : Value) : (v.setElement k x).shape? = v.shape? := by
  cases v <;> rfl

lemma FillsShape.setElement (h : v.FillsShape) (k : Nat) (x : Value) :
    (v.setElement k x).FillsShape := by
  cases v with
  | scalar s => trivial
  | array rows cols values => exact List.length_set.trans h

/-- A new element among several is seen at its own position only. -/
lemma at?_setElement {k : Nat} (h : v.elements.length ≠ 1) (hik : i ≠ k) (x : Value) :
    (v.setElement k x).at? i = v.at? i := by
  cases v with
  | scalar s => exact absurd rfl h
  | array rows cols values =>
    have hlength : values.length ≠ 1 := h
    have hset : (values.set k x).length ≠ 1 := by rwa [List.length_set]
    rw [setElement, at?_array hlength, at?_array hset, List.getElem?_set_ne hik.symm]

/-- **Broadcasting is by position.** What comes of two operands has the shape that the rules demand
and at each position what the operator makes of the two elements there. Other operands of the same
shapes with the same elements at a position come to the same at this position, whatever they have at
others. So another element among several changes the result at its own position at most. -/
theorem broadcast_by_position (f : Value → Value → Value) {v w : Value} (hv : v.FillsShape)
    (hw : w.FillsShape) : Combines f v w (broadcast f v w) ∧
      (∀ v' w', v'.FillsShape → w'.FillsShape → v'.shape? = v.shape? → w'.shape? = w.shape? →
        ∀ i, v'.at? i = v.at? i → w'.at? i = w.at? i →
          (broadcast f v' w').elements[i]? = (broadcast f v w).elements[i]?) ∧
      ∀ i k x, i ≠ k →
        (v.elements.length ≠ 1 →
          (broadcast f (v.setElement k x) w).elements[i]? = (broadcast f v w).elements[i]?) ∧
        (w.elements.length ≠ 1 →
          (broadcast f v (w.setElement k x)).elements[i]? = (broadcast f v w).elements[i]?) := by
  have hlocal : ∀ v' w', v'.FillsShape → w'.FillsShape → v'.shape? = v.shape? →
      w'.shape? = w.shape? → ∀ i, v'.at? i = v.at? i → w'.at? i = w.at? i →
        (broadcast f v' w').elements[i]? = (broadcast f v w).elements[i]? :=
    fun v' w' hv' hw' hvshape hwshape i hvi hwi =>
      (combines_broadcast f hv hw).getElem?_congr (combines_broadcast f hv' hw') hv hw hv' hw'
        hvshape hwshape hvi hwi
  refine ⟨combines_broadcast f hv hw, hlocal, fun i k x hik => ⟨fun hne => ?_, fun hne => ?_⟩⟩
  · exact hlocal _ w (hv.setElement k x) hw (shape?_setElement v k x) rfl i
      (at?_setElement hne hik x) rfl
  · exact hlocal v _ hv (hw.setElement k x) rfl (shape?_setElement w k x) i rfl
      (at?_setElement hne hik x)

/-- A row of two elements and a column of three. The result is a column, with an error at the bottom;
it does not change at the top if the second element of the row does. -/
theorem broadcast_by_position_lengths :
    let row : Value := .array 1 2 [.bool true, .bool false]
    let column : Value := .array 3 1 [.text "a", .text "b", .text "c"]
    let f : Value → Value → Value := fun v _ => v
    row.FillsShape ∧ column.FillsShape ∧ (broadcast f row column).shape? = some (3, 1) ∧
      (broadcast f row column).elements[2]? = some (.error .value) ∧ (0 : Nat) ≠ 1 ∧
      row.elements.length ≠ 1 ∧ (broadcast f (row.setElement 1 .blank) column).elements[0]? =
        (broadcast f row column).elements[0]? := by
  intro row column f
  have hrow : row.FillsShape := rfl
  have hcolumn : column.FillsShape := rfl
  have hne : row.elements.length ≠ 1 := by decide
  obtain ⟨hcombines, -, hset⟩ := broadcast_by_position f hrow hcolumn
  have hshape := hcombines.shape_longer hne (by decide)
  have helement := (hcombines.element nofun 2 (by decide)).1
  exact ⟨hrow, hcolumn, hshape, helement, by decide, hne, (hset 0 1 .blank (by decide)).1 hne⟩

end Spreadsheet.Value
