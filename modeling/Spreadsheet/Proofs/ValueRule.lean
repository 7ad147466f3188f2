import Spreadsheet.Formula.Evaluate
import Spreadsheet.Proofs.ArrayLayout
import Spreadsheet.Proofs.FiniteFloats
import Spreadsheet.Proofs.Questions

/-!
Rules for values.

A rule says which scalars may occur, which values may stand in cells and in arrays, and which
shapes arrays may have. Operators make scalars of their own: finite numbers, texts, truth values
and errors other than that of a circle. A rule that allows these, and arrays of as many elements as
the settings permit, is kept by every operator: operands that the rule allows come to results that
it allows. This is shown from the scalars up.
-/

namespace Spreadsheet

open Query

/-- Which values may occur. -/
structure ValueRule where
  scalar : Scalar → Prop
  /-- The values that may stand in a cell, and in an array. -/
  element : Value → Prop
  /-- The shapes of arrays: their rows, their columns, and how many elements there are. -/
  shape : (rows cols count : Nat) → Prop

/-- The value of the operand has `P`. A reference has none before it is read. -/
def Operand.Holds (P : Value → Prop) : Operand → Prop
  | .value v => P v
  | .reference _ | .missing => True

namespace ValueRule

def Allows (R : ValueRule) : Value → Prop
  | .scalar s => R.scalar s
  | .array rows cols values => R.shape rows cols values.length ∧ ∀ v ∈ values, R.element v

/-- The rule allows what operators make of values that it allows, if arrays may have `maxCells`
elements. -/
structure Closed (R : ValueRule) (maxCells : Nat) : Prop where
  blank : R.scalar .blank
  bool : ∀ b, R.scalar (.bool b)
  text : ∀ s, R.scalar (.text s)
  error : ∀ {e}, e ≠ .circular → R.scalar (.error e)
  finite : ∀ {x : Float}, x.isFinite → R.scalar (.number x)
  negative : ∀ {x}, R.scalar (.number x) → R.scalar (.number (-x))
  percent : ∀ {x}, R.scalar (.number x) → R.scalar (.number (x / 100))
  single : ∀ {s}, R.scalar s → R.element (.scalar s)
  allows : ∀ {v}, R.element v → R.Allows v
  area : ∀ {rows cols}, rows * cols ≤ maxCells → R.shape rows cols (rows * cols)
  filled : ∀ {rows cols count}, R.shape rows cols count → R.shape rows cols (rows * cols)

/-- A result with a property, or an error that the rule allows. -/
abbrev Yields {α : Type} (R : ValueRule) (P : α → Prop) : Except CellError α → Prop :=
  Outcome (fun e => R.scalar (.error e)) P

/-- The value is a scalar that the rule allows. -/
def Single (R : ValueRule) (v : Value) : Prop := ∃ s, v = .scalar s ∧ R.scalar s

variable {R : ValueRule} {maxCells : Nat} {s t : Scalar} {v w : Value} {op : BinaryOp}

/-- Elements that are missing and cells that fail read as `#VALUE!`. -/
lemma Closed.element_failure (hR : R.Closed maxCells) : R.element (.error .value) :=
  hR.single (hR.error nofun)

/-! ### Scalars -/

section Scalars
variable (hR : R.Closed maxCells)
include hR

lemma yields_toNumber (h : R.scalar s) : R.Yields (fun x => R.scalar (.number x)) s.toNumber := by
  cases s with
  | number x => exact h
  | bool b => cases b <;> exact hR.finite rfl
  | blank => exact hR.finite rfl
  | error e => exact h
  | text s =>
    rw [Scalar.toNumber]
    split
    · exact hR.finite (Number.isFinite_of_ofText? ‹_›)
    · exact hR.error nofun

omit hR in
lemma yields_toText (h : R.scalar s) : R.Yields (fun _ => True) s.toText := by
  cases s with
  | error e => exact h
  | text | number | bool | blank => trivial

lemma yields_toBool (h : R.scalar s) : R.Yields (fun _ => True) s.toBool := by
  cases s with
  | error e => exact h
  | text s =>
    rw [Scalar.toBool]
    split_ifs
    · trivial
    · trivial
    · exact hR.error nofun
  | number | bool | blank => trivial

lemma emptyAsBlank (h : R.scalar s) : R.scalar s.emptyAsBlank := by
  unfold Scalar.emptyAsBlank
  split
  · exact hR.blank
  · exact h

lemma yields_compare (epsilon : Float) (hs : R.scalar s) (ht : R.scalar t) :
    R.Yields (fun _ => True) (Scalar.compare epsilon s t) := by
  have hs := emptyAsBlank hR hs
  have ht := emptyAsBlank hR ht
  unfold Scalar.compare
  split
  · rename_i e he
    rwa [he] at hs
  · rename_i e he _
    rwa [he] at ht
  · trivial

end Scalars

/-! ### Values -/

section Values
variable (hR : R.Closed maxCells)
include hR

omit hR in
lemma Single.allows (h : R.Single v) : R.Allows v := by
  obtain ⟨s, rfl, hs⟩ := h
  exact hs

lemma element_of_single (h : R.Single v) : R.element v := by
  obtain ⟨s, rfl, hs⟩ := h
  exact hR.single hs

lemma single_error {e : CellError} (h : e ≠ .circular) : R.Single (.error e) :=
  ⟨_, rfl, hR.error h⟩

lemma leaf (h : R.Allows v) : R.scalar v.leaf := by
  induction v using Value.leaf.induct with
  | case1 s => exact h
  | case2 => exact hR.blank
  | case3 rows cols v values ih => exact ih (hR.allows (h.2 v List.mem_cons_self))

/-- What a cell shows of a value may stand in the cell. -/
lemma first (h : R.Allows v) : R.element v.first := by
  cases v with
  | scalar s => exact hR.single h
  | array rows cols values =>
    cases values with
    | nil => exact hR.single hR.blank
    | cons v values => exact h.2 v List.mem_cons_self

lemma toNumber (h : R.Allows v) : R.Yields (fun x => R.scalar (.number x)) v.toNumber :=
  yields_toNumber hR (leaf hR h)

lemma toText (h : R.Allows v) : R.Yields (fun _ => True) v.toText := yields_toText (leaf hR h)

lemma toBool (h : R.Allows v) : R.Yields (fun _ => True) v.toBool := yields_toBool hR (leaf hR h)

omit hR in
lemma single_ofExcept {x : Except CellError Value} (h : R.Yields R.Single x) :
    R.Single (Value.ofExcept x) := by
  cases x with
  | ok v => exact h
  | error e => exact ⟨_, rfl, h⟩

/-- Only finite numbers are results. -/
lemma single_ofResult (x : Float) : R.Single (Value.ofResult x) := by
  unfold Value.ofResult
  split_ifs with hx
  · exact ⟨_, rfl, hR.finite hx⟩
  · exact single_error hR nofun

lemma allows_mapElements {f : Value → Value} (h : R.Allows v)
    (hf : ∀ v, R.Allows v → R.Single (f v)) : R.Allows (v.mapElements f) := by
  cases v with
  | scalar s => exact (hf _ h).allows
  | array rows cols values =>
    refine ⟨(List.length_map f).symm ▸ h.1, fun w hw => ?_⟩
    obtain ⟨v, hv, rfl⟩ := List.mem_map.mp hw
    exact element_of_single hR (hf v (hR.allows (h.2 v hv)))

omit hR in
lemma element_getD {o : Option Value} (h : ∀ v ∈ o, R.element v) (hw : R.element w) :
    R.element (o.getD w) := by
  cases o with
  | none => exact hw
  | some v => exact h v rfl

omit hR in
lemma element_get? (h : R.Allows v) (row col : Nat) : ∀ w ∈ v.get? row col, R.element w := by
  cases v with
  | scalar s => exact nofun
  | array rows cols values =>
    intro w hw
    unfold Value.get? at hw
    dsimp only at hw
    split_ifs at hw
    · exact h.2 w (List.mem_of_getElem? hw)
    · cases hw

section Broadcast
variable {f : Value → Value → Value} (hf : ∀ v w, R.Allows v → R.Allows w → R.Single (f v w))
include hf

lemma element_zipPositions {left right : List Value} (hl : ∀ v ∈ left, R.element v)
    (hr : ∀ v ∈ right, R.element v) (n : Nat) :
    ∀ v ∈ Value.zipPositions f n left right, R.element v := by
  intro v hv
  obtain ⟨i, -, rfl⟩ := List.mem_map.mp hv
  split
  · rename_i a b ha hb
    exact element_of_single hR (hf a b
      (hR.allows (hl a (List.mem_of_getElem? (by simpa using ha))))
      (hR.allows (hr b (List.mem_of_getElem? (by simpa using hb)))))
  · exact hR.element_failure

/-- Positions combined in the shape of one of the arrays fill this shape. -/
lemma allows_zipPositions {rows cols count : Nat} {left right : List Value}
    (hshape : R.shape rows cols count) (hl : ∀ v ∈ left, R.element v)
    (hr : ∀ v ∈ right, R.element v) :
    R.Allows (.array rows cols (Value.zipPositions f (rows * cols) left right)) := by
  refine ⟨?_, element_zipPositions hR hf hl hr _⟩
  have hlength : (Value.zipPositions f (rows * cols) left right).length = rows * cols := by
    simp [Value.zipPositions]
  rw [hlength]
  exact hR.filled hshape

lemma allows_broadcast (hv : R.Allows v) (hw : R.Allows w) : R.Allows (Value.broadcast f v w) := by
  have hleft : ∀ {rows cols : Nat} {left : List Value} {w : Value},
      R.Allows (.array rows cols left) → R.Allows w →
      R.Allows (.array rows cols (left.map (f · w))) :=
    fun hl hw => allows_mapElements hR hl fun v hv => hf v _ hv hw
  have hright : ∀ {rows cols : Nat} {right : List Value} {v : Value}, R.Allows v →
      R.Allows (.array rows cols right) → R.Allows (.array rows cols (right.map (f v))) :=
    fun hv hr => allows_mapElements hR hr fun w hw => hf _ w hv hw
  cases v with
  | scalar s =>
    cases w with
    | scalar t => exact (hf _ _ hv hw).allows
    | array rows cols right => exact hright hv hw
  | array rows cols left =>
    cases w with
    | scalar t => exact hleft hv hw
    | array rows' cols' right =>
      unfold Value.broadcast
      dsimp only
      split
      · exact hleft hv (hR.allows (hw.2 _ List.mem_cons_self))
      · exact hright (hR.allows (hv.2 _ List.mem_cons_self)) hw
      · split_ifs
        · exact allows_zipPositions hR hf hw.1 hv.2 hw.2
        · exact allows_zipPositions hR hf hv.1 hv.2 hw.2

end Broadcast

lemma single_compareOp (op : BinaryOp) (epsilon : Float) (hv : R.Allows v) (hw : R.Allows w) :
    R.Single (Value.compareOp op epsilon v w) := by
  have h := yields_compare hR epsilon (leaf hR hv) (leaf hR hw)
  unfold Value.compareOp Value.compare
  split
  · rename_i e he
    rw [he] at h
    exact ⟨_, rfl, h⟩
  · split
    · exact ⟨_, rfl, hR.bool _⟩
    · exact single_error hR nofun

lemma allows_layOut {r : CellRange} (hr : r.cellCount ≤ maxCells) {values : List Value}
    (h : ∀ v ∈ values, R.element v) : R.Allows (r.layOut values) := by
  obtain ⟨elements, hlayOut, hlength, hall⟩ := r.exists_layOut_eq values
  have harea : R.shape r.height r.width (r.height * r.width) :=
    hR.area (Nat.mul_comm r.width r.height ▸ hr)
  rw [hlayOut]
  refine ⟨hlength.symm ▸ harea, fun v hv => ?_⟩
  rcases hall v hv with rfl | hmem
  · exact hR.single hR.blank
  · exact h v hmem

end Values

/-! ### Operands -/

/-- The rule allows the value of the operand. -/
abbrev AllowsOperand (R : ValueRule) : Operand → Prop := Operand.Holds R.Allows

variable {site : CallSite} {o o' : Operand}

section Operands
variable (hR : R.Closed maxCells)
include hR

lemma ensures_scalarValue (h : R.AllowsOperand o) (here : Place) :
    (o.scalarValue here).Ensures R.element R.Allows := by
  cases o with
  | value v => exact h
  | missing => exact hR.blank
  | reference r =>
    unfold Operand.scalarValue Reference.implicitIntersection
    dsimp only
    split
    · exact fun v hv => hR.allows hv
    · exact hR.error nofun

omit hR in
lemma ensures_cells (cells : List Place) :
    (cells.mapM Query.cell).Ensures R.element fun values => ∀ v ∈ values, R.element v :=
  ensures_mapM fun _ _ => ensures_cell.mpr fun _ hv => hv

lemma ensures_arrayValue (h : R.AllowsOperand o) :
    (o.arrayValue maxCells).Ensures R.element R.Allows := by
  cases o with
  | value v => exact h
  | missing => exact hR.blank
  | reference r =>
    unfold Operand.arrayValue Reference.toArray
    dsimp only
    split
    · exact hR.error nofun
    · split_ifs with hsingle hcount
      · exact fun v hv => hR.allows hv
      · exact hR.error nofun
      · exact ensures_bind.mpr ((ensures_cells _).mono fun values hvalues =>
          allows_layOut hR (Nat.le_of_not_lt hcount) hvalues)

end Operands

/-! ### Operators -/

section Operators
variable (hR : R.Closed site.settings.maxArrayCells)
include hR

lemma single_arithmetic (op : BinaryOp) (x y : Float) :
    R.Single (Evaluate.arithmetic op x y) := by
  unfold Evaluate.arithmetic
  split <;> first
    | exact single_ofResult hR _
    | exact single_error hR nofun
    | (split_ifs <;> first | exact single_ofResult hR _ | exact single_error hR nofun)

lemma single_binaryElement (op : BinaryOp) (epsilon : Float) (hv : R.Allows v)
    (hw : R.Allows w) : R.Single (Evaluate.binaryElement op epsilon v w) := by
  unfold Evaluate.binaryElement
  split_ifs
  · exact single_ofExcept ((toText hR hv).bind fun _ _ => (toText hR hw).bind fun _ _ =>
      ⟨_, rfl, hR.text _⟩)
  · exact single_compareOp hR op epsilon hv hw
  · exact single_ofExcept ((toNumber hR hv).bind fun x _ => (toNumber hR hw).bind fun y _ =>
      single_arithmetic hR op x y)

/-- The results of unary operators are not checked, so the rule must allow them. -/
lemma single_unaryElement (op : UnaryOp) (hv : R.Allows v) :
    R.Single (Evaluate.unaryElement op v) := by
  refine single_ofExcept ((toNumber hR hv).bind fun x hx => ⟨_, rfl, ?_⟩)
  split_ifs
  · exact hR.negative hx
  · exact hR.percent hx

lemma yields_referenceOperator (op : BinaryOp) (r s : Reference) :
    R.Yields (fun _ => True) (Evaluate.referenceOperator op r s) := by
  unfold Evaluate.referenceOperator Reference.span Reference.intersect
  split
  · split
    · exact hR.error nofun
    · split_ifs
      · trivial
      · exact hR.error nofun
  · dsimp only
    split
    · trivial
    · exact hR.error nofun
  · trivial

lemma allows_referenceOperands (op : BinaryOp) (h : R.AllowsOperand o)
    (h' : R.AllowsOperand o') : R.AllowsOperand (Evaluate.referenceOperands op o o') := by
  unfold Evaluate.referenceOperands
  split
  · rename_i r s
    have hop := yields_referenceOperator hR op r s
    split
    · trivial
    · rename_i he
      rwa [he] at hop
  · exact h
  · exact h'
  · exact hR.error nofun

lemma ensures_operator (op : BinaryOp) (h : R.AllowsOperand o) (h' : R.AllowsOperand o') :
    (Evaluate.binary site op o o').Ensures R.element R.AllowsOperand := by
  unfold Evaluate.binary
  split_ifs
  · exact allows_referenceOperands hR op h h'
  · exact ensures_bind.mpr ((ensures_arrayValue hR h).mono fun v hv => ensures_bind.mpr
      ((ensures_arrayValue hR h').mono fun w hw =>
        allows_broadcast hR (fun _ _ => single_binaryElement hR op _) hv hw))

lemma ensures_sign (op : UnaryOp) (h : R.AllowsOperand o) :
    (Evaluate.unary site op o).Ensures R.element R.AllowsOperand := by
  unfold Evaluate.unary
  split_ifs
  · exact h
  · exact ensures_bind.mpr ((ensures_arrayValue hR h).mono fun v hv =>
      allows_mapElements hR hv fun _ => single_unaryElement hR op)

lemma ensures_applyClass (cls : TokenClass) (h : R.AllowsOperand o) :
    (Evaluate.applyClass site cls o).Ensures R.element R.AllowsOperand := by
  unfold Evaluate.applyClass
  split
  · rename_i r
    cases cls with
    | reference => trivial
    | array => exact ensures_bind.mpr ((ensures_arrayValue hR h).mono fun v hv => hv)
    | value =>
      dsimp only
      split
      · trivial
      · exact hR.error nofun
  · exact h

end Operators

end ValueRule

end Spreadsheet
