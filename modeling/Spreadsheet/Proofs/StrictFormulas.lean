import Mathlib.Data.List.Basic
import Spreadsheet.Formula.Evaluate
import Spreadsheet.Proofs.Questions

/-!
Formulas that pass errors on.

Arithmetic on an error is an error, also element by element. So if a formula of numbers, single
cells and arithmetic reads an error in one of its cells, then it comes out as an error, whatever it
does with the other cells. The exception are arrays without elements: there is no element that could
be an error, and such an array reads as blank.
-/

namespace Spreadsheet

open Query

/-! ### Values -/

namespace Value

/-- The value has a first element, and so has every array in it. -/
inductive Solid : Value → Prop
  | scalar (s : Scalar) : Solid (.scalar s)
  | array {rows cols : Nat} {values : List Value} (hne : values ≠ []) (hsize : 0 < rows * cols)
    (h : ∀ v ∈ values, Solid v) : Solid (.array rows cols values)

/-- A scalar with a property, or an array of such values that is not empty. -/
def Filled (P : Value → Prop) : Value → Prop
  | scalar s => P (scalar s)
  | array rows cols values => values ≠ [] ∧ 0 < rows * cols ∧ ∀ v ∈ values, P v

/-- An error, or nothing but errors. -/
abbrev Failed : Value → Prop := Filled fun v => v.isError

variable {P Q R : Value → Prop} {v w : Value}

lemma solid_of_exists_scalar (h : ∃ s, v = scalar s) : v.Solid := by
  obtain ⟨s, rfl⟩ := h
  exact .scalar s

lemma filled_of_exists_scalar (h : ∃ s, v = scalar s) (hv : P v) : v.Filled P := by
  obtain ⟨s, rfl⟩ := h
  exact hv

lemma Solid.filled (h : v.Solid) : v.Filled fun _ => True := by
  cases h with
  | scalar s => trivial
  | array hne hsize _ => exact ⟨hne, hsize, fun _ _ => trivial⟩

lemma Filled.solid (h : v.Filled Solid) : v.Solid := by
  cases v with
  | scalar s => exact .scalar s
  | array rows cols values => exact .array h.1 h.2.1 h.2.2

lemma Filled.first (h : v.Filled P) : P v.first := by
  cases v with
  | scalar s => exact h
  | array rows cols values =>
    cases values with
    | nil => exact absurd rfl h.1
    | cons v values => exact h.2.2 v List.mem_cons_self

lemma Solid.first (h : v.Solid) : v.first.Solid := by
  cases h with
  | scalar s => exact .scalar s
  | @array rows cols values hne _ h =>
    cases values with
    | nil => exact absurd rfl hne
    | cons v values => exact h v List.mem_cons_self

lemma Filled.mapElements {f : Value → Value} (h : v.Filled P) (hf : ∀ v, P v → R (f v))
    (hscalar : ∀ v, ∃ s, f v = scalar s) : (v.mapElements f).Filled R := by
  cases v with
  | scalar s => exact filled_of_exists_scalar (hscalar _) (hf _ h)
  | array rows cols values =>
    obtain ⟨hne, hsize, hall⟩ := h
    refine ⟨by simpa using hne, hsize, fun w hw => ?_⟩
    obtain ⟨v, hv, rfl⟩ := List.mem_map.mp hw
    exact hf v (hall v hv)

section Broadcast
variable {f : Value → Value → Value} (hf : ∀ v w, P v → Q w → R (f v w))
  (hscalar : ∀ v w, ∃ s, f v w = scalar s) (hR : R (.error .value))
include hf hR

lemma filled_zipPositions {left right : List Value} (hl : ∀ v ∈ left, P v)
    (hr : ∀ v ∈ right, Q v) {rows cols : Nat} (hsize : 0 < rows * cols) :
    (array rows cols (zipPositions f (rows * cols) left right)).Filled R := by
  refine ⟨?_, hsize, fun v hv => ?_⟩
  · simpa [zipPositions] using Nat.ne_of_gt hsize
  · obtain ⟨i, -, rfl⟩ := List.mem_map.mp hv
    split
    · rename_i a b ha hb
      exact hf a b (hl a (List.mem_of_getElem? (by simpa using ha)))
        (hr b (List.mem_of_getElem? (by simpa using hb)))
    · exact hR

include hscalar

/-- An operator on two values that are filled comes to a value that is filled. -/
lemma Filled.broadcast (hv : v.Filled P) (hw : w.Filled Q) : (broadcast f v w).Filled R := by
  have hleft : ∀ {rows cols left w}, (array rows cols left).Filled P → Q w →
      (array rows cols (left.map (f · w))).Filled R := fun h hw =>
    ⟨by simpa using h.1, h.2.1, fun u hu => by
      obtain ⟨v, hv, rfl⟩ := List.mem_map.mp hu
      exact hf v _ (h.2.2 v hv) hw⟩
  have hright : ∀ {rows cols right v}, P v → (array rows cols right).Filled Q →
      (array rows cols (right.map (f v))).Filled R := fun hv h =>
    ⟨by simpa using h.1, h.2.1, fun u hu => by
      obtain ⟨w, hw, rfl⟩ := List.mem_map.mp hu
      exact hf _ w hv (h.2.2 w hw)⟩
  cases v with
  | scalar s =>
    cases w with
    | scalar t => exact filled_of_exists_scalar (hscalar _ _) (hf _ _ hv hw)
    | array rows cols right => exact hright hv hw
  | array rows cols left =>
    cases w with
    | scalar t => exact hleft hv hw
    | array rows' cols' right =>
      unfold Value.broadcast
      dsimp only
      split
      · exact hleft hv (hw.2.2 _ List.mem_cons_self)
      · exact hright (hv.2.2 _ List.mem_cons_self) hw
      · split_ifs
        · exact filled_zipPositions hf hR hv.2.2 hw.2.2 hw.2.1
        · exact filled_zipPositions hf hR hv.2.2 hw.2.2 hv.2.1

end Broadcast

lemma exists_scalar_ofExcept {x : Except CellError Value} (h : ∀ v, x = .ok v → ∃ s, v = scalar s) :
    ∃ s, ofExcept x = scalar s := by
  cases x with
  | ok v => exact h v rfl
  | error e => exact ⟨_, rfl⟩

end Value

/-! ### Operators -/

/-- Arithmetic, of which the operators on text, order and references are no part. -/
def BinaryOp.isArithmetic : BinaryOp → Bool
  | add | sub | mul | div | power => true
  | _ => false

namespace Evaluate

variable {op : BinaryOp} {v w : Value}

lemma exists_scalar_arithmetic (op : BinaryOp) (x y : Float) :
    ∃ s, arithmetic op x y = Value.scalar s := by
  have hresult : ∀ z, ∃ s, Value.ofResult z = Value.scalar s := fun z => by
    unfold Value.ofResult
    split_ifs <;> exact ⟨_, rfl⟩
  unfold arithmetic
  split <;> first
    | exact hresult _
    | exact ⟨_, rfl⟩
    | (split_ifs <;> first | exact hresult _ | exact ⟨_, rfl⟩)

lemma binaryElement_of_isArithmetic (h : op.isArithmetic) (epsilon : Float) (v w : Value) :
    binaryElement op epsilon v w =
      Value.ofExcept do return arithmetic op (← v.toNumber) (← w.toNumber) := by
  cases op <;> first | rfl | cases h

lemma exists_scalar_binaryElement (h : op.isArithmetic) (epsilon : Float) (v w : Value) :
    ∃ s, binaryElement op epsilon v w = Value.scalar s := by
  rw [binaryElement_of_isArithmetic h]
  refine Value.exists_scalar_ofExcept fun u hu => ?_
  cases hv : v.toNumber with
  | error e => rw [hv] at hu; cases hu
  | ok x =>
    cases hw : w.toNumber with
    | error e => rw [hv, hw] at hu; cases hu
    | ok y =>
      rw [hv, hw] at hu
      cases hu
      exact exists_scalar_arithmetic op x y

lemma exists_toNumber_of_isError (h : v.isError) : ∃ e, v.toNumber = .error e := by
  cases v with
  | scalar s =>
    cases s with
    | error e => exact ⟨e, rfl⟩
    | number | text | bool | blank => cases h
  | array rows cols values => cases h

/-- Arithmetic with an error on one side. -/
lemma isError_binaryElement (h : op.isArithmetic) (epsilon : Float)
    (herror : v.isError ∨ w.isError) : (binaryElement op epsilon v w).isError := by
  rw [binaryElement_of_isArithmetic h]
  rcases herror with hv | hw
  · obtain ⟨e, he⟩ := exists_toNumber_of_isError hv
    rw [he]
    rfl
  · obtain ⟨e, he⟩ := exists_toNumber_of_isError hw
    rw [he]
    cases v.toNumber <;> rfl

lemma exists_scalar_unaryElement (op : UnaryOp) (v : Value) :
    ∃ s, unaryElement op v = Value.scalar s := by
  unfold unaryElement
  cases v.toNumber <;> exact ⟨_, rfl⟩

lemma isError_unaryElement (op : UnaryOp) (h : v.isError) : (unaryElement op v).isError := by
  obtain ⟨e, he⟩ := exists_toNumber_of_isError h
  unfold unaryElement
  rw [he]
  rfl

end Evaluate

/-! ### Operands -/

/-- The value is solid, and if something holds, then it failed. -/
def Value.FailsIf (A : Prop) (v : Value) : Prop := v.Solid ∧ (A → v.Failed)

/-- What may be read in a cell: a solid value, and if the cell is of the set, an error. -/
def FailsAt (S : Place → Prop) (p : Place) (v : Value) : Prop := v.Solid ∧ (S p → v.isError)

/-- What an operand is read as has a property, as one value and as an array. -/
def Operand.Yields (S : Place → Prop) (site : CallSite) (P : Value → Prop) (o : Operand) : Prop :=
  (site.scalar o).EnsuresAt (FailsAt S) P ∧ (site.array o).EnsuresAt (FailsAt S) P

/-- The reference to a single cell. -/
def Operand.ofCell (p : Place) : Operand := .reference (.ofArea (.single p))

section
variable {S : Place → Prop} {site : CallSite} {P Q : Value → Prop} {A B : Prop} {o o' : Operand}
  {v w : Value} {p : Place} {op : BinaryOp}

lemma FailsAt.failsIf (h : FailsAt S p v) : v.FailsIf (S p) := by
  refine ⟨h.1, fun hp => ?_⟩
  have herror := h.2 hp
  cases v with
  | scalar s => exact herror
  | array rows cols values => cases herror

lemma Value.FailsIf.broadcast (hop : op.isArithmetic) (epsilon : Float) (hv : v.FailsIf A)
    (hw : w.FailsIf B) :
    (Value.broadcast (Evaluate.binaryElement op epsilon) v w).FailsIf (A ∨ B) := by
  have hscalar := Evaluate.exists_scalar_binaryElement hop epsilon
  refine ⟨(hv.1.filled.broadcast (fun v w _ _ => solid_of_exists_scalar (hscalar v w)) hscalar
    (.scalar _) hw.1.filled).solid, ?_⟩
  rintro (hA | hB)
  · exact (hv.2 hA).broadcast (fun v w hv _ => Evaluate.isError_binaryElement hop _ (Or.inl hv))
      hscalar rfl hw.1.filled
  · exact hv.1.filled.broadcast (fun v w _ hw => Evaluate.isError_binaryElement hop _ (Or.inr hw))
      hscalar rfl (hw.2 hB)

lemma Value.FailsIf.mapElements (op : UnaryOp) (h : v.FailsIf A) :
    (v.mapElements (Evaluate.unaryElement op)).FailsIf A := by
  have hscalar := Evaluate.exists_scalar_unaryElement op
  refine ⟨(h.1.filled.mapElements (fun v _ => solid_of_exists_scalar (hscalar v)) hscalar).solid,
    fun hA => ?_⟩
  exact (h.2 hA).mapElements (fun v hv => Evaluate.isError_unaryElement op hv) hscalar

lemma Operand.yields_value : (Operand.value v).Yields S site P ↔ P v := and_self_iff

lemma Operand.Yields.mono (h : o.Yields S site P) (hP : ∀ v, P v → Q v) : o.Yields S site Q :=
  ⟨EnsuresAt.mono h.1 hP, EnsuresAt.mono h.2 hP⟩

/-- An operand that is solid fails if it fails. -/
lemma Operand.Yields.failsIf (h : o.Yields S site Value.Solid) :
    o.Yields S site (Value.FailsIf (o.Yields S site Value.Failed)) :=
  ⟨h.1.and (ensuresAt_imp And.left), h.2.and (ensuresAt_imp And.right)⟩

lemma Operand.yields_ofCell (h : ∀ v, FailsAt S p v → P v) : (ofCell p).Yields S site P := by
  have hscalar : site.scalar (ofCell p) = Query.cell p := by
    simp [CallSite.scalar, scalarValue, ofCell, Reference.implicitIntersection,
      Reference.intersectionCell?_single]
  have harray : site.array (ofCell p) = Query.cell p := by
    simp [CallSite.array, arrayValue, ofCell, Reference.toArray_single]
  rw [Yields, hscalar, harray, and_self_iff]
  exact h

namespace Evaluate

lemma ensuresAt_applyClass (cls : TokenClass) (p : Place) :
    (applyClass site cls (.ofCell p)).EnsuresAt (FailsAt S)
      fun o => o.Yields S site (Value.FailsIf (S p)) := by
  have hcell : (Operand.ofCell p).Yields S site (Value.FailsIf (S p)) :=
    Operand.yields_ofCell fun v => FailsAt.failsIf
  cases cls with
  | reference => exact hcell
  | value =>
    unfold applyClass Operand.ofCell
    dsimp only
    rw [Reference.intersectionCell?_single]
    exact hcell
  | array => exact ensuresAt_bind.mpr (hcell.2.mono fun v hv => Operand.yields_value.mpr hv)

lemma ensuresAt_binary (hop : op.isArithmetic) (h : o.Yields S site (Value.FailsIf A))
    (h' : o'.Yields S site (Value.FailsIf B)) :
    (binary site op o o').EnsuresAt (FailsAt S)
      fun r => r.Yields S site (Value.FailsIf (A ∨ B)) := by
  have hno : op.isReferenceOperator = false := by cases op <;> first | rfl | cases hop
  unfold binary
  rw [if_neg (by simp [hno])]
  refine ensuresAt_bind.mpr (h.2.mono fun v hv => ensuresAt_bind.mpr (h'.2.mono fun w hw => ?_))
  exact Operand.yields_value.mpr (hv.broadcast hop _ hw)

lemma ensuresAt_unary (op : UnaryOp) (h : o.Yields S site (Value.FailsIf A)) :
    (unary site op o).EnsuresAt (FailsAt S) fun r => r.Yields S site (Value.FailsIf A) := by
  unfold unary
  split_ifs
  · exact h
  · exact ensuresAt_bind.mpr (h.2.mono fun v hv => Operand.yields_value.mpr (hv.mapElements op))

end Evaluate

end

/-! ### Runs -/

/-- A token of a formula of numbers, single cells, arithmetic and signs. -/
def Token.Strict : Token → Prop
  | .int _ | .num _ | .ref .. | .unary _ => True
  | .binary op => op.isArithmetic
  | _ => False

/-- A reference to a cell of a set, from a formula at a place. -/
def Token.RefersInto (S : Place → Prop) (here : Place) (t : Token) : Prop :=
  ∃ cls a, t = .ref cls a ∧ S ⟨here.sheet, a.cell⟩

namespace Evaluate

variable (S : Place → Prop) (site : CallSite)

/-- An entry of the stack that is read as an error. -/
def Item.Fails (i : Item) : Prop := i.toOperand.Yields S site Value.Failed

/-- The entries of the stack are solid, and if something holds, then one of them is read as an
error. -/
structure StackFailsIf (A : Prop) (stack : List Item) : Prop where
  solid : ∀ i ∈ stack, i.toOperand.Yields S site Value.Solid
  fails : A → ∃ i ∈ stack, i.Fails S site

/-- An outcome without conditions on errors. -/
abbrev ComesToAt {α : Type} (P : α → Prop) (x : ExceptT EvalError Query α) : Prop :=
  ReachesAt (FailsAt S) (fun _ => True) P x

variable {S site} {functions : Dispatcher} {body : BodyEvaluator} {args stack : List Item}
  {t : Token} {A : Prop}

/-- Something is to fail: an operand does, or the token refers into the set. -/
def Due (S : Place → Prop) (site : CallSite) (args : List Item) (t : Token) : Prop :=
  (∃ i ∈ args, i.Fails S site) ∨ t.RefersInto S site.here

/-- The result of a token fails if something is to fail. -/
lemma reachesAt_tokenResult (ht : t.Strict) (hcount : t.operandCount? = some args.length)
    (hargs : ∀ i ∈ args, i.toOperand.Yields S site Value.Solid) (index : Nat) :
    ComesToAt S (fun r => ∃ i : Item, r = some i ∧
      i.toOperand.Yields S site (Value.FailsIf (Due S site args t)))
      (tokenResult functions body site index args t) := by
  have hoperand : ∀ {B : Prop} {x : Query Operand},
      x.EnsuresAt (FailsAt S) (fun o => o.Yields S site (Value.FailsIf B)) →
      (Due S site args t → B) → ComesToAt S (fun r => ∃ i : Item, r = some i ∧
        i.toOperand.Yields S site (Value.FailsIf (Due S site args t)))
        (ExceptT.lift (some <$> (Item.operand <$> x))) := fun hx hB =>
    reachesAt_lift (ensuresAt_map.mpr (ensuresAt_map.mpr (hx.mono fun o ho =>
      ⟨_, rfl, ho.mono fun v hv => ⟨hv.1, fun h => hv.2 (hB h)⟩⟩)))
  have hnumber : ∀ x, args.length = 0 → ¬t.RefersInto S site.here →
      ComesToAt S (fun r => ∃ i : Item, r = some i ∧
        i.toOperand.Yields S site (Value.FailsIf (Due S site args t)))
        (pure (some (Item.ofValue (.number x)))) := fun x hlen ht =>
    reachesAt_pure ⟨_, rfl, Operand.yields_value.mpr ⟨.scalar _, fun hdue => by
      rw [List.length_eq_zero_iff] at hlen
      obtain ⟨i, hi, -⟩ := hdue.resolve_right ht
      rw [hlen] at hi
      cases hi⟩⟩
  cases t with
  | int n => exact hnumber _ (Option.some.inj hcount).symm fun ⟨_, _, h, _⟩ => nomatch h
  | num bits => exact hnumber _ (Option.some.inj hcount).symm fun ⟨_, _, h, _⟩ => nomatch h
  | ref cls a =>
    refine hoperand (ensuresAt_applyClass cls ⟨site.here.sheet, a.cell⟩) ?_
    rintro (⟨i, hi, -⟩ | ⟨cls', a', h, hS⟩)
    · rw [List.length_eq_zero_iff.mp (Option.some.inj hcount).symm] at hi
      cases hi
    · cases h
      exact hS
  | unary op =>
    obtain ⟨x, rfl⟩ := List.length_eq_one_iff.mp (Option.some.inj hcount).symm
    refine hoperand (ensuresAt_unary op (hargs x List.mem_cons_self).failsIf) ?_
    rintro (⟨i, hi, hfails⟩ | ⟨_, _, h, -⟩)
    · obtain rfl := List.mem_singleton.mp hi
      exact hfails
    · cases h
  | binary op =>
    obtain ⟨x, y, rfl⟩ := List.length_eq_two.mp (Option.some.inj hcount).symm
    have hx := hargs x List.mem_cons_self
    have hy := hargs y (List.mem_cons_of_mem _ List.mem_cons_self)
    refine hoperand (ensuresAt_binary ht hx.failsIf hy.failsIf) ?_
    rintro (⟨i, hi, hfails⟩ | ⟨_, _, h, -⟩)
    · rw [List.mem_pair] at hi
      rcases hi with rfl | rfl
      · exact Or.inl hfails
      · exact Or.inr hfails
    · cases h
  | _ => cases ht

/-- One token leaves something on the stack that fails if there was something, or if it refers into
the set. -/
lemma reachesAt_step (ht : t.Strict) (hstack : StackFailsIf S site A stack) (index : Nat) :
    ComesToAt S (StackFailsIf S site (A ∨ t.RefersInto S site.here))
      (step functions body site stack index t) := by
  unfold step
  split
  · split <;> exact reachesAt_throw trivial
  rename_i n hn
  split_ifs with hlt
  · exact reachesAt_throw trivial
  have hlength : t.operandCount? = some (stack.take n).reverse.length := by
    rw [hn, List.length_reverse, List.length_take, Nat.min_eq_left (Nat.le_of_not_lt hlt)]
  have hargs : ∀ i ∈ (stack.take n).reverse, i ∈ stack := fun i hi =>
    List.mem_of_mem_take (List.mem_reverse.mp hi)
  refine (reachesAt_tokenResult ht hlength (fun i hi => hstack.solid i (hargs i hi)) index).bind ?_
  rintro _ ⟨i, rfl, hi⟩
  refine reachesAt_pure ⟨?_, ?_⟩
  · intro j hj
    rcases List.mem_cons.mp hj with rfl | hj
    · exact hi.mono fun v hv => hv.1
    · exact hstack.solid j (List.mem_of_mem_drop hj)
  · have hfails : Due S site (stack.take n).reverse t → i.Fails S site := fun hdue =>
      hi.mono fun v hv => hv.2 hdue
    rintro (hA | hrefers)
    · obtain ⟨j, hj, hjfails⟩ := hstack.fails hA
      rw [← List.take_append_drop n stack, List.mem_append] at hj
      rcases hj with hj | hj
      · exact ⟨i, List.mem_cons_self, hfails (Or.inl ⟨j, List.mem_reverse.mpr hj, hjfails⟩)⟩
      · exact ⟨j, List.mem_cons_of_mem _ hj, hjfails⟩
    · exact ⟨i, List.mem_cons_self, hfails (Or.inr hrefers)⟩

lemma reachesAt_steps {tokens : List (Token × Nat)} (ht : ∀ t ∈ tokens, t.1.Strict)
    (hstack : StackFailsIf S site A stack) :
    ComesToAt S (StackFailsIf S site (A ∨ ∃ t ∈ tokens, t.1.RefersInto S site.here))
      (tokens.foldlM (fun stack (t, i) => step functions body site stack i t) stack) := by
  induction tokens generalizing A stack with
  | nil => exact reachesAt_pure ⟨hstack.solid, fun h => hstack.fails (by simpa using h)⟩
  | cons t tokens ih =>
    rw [List.forall_mem_cons] at ht
    rw [List.foldlM_cons]
    refine (reachesAt_step ht.1 hstack t.2).bind fun stack hstack => (ih ht.2 hstack).mono ?_
    exact fun stack h => ⟨h.solid, fun hA => h.fails (by simpa [or_assoc] using hA)⟩

/-- **A run over strict tokens fails if one of them refers into the set.** -/
theorem reachesAt_run {tokens : List Token} (ht : ∀ t ∈ tokens, t.Strict) :
    ComesToAt S (fun o => o.Yields S site
        (Value.FailsIf (∃ t ∈ tokens, t.RefersInto S site.here)))
      (run functions body site tokens) := by
  have hmem : ∀ t ∈ tokens.zipIdx, t.1 ∈ tokens := fun t h => List.fst_mem_of_mem_zipIdx h
  have hempty : StackFailsIf S site False [] := ⟨nofun, nofun⟩
  refine (reachesAt_steps (fun t h => ht t.1 (hmem t h)) hempty).bind fun stack hstack => ?_
  split
  · rename_i i
    have hi := (hstack.solid i List.mem_cons_self).failsIf
    refine reachesAt_pure (hi.mono fun v hv => ⟨hv.1, fun ⟨t, htmem, hrefers⟩ => hv.2 ?_⟩)
    obtain ⟨k, hk⟩ := List.mem_iff_getElem?.mp htmem
    obtain ⟨j, hj, hfails⟩ := hstack.fails
      (Or.inr ⟨(t, k), List.mem_zipIdx_iff_getElem?.mpr hk, hrefers⟩)
    obtain rfl := List.mem_singleton.mp hj
    exact hfails
  · exact reachesAt_throw trivial

end Evaluate

/-- The value of a strict formula is an error if the formula refers into the set. -/
theorem reachesAt_evaluate {S : Place → Prop} {functions : Dispatcher} {site : CallSite}
    {tokens : List Token} (ht : ∀ t ∈ tokens, t.Strict) :
    Evaluate.ComesToAt S (fun v => v.Solid ∧ ((∃ t ∈ tokens, t.RefersInto S site.here) → v.isError))
      (evaluate functions site tokens) := by
  have hrun : ∃ body, evaluateOperand functions site tokens =
      Evaluate.run functions body site tokens := by
    unfold evaluateOperand
    cases site.settings.maxNameDepth <;> exact ⟨_, rfl⟩
  obtain ⟨body, hrun⟩ := hrun
  unfold evaluate
  rw [hrun]
  refine (Evaluate.reachesAt_run ht).bind fun o ho => reachesAt_lift (ensuresAt_map.mpr ?_)
  exact ho.1.mono fun v hv => ⟨hv.1.first, fun h => (hv.2 h).first⟩

end Spreadsheet
