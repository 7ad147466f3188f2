import Spreadsheet.Proofs.StrictFormulas
import Spreadsheet.Workbook.Basic

/-!
Which error an operator passes on.

Of two operands that are errors the left one wins, and a single error wins over any other operand.
Arithmetic falls short of this in one place. It reads its left operand as a number before it looks
at the right one, so a text on the left that is no number answers `#VALUE!` in place of the error
on the right. Comparisons look at both sides first, and joining texts cannot fail on the left.
-/

namespace Spreadsheet

/-- The scalar that an operand is. A left-out argument is blank; references and arrays are none. -/
def Operand.scalar? : Operand → Option Scalar
  | .value (.scalar s) => some s
  | .missing => some .blank
  | _ => none

namespace Scalar

variable {s t : Scalar} {e : CellError}

def error? : Scalar → Option CellError
  | error e => some e
  | _ => none

/-- The error that two operands ask for: that on the left, or else that on the right. -/
def errorOf (s t : Scalar) : Option CellError := s.error? <|> t.error?

/-- The text does not read as a number. -/
def Unreadable (s : Scalar) : Prop := ∃ x, s = text x ∧ Number.ofText? x = none

lemma errorOf_eq_some :
    errorOf s t = some e ↔ s = error e ∨ s.error? = none ∧ t = error e := by
  unfold errorOf error?
  cases s <;> cases t <;> simp

/-- What is neither an error nor an unreadable text has a number. -/
lemma exists_toNumber (h : s.error? = none) (hread : ¬ s.Unreadable) : ∃ x, s.toNumber = .ok x := by
  cases s with
  | number x => exact ⟨x, rfl⟩
  | bool b => exact ⟨_, rfl⟩
  | blank => exact ⟨0, rfl⟩
  | error e => cases h
  | text x =>
    rcases hx : Number.ofText? x with _ | y
    · exact absurd ⟨x, rfl, hx⟩ hread
    · exact ⟨y, by rw [toNumber, hx]⟩

lemma Unreadable.toNumber (h : s.Unreadable) : s.toNumber = .error .value := by
  obtain ⟨x, rfl, hx⟩ := h
  rw [Scalar.toNumber, hx]

lemma Unreadable.error? (h : s.Unreadable) : s.error? = none := by
  obtain ⟨x, rfl, -⟩ := h
  rfl

lemma exists_toText (h : s.error? = none) : ∃ x, s.toText = .ok x := by
  cases s with
  | error e => cases h
  | _ => exact ⟨_, rfl⟩

lemma error?_emptyAsBlank (h : s.error? = none) : s.emptyAsBlank.error? = none := by
  unfold emptyAsBlank
  split
  · rfl
  · exact h

/-- A comparison looks for errors on both sides before it compares. -/
lemma compare_of_errorOf (epsilon : Float) (h : errorOf s t = some e) :
    compare epsilon s t = .error e := by
  rcases errorOf_eq_some.mp h with rfl | ⟨hs, rfl⟩
  · rfl
  · have hs' := error?_emptyAsBlank hs
    unfold compare
    generalize s.emptyAsBlank = s' at hs' ⊢
    cases s' with
    | error e' => cases hs'
    | _ => rfl

end Scalar

namespace Evaluate

variable {functions : Dispatcher} {body : BodyEvaluator} {site : CallSite} {op : BinaryOp}
  {left right : Item} {s t : Scalar} {e : CellError}

lemma array_of_scalar? {o : Operand} (h : o.scalar? = some s) :
    site.array o = .answer (.scalar s) := by
  cases o with
  | value v =>
    cases v with
    | scalar s' => cases h; rfl
    | array => cases h
  | reference r => cases h
  | missing => cases h; rfl

/-- An operator takes the two latest scalars from the stack and puts its result there. -/
lemma step_binary (hop : op.isReferenceOperator = false) (hs : left.toOperand.scalar? = some s)
    (ht : right.toOperand.scalar? = some t) (stack : List Item) (index : Nat) :
    step functions body site (right :: left :: stack) index (.binary op) =
      pure (.ofValue (binaryElement op site.settings.epsilon s t) :: stack) := by
  have hbinary : binary site op left.toOperand right.toOperand =
      .answer (.value (binaryElement op site.settings.epsilon s t)) := by
    unfold binary
    rw [if_neg (by simp [hop]), array_of_scalar? hs, array_of_scalar? ht]
    rfl
  have hresult : tokenResult functions body site index [left, right] (.binary op) =
      pure (some (.ofValue (binaryElement op site.settings.epsilon s t))) := by
    change ExceptT.lift (some <$> (Item.operand <$> binary site op left.toOperand right.toOperand))
      = _
    rw [hbinary]
    rfl
  change tokenResult functions body site index [left, right] (.binary op) >>= _ = _
  rw [hresult]
  rfl

/-- What arithmetic makes of operands of which one is an error. -/
lemma binaryElement_arithmetic_of_errorOf (hop : op.isArithmetic) (epsilon : Float)
    (h : Scalar.errorOf s t = some e) :
    (s.Unreadable → binaryElement op epsilon s t = .error .value) ∧
      (¬ s.Unreadable → binaryElement op epsilon s t = .error e) := by
  rw [binaryElement_of_isArithmetic hop]
  unfold Value.toNumber Value.leaf
  constructor
  · intro hread
    rw [hread.toNumber]
    rfl
  · intro hread
    rcases Scalar.errorOf_eq_some.mp h with rfl | ⟨hs, rfl⟩
    · rfl
    · obtain ⟨x, hx⟩ := Scalar.exists_toNumber hs hread
      rw [hx]
      rfl

/-- The other operators pass the error on whatever is on the other side. -/
lemma binaryElement_of_errorOf (hop : op.isReferenceOperator = false) (harith : ¬ op.isArithmetic)
    (epsilon : Float) (h : Scalar.errorOf s t = some e) :
    binaryElement op epsilon s t = .error e := by
  have hcompare : Value.compareOp op epsilon s t = .error e := by
    unfold Value.compareOp Value.compare Value.leaf
    rw [Scalar.compare_of_errorOf epsilon h]
  have hconcat : binaryElement .concat epsilon s t = .error e := by
    rw [binaryElement, if_pos rfl]
    unfold Value.toText Value.leaf
    rcases Scalar.errorOf_eq_some.mp h with rfl | ⟨hs, rfl⟩
    · rfl
    · obtain ⟨x, hx⟩ := Scalar.exists_toText hs
      rw [hx]
      rfl
  cases op with
  | concat => exact hconcat
  | lt | le | eq | ge | gt | ne => exact hcompare
  | add | sub | mul | div | power => exact absurd rfl harith
  | intersection | union | range => cases hop

/-- An operator on two scalars of which one at least is an error passes on the left error, or else
the right one, unless it is arithmetic with an unreadable text on the left, which hides any error
on the right but `#VALUE!`. -/
theorem step_binary_propagates_iff (functions : Dispatcher) (body : BodyEvaluator)
    (site : CallSite) (stack : List Item) (index : Nat) {op : BinaryOp}
    (hop : op.isReferenceOperator = false) {left right : Item} {s t : Scalar}
    (hs : left.toOperand.scalar? = some s) (ht : right.toOperand.scalar? = some t)
    {e : CellError} (he : Scalar.errorOf s t = some e) :
    step functions body site (right :: left :: stack) index (.binary op) =
        pure (.ofValue (.error e) :: stack) ↔
      ¬ (op.isArithmetic ∧ s.Unreadable ∧ e ≠ .value) := by
  have hinj {v w : Value} : (pure (.ofValue v :: stack) : ExceptT EvalError Query (List Item)) =
      pure (.ofValue w :: stack) ↔ v = w :=
    ⟨fun h => by cases h; rfl, fun h => by rw [h]⟩
  rw [step_binary hop hs ht, hinj]
  by_cases harith : op.isArithmetic
  · obtain ⟨hhidden, hpassed⟩ := binaryElement_arithmetic_of_errorOf harith site.settings.epsilon he
    by_cases hread : s.Unreadable
    · rw [hhidden hread]
      simp [harith, hread, eq_comm]
    · rw [hpassed hread]
      simp [hread]
  · rw [binaryElement_of_errorOf hop harith _ he]
    simp [harith]

namespace HiddenError

def noNames : CallSite := (Workbook.empty {}).site ⟨0, ⟨0, 0⟩⟩

lemma unreadable_abc : (Scalar.text "abc").Unreadable := ⟨"abc", rfl, by decide⟩

/-- The sum `=#REF!+#NAME?` passes on the left error; the sum `="abc"+#REF!` does not pass on its
only one. -/
theorem step_binary_propagates_iff_sums :
    step Library.empty (fun _ => pure .missing) noNames
        [.ofValue (.error .name), .ofValue (.error .reference)] 2 (.binary .add) =
        pure [.ofValue (.error .reference)] ∧
      step Library.empty (fun _ => pure .missing) noNames
        [.ofValue (.error .reference), .ofValue (.text "abc")] 2 (.binary .add) ≠
        pure [.ofValue (.error .reference)] :=
  ⟨(step_binary_propagates_iff _ _ _ [] 2 rfl rfl rfl rfl).mpr
      fun ⟨_, hread, _⟩ => absurd hread.error? nofun,
    fun h => (step_binary_propagates_iff _ _ noNames [] 2 rfl rfl rfl rfl).mp h
      ⟨rfl, unreadable_abc, by decide⟩⟩

/-- The formula `="abc"+#REF!` is `#VALUE!`. -/
theorem unreadable_text_hides_error :
    (evaluate Library.empty noNames [.ofString "abc", .error .reference, .binary .add]).run =
      .answer (.ok (.error .value)) := rfl

end HiddenError

end Evaluate

end Spreadsheet
