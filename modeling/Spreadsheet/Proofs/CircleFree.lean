import Spreadsheet.Proofs.RuleLibrary

/-!
Where the error of a circle comes from.

Operators, functions and the machine that runs a formula pass errors on and make errors of their
own, but never the one of a circle. So what they are given without it they answer without it: that
it does not occur is a rule for values, which evaluations keep.
-/

namespace Spreadsheet

open Query

/-- The error of a circle does not occur in the value. -/
inductive Value.CircleFree : Value → Prop
  | scalar {s : Scalar} (h : s ≠ .error .circular) : CircleFree (.scalar s)
  | array {rows cols : Nat} {values : List Value} (h : ∀ v ∈ values, CircleFree v) :
    CircleFree (.array rows cols values)

namespace Value

variable {s : Scalar} {values : List Value} {rows cols : Nat}

@[simp] lemma circleFree_scalar : (scalar s).CircleFree ↔ s ≠ .error .circular :=
  ⟨fun h => by cases h; assumption, .scalar⟩

@[simp] lemma circleFree_array :
    (array rows cols values).CircleFree ↔ ∀ v ∈ values, v.CircleFree :=
  ⟨fun h => by cases h; assumption, .array⟩

end Value

/-- The error of a circle does not occur in the operand. A reference may still lead to it. -/
def Operand.CircleFree : Operand → Prop
  | .value v => v.CircleFree
  | .reference _ | .missing => True

/-- The error of a circle is not written into the token. -/
def Token.CircleFree : Token → Prop
  | .error e => e ≠ .circular
  | .array _ _ a => a.value.CircleFree
  | _ => True

/-- A library that answers without the error of a circle what it is given without it. -/
def Dispatcher.CircleFree (functions : Dispatcher) : Prop :=
  ∀ site call args, (∀ o ∈ args, o.CircleFree) →
    (functions site call args).Ensures Value.CircleFree fun answer => ∀ o ∈ answer, o.CircleFree

namespace ValueRule

/-- Any values but the error of a circle. -/
def circleFree : ValueRule where
  scalar s := s ≠ .error .circular
  element := Value.CircleFree
  shape _ _ _ := True

variable {maxCells : Nat} {functions : Dispatcher}

lemma allows_circleFree : circleFree.Allows = Value.CircleFree := by
  funext v
  cases v with
  | scalar s => exact propext Value.circleFree_scalar.symm
  | array rows cols values =>
    exact propext ((and_iff_right trivial).trans Value.circleFree_array.symm)

lemma allowsOperand_circleFree : circleFree.AllowsOperand = Operand.CircleFree := by
  funext o
  cases o with
  | value v => exact congrFun allows_circleFree v
  | reference | missing => rfl

lemma closed_circleFree : circleFree.Closed maxCells where
  blank := nofun
  bool _ := nofun
  text _ := nofun
  error h he := h (Scalar.error.inj he)
  finite _ := nofun
  negative _ := nofun
  percent _ := nofun
  single := .scalar
  allows h := allows_circleFree.symm ▸ h
  area _ := trivial
  filled _ := trivial

lemma allowsToken_circleFree {t : Token} (h : t.CircleFree) :
    circleFree.AllowsToken maxCells t := by
  cases t with
  | error e => exact fun he => h (Scalar.error.inj he)
  | num bits => exact nofun
  | array cls reserved a => exact fun _ => allows_circleFree.symm ▸ h
  | _ => trivial

lemma kept_circleFree (hf : functions.CircleFree) : circleFree.Kept maxCells functions := by
  intro site call args _ hargs
  rw [allowsOperand_circleFree] at hargs ⊢
  exact agree_self.mpr (hf site call args hargs)

lemma circleFree_of_kept (h : ∀ maxCells, circleFree.Kept maxCells functions) :
    functions.CircleFree := by
  intro site call args hargs
  have hkept := h site.settings.maxArrayCells site call args rfl
  rw [allowsOperand_circleFree] at hkept
  exact agree_self.mp (hkept hargs)

end ValueRule

/-- The functions of the library make no error of a circle. -/
theorem Library.circleFree_basic : Dispatcher.CircleFree basic :=
  ValueRule.circleFree_of_kept fun _ => ValueRule.kept_basic ValueRule.closed_circleFree

theorem Library.circleFree_empty : Dispatcher.CircleFree empty :=
  ValueRule.circleFree_of_kept fun _ => ValueRule.kept_empty

end Spreadsheet
