import Spreadsheet.Proofs.CheckedResults
import Spreadsheet.Proofs.RuleLibrary
import Spreadsheet.Proofs.RuleWorkbook

/-!
Finite numbers.

Operators and functions check what they compute: a result that is infinite or no number reads as an
error. Only signs and percentages are not checked, and these keep finite numbers finite, as does the
reading of numbers in texts. So if all numbers that a workbook stores are finite, then so are all
that it computes.
-/

namespace Spreadsheet

open Query

/-- All scalars in the value, at any depth, have `S`. -/
inductive Value.All (S : Scalar → Prop) : Value → Prop
  | scalar {s : Scalar} (h : S s) : All S (.scalar s)
  | array {rows cols : Nat} {values : List Value} (h : ∀ v ∈ values, All S v) :
    All S (.array rows cols values)

namespace Value

variable {S : Scalar → Prop} {s : Scalar} {rows cols : Nat} {values : List Value}

@[simp] lemma all_scalar : (scalar s).All S ↔ S s :=
  ⟨fun h => by cases h; assumption, .scalar⟩

@[simp] lemma all_array : (array rows cols values).All S ↔ ∀ v ∈ values, v.All S :=
  ⟨fun h => by cases h; assumption, .array⟩

lemma All.surfaced {v : Value} (h : v.All S) (hS : ∀ s, S s → S s.surfaced) :
    v.surfaced.All S := by
  cases h with
  | scalar h => exact .scalar (hS _ h)
  | array h =>
    refine .array fun u hu => ?_
    obtain ⟨v, hv, rfl⟩ := List.mem_map.mp hu
    have hv := h v hv
    split
    · exact .scalar (hS _ (all_scalar.mp hv))
    · exact hv

end Value

/-- A number is neither infinite nor the one that is no number. -/
def Scalar.Finite : Scalar → Prop
  | .number x => x.isFinite
  | _ => True

/-- All numbers in the value, at any depth, are finite. -/
abbrev Value.Finite : Value → Prop := Value.All Scalar.Finite

/-- The numbers that are written into the token are finite. -/
def Token.Finite : Token → Prop
  | .num bits => (Float.ofBits bits).isFinite
  | .array _ _ a => ∀ e ∈ a.values, e.value.Finite
  | _ => True

lemma Token.lasting_finite : Token.Lasting Token.Finite :=
  .of_literals (fun t ht => by cases t <;> trivial) trivial

namespace ValueRule

/-- Arrays of any shapes, in which all numbers are finite. -/
def finite : ValueRule where
  scalar := Scalar.Finite
  element := Value.Finite
  shape _ _ _ := True

variable {maxCells : Nat}

lemma allows_finite : finite.Allows = Value.Finite := by
  funext v
  cases v with
  | scalar s => exact propext (Value.all_scalar (S := Scalar.Finite)).symm
  | array rows cols values => exact propext ((and_iff_right trivial).trans Value.all_array.symm)

lemma recalculable_finite : finite.Recalculable maxCells where
  blank := trivial
  bool _ := trivial
  text _ := trivial
  error _ := trivial
  finite h := h
  negative := Binary64.isFinite_neg
  percent := Binary64.isFinite_div_hundred
  single := .scalar
  allows h := allows_finite.symm ▸ h
  area _ := trivial
  filled _ := trivial
  circular := trivial
  surfaced h := h.surfaced fun s hs => by cases s <;> exact hs

lemma allowsToken_finite {t : Token} (h : t.Finite) :
    finite.AllowsToken maxCells t := by
  cases t with
  | array cls reserved a =>
    intro _
    refine ⟨trivial, fun v hv => ?_⟩
    obtain ⟨e, he, rfl⟩ := List.mem_map.mp hv
    exact h e he
  | num => exact h
  | _ => trivial

end ValueRule

/-! ### Workbooks -/

namespace Workbook

variable {w : Workbook} {functions : Dispatcher}

/-- **Finite in, finite out**: no infinite number and none that is no number is ever computed. Where
one would come out, and where operands are refused or cannot be read, there is an error. -/
theorem maintains_finite (hw : w.Reachable) (h : w.StoresOnly Token.Finite Value.Finite)
    (hf : functions = Library.basic ∨ functions = Library.empty) :
    w.Maintains functions Token.Finite Value.Finite Value.Finite ∧ ResultsChecked := by
  have hmaintains := ValueRule.maintains ValueRule.recalculable_finite hw.coherent
    (fun _ => ValueRule.allowsToken_finite) h
    (ValueRule.kept_of_eq ValueRule.recalculable_finite.toClosed hf)
  rw [ValueRule.allows_finite] at hmaintains
  exact ⟨hmaintains, resultsChecked⟩

/-- Whatever was done to a workbook into which only finite numbers were brought, its cells hold
finite numbers. -/
theorem finite_cellValue_run (settings : Settings) {ops : List Operation}
    (hops : ∀ op ∈ ops, op.Brings Token.Finite Value.Finite)
    (hf : ∀ functions, .recalculate functions ∈ ops →
      functions = Library.basic ∨ functions = Library.empty) (p : Place) :
    (((empty settings).run ops).cellValue p).Finite :=
  ValueRule.element_cellValue_run ValueRule.recalculable_finite Token.lasting_finite
    (fun _ => ValueRule.allowsToken_finite) hops
    (fun functions h =>
      ValueRule.kept_of_eq ValueRule.recalculable_finite.toClosed (hf functions h)) p

namespace FiniteExample

/-- A number close to the greatest one, whose tenfold is too large. -/
def large : UInt64 := 0x7FE1CCF385EBC8A0

/-- `A1*{10;0}`, of which one element is too large. -/
def tooLarge : List Token :=
  [.ref .value ⟨0, 0, true, true⟩,
    .array .array (.replicate 7 0) ⟨2, 1, [.number 0x4024000000000000, .number 0]⟩, .binary .mul]

def ops : List Operation := [.addSheet "Sheet1",
  .setValue ⟨0, ⟨0, 0⟩⟩ (.number (Float.ofBits large)), .setFormula ⟨0, ⟨0, 1⟩⟩ tooLarge]

def book : Workbook := (empty {}).run ops

lemma storesOnly_book : book.StoresOnly Token.Finite Value.Finite := by
  have htokens : ∀ t ∈ tooLarge, t.Finite := by
    have hten : (Float.ofBits 0x4024000000000000).isFinite := by rfl
    have hzero : (Float.ofBits 0).isFinite := by rfl
    simp [tooLarge, Token.Finite, ArrayElement.value, Scalar.Finite, hten, hzero]
  refine storesOnly_run Token.lasting_finite {} fun op hop => ?_
  simp only [ops, List.mem_cons, List.not_mem_nil, or_false] at hop
  rcases hop with rfl | rfl | rfl
  · trivial
  · exact .scalar rfl
  · exact htokens

/-- The book computes finite numbers only. Wherever the number close to the greatest one is
multiplied by ten, the product is an error. -/
theorem maintains_finite_book :
    book.Reachable ∧ book.StoresOnly Token.Finite Value.Finite ∧
      book.Maintains Library.basic Token.Finite Value.Finite Value.Finite ∧
      ∃ g : Value → Value → Value, g (.number (Float.ofBits large)) (.number 10) = .error .number ∧
        ∀ functions body site left right stack index,
          Evaluate.step functions body site (right :: left :: stack) index (.binary .mul) = do
            let o ← ExceptT.lift do return .value (Value.broadcast g
              (← site.array left.toOperand) (← site.array right.toOperand))
            return .operand o :: stack := by
  have hw : book.Reachable := ⟨_, _, rfl⟩
  obtain ⟨hmaintains, hchecked⟩ := maintains_finite hw storesOnly_book (.inl rfl)
  obtain ⟨g, hg, hstep⟩ := hchecked.arithmetic .mul _ rfl
  have hlarge : g (.number (Float.ofBits large)) (.number 10) = .error .number :=
    (hg (.number (Float.ofBits large)) (.number 10)).overflow nofun (by decide)
  exact ⟨hw, storesOnly_book, hmaintains, g, hlarge, hstep⟩

end FiniteExample

end Workbook

end Spreadsheet
