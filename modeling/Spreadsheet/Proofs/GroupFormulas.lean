import Spreadsheet.Formula.Evaluate
import Spreadsheet.Proofs.LateLink

/-!
The formula of a group, read in one of its cells.

A cell of a group can be given the group's formula as it stands, or its own formula with the offsets
worked out. Offsets are worked out in the same way by the evaluation, by the text and by the binding
to a cell. So it makes no difference which of the two formulas is evaluated or written, provided
that it has no references into other sheets, which count from the anchor.
-/

namespace Spreadsheet

/-- A fold over changed and numbered items goes as one over the items, if each step does. -/
lemma foldlM_zipIdx_map {α α' β : Type} {m : Type → Type} [Monad m] {f : α → α'}
    {step : β → α × Nat → m β} {step' : β → α' × Nat → m β} {as : List α}
    (h : ∀ a ∈ as, ∀ b i, step' b (f a, i) = step b (a, i)) (n : Nat) (b : β) :
    ((as.map f).zipIdx n).foldlM step' b = (as.zipIdx n).foldlM step b := by
  induction as generalizing n b with
  | nil => rfl
  | cons a as ih =>
    have hhead : step' b (f a, n) = step b (a, n) := h a List.mem_cons_self b n
    have htail : ∀ b, ((as.map f).zipIdx (n + 1)).foldlM step' b =
        (as.zipIdx (n + 1)).foldlM step b := fun b =>
      ih (fun a ha => h a (List.mem_cons_of_mem _ ha)) (n + 1) b
    rw [List.map_cons, List.zipIdx_cons, List.zipIdx_cons, List.foldlM_cons, List.foldlM_cons,
      hhead]
    simp only [htail]

/-- A token that is changed by the binding takes no operands, before and after it. -/
lemma Token.bindTo_eq_or_standalone (anchor cell : Cell) (limits : Limits) {t : Token}
    (ht : t.link? = none) : t.bindTo anchor cell limits = t ∨
      t.operandCount? = some 0 ∧ (t.bindTo anchor cell limits).operandCount? = some 0 := by
  cases t with
  | refN cls a => exact Or.inr ⟨rfl, rfl⟩
  | areaN cls a => exact Or.inr ⟨rfl, rfl⟩
  | ref3d cls link a => cases ht
  | area3d cls link a => cases ht
  | _ => exact Or.inl rfl

/-! ### Evaluation -/

namespace Evaluate

variable {functions : Dispatcher} {site : CallSite} {t : Token} {tokens : List Token}

/-- An offset leads to the same cells before and after it is worked out. -/
lemma tokenResult_bindTo (body : BodyEvaluator) (anchor : Cell) (ht : t.link? = none) (index : Nat)
    (args : List Item) :
    tokenResult functions body site index args
        (t.bindTo anchor site.here.cell site.settings.limits) =
      tokenResult functions body site index args t := by
  cases t with
  | ref3d cls link a => cases ht
  | area3d cls link a => cases ht
  | _ => rfl

lemma step_bindTo (body : BodyEvaluator) (anchor : Cell) (ht : t.link? = none) (stack : List Item)
    (index : Nat) :
    step functions body site stack index (t.bindTo anchor site.here.cell site.settings.limits) =
      step functions body site stack index t := by
  rcases t.bindTo_eq_or_standalone anchor site.here.cell site.settings.limits ht with
    hsame | ⟨hcount, hbound⟩
  · rw [hsame]
  · -- the opcode may be another one, but the error that names it cannot come up
    have henough : ¬stack.length < 0 := Nat.not_lt_zero _
    have hresult : ∀ args, tokenResult functions body site index args
        (t.bindTo anchor site.here.cell site.settings.limits) =
        tokenResult functions body site index args t :=
      tokenResult_bindTo body anchor ht index
    simp only [step, hcount, hbound, henough, if_false, hresult]

lemma run_bindShared (body : BodyEvaluator) (anchor : Cell)
    (htokens : ∀ t ∈ tokens, t.link? = none) :
    run functions body site (bindShared tokens anchor site.here.cell site.settings.limits) =
      run functions body site tokens := by
  unfold run bindShared
  refine congrArg (· >>= _) ?_
  exact foldlM_zipIdx_map
    (fun t ht stack index => step_bindTo body anchor (htokens t ht) stack index) 0 []

lemma withLevels_bindShared (anchor : Cell) (htokens : ∀ t ∈ tokens, t.link? = none)
    (levels : Nat) :
    withLevels functions site levels
        (bindShared tokens anchor site.here.cell site.settings.limits) =
      withLevels functions site levels tokens := by
  cases levels with
  | zero => exact run_bindShared _ anchor htokens
  | succ levels => exact run_bindShared _ anchor htokens

end Evaluate

/-! ### Text -/

namespace Render

variable {names : Names} {t : Token}

/-- Once the offsets are worked out the text does not depend on the cell. -/
lemma step_bindTo (anchor cell origin : Cell) (ht : t.link? = none) (st : State) (index : Nat) :
    step names origin st index (t.bindTo anchor cell names.limits) =
      step names cell st index t := by
  cases t with
  | ref3d cls link a => cases ht
  | area3d cls link a => cases ht
  | unary op => cases op <;> rfl
  | attr a => cases a <;> rfl
  | _ => rfl

lemma render_bindShared (anchor cell origin : Cell) {tokens : List Token}
    (htokens : ∀ t ∈ tokens, t.link? = none) :
    render (bindShared tokens anchor cell names.limits) names origin =
      render tokens names cell := by
  unfold render bindShared
  refine congrArg (· >>= _) ?_
  exact foldlM_zipIdx_map
    (fun t ht st index => step_bindTo anchor cell origin (htokens t ht) st index) 0 ⟨[], none⟩

end Render

/-! ### Both -/

/-- A group's formula without references into other sheets has the same result, the same error and
the same text in a cell as that cell's own formula. The text of the latter may be asked for
anywhere. -/
theorem bindShared_in_place {body : List Token} (hbody : ∀ t ∈ body, t.link? = none)
    (anchor cell : Cell) (limits : Limits) :
    (∀ (functions : Dispatcher) (site : CallSite),
      site.here.cell = cell → site.settings.limits = limits →
      evaluateOperand functions site (bindShared body anchor cell limits) =
          evaluateOperand functions site body ∧
        evaluate functions site (bindShared body anchor cell limits) =
          evaluate functions site body ∧
        evaluateArray functions site (bindShared body anchor cell limits) =
          evaluateArray functions site body) ∧
      ∀ (names : Names) (origin : Cell), names.limits = limits →
        render (bindShared body anchor cell limits) names origin = render body names cell := by
  constructor
  · rintro functions site rfl rfl
    have hoperand : evaluateOperand functions site
        (bindShared body anchor site.here.cell site.settings.limits) =
        evaluateOperand functions site body :=
      Evaluate.withLevels_bindShared anchor hbody _
    refine ⟨hoperand, ?_, ?_⟩
    · unfold evaluate
      rw [hoperand]
    · unfold evaluateArray
      rw [hoperand]
  · rintro names origin rfl
    exact Render.render_bindShared anchor cell origin hbody

namespace GroupFormula

/-- The cell to the left, and the cells from the row below to the fifth row. -/
def body : List Token :=
  [.refN .value ⟨0, 255, true, true⟩, .areaN .reference ⟨⟨1, 0, true, true⟩, ⟨4, 0, false, true⟩⟩,
    .funcVar .value 1 false 4 false, .binary .add]

def site : CallSite := (Workbook.empty {}).site ⟨0, ⟨65535, 0⟩⟩

/-- In the corner both offsets lead around the grid. -/
theorem bindShared_in_place_corner :
    (∀ t ∈ body, t.link? = none) ∧
      evaluateOperand (fun _ _ _ => return none) site (bindShared body ⟨7, 7⟩ ⟨65535, 0⟩ {}) =
        evaluateOperand (fun _ _ _ => return none) site body ∧
      render (bindShared body ⟨7, 7⟩ ⟨65535, 0⟩ {}) Names.none ⟨3, 3⟩ =
        render body Names.none ⟨65535, 0⟩ := by
  have hbody : ∀ t ∈ body, t.link? = none := by decide
  obtain ⟨hvalue, htext⟩ := bindShared_in_place hbody ⟨7, 7⟩ ⟨65535, 0⟩ {}
  exact ⟨hbody, (hvalue _ site rfl rfl).1, htext Names.none ⟨3, 3⟩ rfl⟩

example : render body Names.none ⟨65535, 0⟩ = .ok "IV65536+SUM(A1:A$5)" := by decide +kernel

end GroupFormula

end Spreadsheet
