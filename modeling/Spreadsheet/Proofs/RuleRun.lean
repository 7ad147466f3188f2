import Spreadsheet.Proofs.ValueRule

/-!
Evaluations that keep to a rule for values.

If the tokens of a formula, the formulas of names and the cells hold only values that a rule allows,
and the functions answer what they are given with such values, then so does the evaluation. It is
compared with the evaluation by other functions, which need to answer in the same way only if all
that they are given is allowed: both ask for the same cells and come to the same result. So nothing
else is ever passed to a function.
-/

namespace Spreadsheet

open Query

namespace ValueRule

/-- The values that are written into the token. An array constant with more elements than the
settings permit is not looked at. -/
def AllowsToken (R : ValueRule) (maxCells : Nat) : Token → Prop
  | .error e => R.scalar (.error e)
  | .num bits => R.scalar (.number (Float.ofBits bits))
  | .array _ _ a => a.rows * a.cols ≤ maxCells → R.Allows a.value
  | _ => True

/-- The formulas of all names. -/
structure AllowsNames (R : ValueRule) (maxCells : Nat) (s : Surroundings) : Prop where
  definedNames : ∀ {i n}, s.definedName i = some n → ∀ t ∈ n.body, R.AllowsToken maxCells t
  linkedNames : ∀ {link i n tokens}, s.linkedName link i = some n → n.body = some tokens →
    ∀ t ∈ tokens, R.AllowsToken maxCells t

/-- Given what the rule allows, both libraries ask for the same cells and answer the same, which the
rule allows. -/
def Agree (R : ValueRule) (maxCells : Nat) (functions functions' : Dispatcher) : Prop :=
  ∀ (site : CallSite) (call : FunctionCall) (args : List Operand),
    site.settings.maxArrayCells = maxCells → (∀ o ∈ args, R.AllowsOperand o) →
    (functions site call args).Agree R.element (fun answer => ∀ o ∈ answer, R.AllowsOperand o)
      (functions' site call args)

/-- The library answers what the rule allows with what it allows. -/
def Kept (R : ValueRule) (maxCells : Nat) (functions : Dispatcher) : Prop :=
  R.Agree maxCells functions functions

variable {R : ValueRule} {site : CallSite} {o : Operand} {v : Value}

lemma Agree.kept {maxCells : Nat} {functions functions' : Dispatcher}
    (h : R.Agree maxCells functions functions') : R.Kept maxCells functions :=
  fun site call args hsite hargs => agree_self.mpr (h site call args hsite hargs).ensures

section References
variable {maxCells : Nat} (hR : R.Closed maxCells)
include hR

omit hR in
lemma allows_operand {x : Except CellError Reference} (h : R.Yields (fun _ => True) x) :
    R.AllowsOperand (Surroundings.resolve?.operand x) := by
  cases x with
  | ok r => trivial
  | error e => exact h

lemma yields_onSheetsOf (s : Surroundings) (link : UInt16) (area : Nat → Area) :
    R.Yields (fun _ => True) (s.onSheetsOf link area) := by
  refine Outcome.bind (P := fun _ => True) ?_ fun sheets _ => ?_
  · unfold Surroundings.sheetsOf
    split
    · dsimp only
      split_ifs
      · exact hR.error nofun
      · trivial
    · exact hR.error nofun
  · split
    · trivial
    · exact hR.error nofun

lemma allows_resolve {s : Surroundings} {limits : Limits} {here : Place} {t : Token}
    (h : s.resolve? limits here t = some o) : R.AllowsOperand o := by
  unfold Surroundings.resolve? at h
  split at h <;> cases h
  all_goals first
    | trivial
    | exact allows_operand (yields_onSheetsOf hR s _ _)
    | exact hR.error nofun

end References

/-- The rule allows the entry of the stack. -/
def AllowsItem (R : ValueRule) : Evaluate.Item → Prop
  | .operand o => R.AllowsOperand o
  | .callee _ => True

/-- The two computations come to the same, and if this is a result, then one with `P`. -/
abbrev ComesTo {α : Type} (R : ValueRule) (P : α → Prop) (x y : ExceptT EvalError Query α) : Prop :=
  ReachBoth R.element (fun _ => True) P x y

/-- Evaluations of names that come to the same, which the rule allows. -/
def BodiesAgree (R : ValueRule) (maxCells : Nat) (body body' : Evaluate.BodyEvaluator) : Prop :=
  ∀ tokens, (∀ t ∈ tokens, R.AllowsToken maxCells t) →
    R.ComesTo R.AllowsOperand (body tokens) (body' tokens)

open Evaluate

variable {functions functions' : Dispatcher} {body body' : BodyEvaluator} {item : Item}
  {args stack : List Item} (hR : R.Closed site.settings.maxArrayCells)
include hR

lemma allows_toOperand (h : R.AllowsItem item) : R.AllowsOperand item.toOperand := by
  cases item with
  | operand o => exact h
  | callee name => exact hR.error nofun

lemma allows_argument (h : ∀ i ∈ args, R.AllowsItem i) (i : Nat) :
    R.AllowsOperand ((args[i]?.map Item.toOperand).getD .missing) := by
  rcases hi : args[i]? with _ | item
  · trivial
  · exact allows_toOperand hR (h item (List.mem_of_getElem? hi))

/-! ### Calls -/

section Calls
variable (hf : R.Agree site.settings.maxArrayCells functions functions')
include hf

lemma agree_dispatch (call : FunctionCall) (h : ∀ i ∈ args, R.AllowsItem i) :
    (dispatch functions site call args).Agree R.element R.AllowsItem
      (dispatch functions' site call args) := by
  refine (hf site call _ rfl ?_).bind fun answer ha => ?_
  · intro o ho
    obtain ⟨i, hi, rfl⟩ := List.mem_map.mp ho
    exact allows_toOperand hR (h i hi)
  · cases answer with
    | none => exact ⟨rfl, hR.error nofun⟩
    | some o => exact ⟨rfl, ha o rfl⟩

lemma agree_callBuiltin (id : UInt16) (h : ∀ i ∈ args, R.AllowsItem i) :
    (callBuiltin functions site id args).Agree R.element R.AllowsItem
      (callBuiltin functions' site id args) := by
  unfold callBuiltin
  split
  · exact ⟨rfl, hR.error nofun⟩
  · split_ifs
    · exact ⟨rfl, hR.error nofun⟩
    · exact agree_dispatch hR hf _ h

lemma agree_callUser (h : ∀ i ∈ args, R.AllowsItem i) :
    (callUser functions site args).Agree R.element R.AllowsItem
      (callUser functions' site args) := by
  unfold callUser
  split
  · exact ⟨rfl, hR.error nofun⟩
  · exact agree_dispatch hR hf _ fun i hi => h i (List.mem_cons_of_mem _ hi)
  · exact ⟨rfl, h _ List.mem_cons_self⟩
  · exact ⟨rfl, hR.error nofun⟩

end Calls

/-! ### Tokens -/

lemma ensures_inClass (cls : TokenClass) (h : R.AllowsItem item) :
    (inClass site cls item).Ensures R.element R.AllowsItem := by
  cases item with
  | operand o => exact ensures_bind.mpr (ensures_applyClass hR cls h)
  | callee name => trivial

omit hR in
lemma comesTo_item {x y : Query Item} (h : x.Agree R.element R.AllowsItem y) :
    R.ComesTo (fun result => ∀ i ∈ result, R.AllowsItem i) (ExceptT.lift (some <$> x))
      (ExceptT.lift (some <$> y)) :=
  reachBoth_lift (h.map fun _ hi _ he => Option.some.inj he ▸ hi)

omit hR in
lemma comesTo_operand {x : Query Operand} (h : x.Ensures R.element R.AllowsOperand) :
    R.ComesTo (fun result => ∀ i ∈ result, R.AllowsItem i)
      (ExceptT.lift (some <$> (Item.operand <$> x)))
      (ExceptT.lift (some <$> (Item.operand <$> x))) :=
  comesTo_item (agree_self.mpr (ensures_map.mpr h))

omit hR in
lemma comesTo_value (h : R.Allows v) :
    R.ComesTo (fun result => ∀ i ∈ result, R.AllowsItem i) (pure (some (Item.ofValue v)))
      (pure (some (Item.ofValue v))) :=
  reachBoth_pure fun _ he => Option.some.inj he ▸ h

section Tokens
variable (hnames : R.AllowsNames site.settings.maxArrayCells site.surroundings)
  (hbody : R.BodiesAgree site.settings.maxArrayCells body body')
include hnames hbody

lemma comesTo_definedName (i : UInt16) :
    R.ComesTo R.AllowsItem (definedName body site i) (definedName body' site i) := by
  unfold definedName
  split
  · exact reachBoth_pure (hR.error nofun)
  · rename_i n hn
    split_ifs
    · exact reachBoth_pure trivial
    · exact (hbody _ (hnames.definedNames hn)).bind fun o ho => reachBoth_pure ho

lemma comesTo_linkedName (link i : UInt16) :
    R.ComesTo R.AllowsItem (linkedName body site link i) (linkedName body' site link i) := by
  unfold linkedName
  split
  · exact reachBoth_pure (hR.error nofun)
  · rename_i n hn
    split
    · exact reachBoth_pure trivial
    · rename_i tokens htokens
      exact (hbody _ (hnames.linkedNames hn htokens)).bind fun o ho => reachBoth_pure ho

variable (hf : R.Agree site.settings.maxArrayCells functions functions')
include hf

/-- A token that the rule allows answers operands that it allows by such a result. -/
lemma comesTo_tokenResult (index : Nat) (h : ∀ i ∈ args, R.AllowsItem i) {t : Token}
    (ht : R.AllowsToken site.settings.maxArrayCells t) :
    R.ComesTo (fun result => ∀ i ∈ result, R.AllowsItem i)
      (tokenResult functions body site index args t)
      (tokenResult functions' body' site index args t) := by
  cases t with
  | exp | table => exact reachBoth_throw trivial
  | paren | memory => exact reachBoth_pure nofun
  | attr a =>
    cases a with
    | sum => exact comesTo_item (agree_callBuiltin hR hf _ h)
    | _ => exact reachBoth_pure nofun
  | missing => exact reachBoth_pure fun _ he => Option.some.inj he ▸ trivial
  | text s => exact comesTo_value (hR.text _)
  | bool raw => exact comesTo_value (hR.bool _)
  | int n =>
    have hn := n.toNat_lt
    exact comesTo_value (hR.finite (Binary64.isFinite_ofNat (by omega)))
  | num bits => exact comesTo_value ht
  | error e => exact comesTo_value ht
  | array cls reserved a =>
    unfold tokenResult
    dsimp only
    split_ifs with hlarge
    · exact comesTo_value (hR.error nofun)
    · exact comesTo_value (ht (Nat.le_of_not_lt hlarge))
  | binary op =>
    exact comesTo_operand
      (ensures_operator hR op (allows_argument hR h 0) (allows_argument hR h 1))
  | unary op => exact comesTo_operand (ensures_sign hR op (allows_argument hR h 0))
  | func _ id => exact comesTo_item (agree_callBuiltin hR hf id h)
  | funcVar _ _ _ id =>
    unfold tokenResult
    dsimp only
    split_ifs
    · exact comesTo_item (agree_callUser hR hf h)
    · exact comesTo_item (agree_callBuiltin hR hf id h)
  | name cls i =>
    exact (comesTo_definedName hR hnames hbody i).bind fun item hi =>
      comesTo_item (agree_self.mpr (ensures_inClass hR cls hi))
  | nameX cls link i =>
    exact (comesTo_linkedName hR hnames hbody link i).bind fun item hi =>
      comesTo_item (agree_self.mpr (ensures_inClass hR cls hi))
  | ref cls | area cls | refErr cls | areaErr cls | refN cls | areaN cls | ref3d cls | area3d cls
  | refErr3d cls | areaErr3d cls =>
    unfold tokenResult
    dsimp only
    split
    · rename_i o ho
      exact comesTo_operand (ensures_applyClass hR cls (allows_resolve hR ho))
    · exact reachBoth_throw trivial

/-! ### Runs -/

/-- One token keeps to the rule on the stack. -/
lemma comesTo_step (hstack : ∀ i ∈ stack, R.AllowsItem i) (index : Nat) {t : Token}
    (ht : R.AllowsToken site.settings.maxArrayCells t) :
    R.ComesTo (fun stack => ∀ i ∈ stack, R.AllowsItem i)
      (step functions body site stack index t) (step functions' body' site stack index t) := by
  unfold step
  split
  · split <;> exact reachBoth_throw trivial
  rename_i n _
  have hargs : ∀ i ∈ (stack.take n).reverse, R.AllowsItem i := fun i hi =>
    hstack i (List.mem_of_mem_take (List.mem_reverse.mp hi))
  have hpushed (result : Option Item) (hr : ∀ i ∈ result, R.AllowsItem i) :
      ∀ i ∈ result.toList ++ stack.drop n, R.AllowsItem i := by
    intro i hi
    rcases List.mem_append.mp hi with hi | hi
    · exact hr i (Option.mem_toList.mp hi)
    · exact hstack i (List.mem_of_mem_drop hi)
  split_ifs
  · exact reachBoth_throw trivial
  · exact (comesTo_tokenResult hR hnames hbody hf index hargs ht).bind fun result hr =>
      reachBoth_pure (hpushed result hr)

/-- A run of tokens that the rule allows. -/
lemma comesTo_run {tokens : List Token}
    (ht : ∀ t ∈ tokens, R.AllowsToken site.settings.maxArrayCells t) :
    R.ComesTo R.AllowsOperand (run functions body site tokens)
      (run functions' body' site tokens) := by
  have hempty : ∀ i ∈ ([] : List Item), R.AllowsItem i := nofun
  refine (reachBoth_foldlM (Q := fun stack => ∀ i ∈ stack, R.AllowsItem i) hempty ?_).bind ?_
  · rintro stack hstack ⟨t, i⟩ hmem
    exact comesTo_step hR hnames hbody hf hstack i (ht t (List.fst_mem_of_mem_zipIdx hmem))
  · intro stack hstack
    split
    · exact reachBoth_pure (allows_toOperand hR (hstack _ List.mem_cons_self))
    · exact reachBoth_throw trivial

omit hbody in
/-- Names may refer to names, and are evaluated in the same way. -/
lemma bodiesAgree_withLevels (levels : Nat) :
    R.BodiesAgree site.settings.maxArrayCells (withLevels functions site levels)
      (withLevels functions' site levels) := by
  induction levels with
  | zero =>
    have hname : R.BodiesAgree site.settings.maxArrayCells (fun _ => return .error .name)
        fun _ => return .error .name := fun _ _ => reachBoth_pure (hR.error nofun)
    exact fun tokens ht => comesTo_run hR hnames hname hf ht
  | succ levels ih => exact fun tokens ht => comesTo_run hR hnames ih hf ht

end Tokens

/-! ### Evaluations -/

section Evaluations
variable (hnames : R.AllowsNames site.settings.maxArrayCells site.surroundings)
  (hf : R.Agree site.settings.maxArrayCells functions functions') {tokens : List Token}
  (ht : ∀ t ∈ tokens, R.AllowsToken site.settings.maxArrayCells t)
include hnames hf ht

/-- A formula that keeps to the rule comes to an operand that the rule allows. -/
theorem comesTo_evaluateOperand :
    R.ComesTo R.AllowsOperand (evaluateOperand functions site tokens)
      (evaluateOperand functions' site tokens) :=
  bodiesAgree_withLevels hR hnames hf _ tokens ht

/-- The value of one cell may stand in a cell. -/
theorem comesTo_evaluate :
    R.ComesTo R.element (evaluate functions site tokens) (evaluate functions' site tokens) :=
  (comesTo_evaluateOperand hR hnames hf ht).bind fun _ ho =>
    reachBoth_lift (agree_self.mpr
      (ensures_map.mpr ((ensures_scalarValue hR ho _).mono fun _ hv => first hR hv)))

theorem comesTo_evaluateArray :
    R.ComesTo R.Allows (evaluateArray functions site tokens)
      (evaluateArray functions' site tokens) :=
  (comesTo_evaluateOperand hR hnames hf ht).bind fun _ ho =>
    reachBoth_lift (agree_self.mpr (ensures_arrayValue hR ho))

end Evaluations

end ValueRule

end Spreadsheet
