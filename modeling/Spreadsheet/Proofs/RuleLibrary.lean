import Spreadsheet.Proofs.RuleRun

/-!
The functions of the library keep to a rule for values.

Each function reads operands one after the other and answers with an operand that it was given, with
an error that it met, or with a value of its own: a finite number, a text, a truth value, or an
error other than that of a circle.
-/

namespace Spreadsheet.ValueRule

open Query Library

variable {R : ValueRule} {maxCells : Nat} {site : CallSite} {o : Operand} {v : Value}
  {args : List Operand}

/-- If only allowed values are read, then the rule allows the error of the outcome. -/
abbrev Reports {α : Type} (R : ValueRule) (x : ExceptT CellError Query α) : Prop :=
  Reaches R.element (fun e => R.scalar (.error e)) (fun _ => True) x

section
variable (hR : R.Closed maxCells)
include hR

lemma single_count (n : Nat) : R.Single (.number (ofCount n)) :=
  ⟨_, rfl, hR.finite (Binary64.isFinite_toFloat _)⟩

/-! ### Many values -/

lemma yields_numbersAmong {vs : List Value} (h : ∀ v ∈ vs, R.element v) :
    R.Yields (fun _ => True) (numbersAmong vs) := by
  unfold numbersAmong
  split
  · rename_i e he
    obtain ⟨v, hv, hve⟩ := List.exists_of_findSome?_eq_some he
    have hallowed := hR.allows (h v hv)
    split at hve
    · cases hve
      exact hallowed
    · cases hve
  · trivial

omit hR in
lemma ensures_many {q : Query (List Value)} (h : R.AllowsOperand o) (hq : many? o = some q) :
    q.Ensures R.element fun vs => ∀ v ∈ vs, R.element v := by
  unfold many? at hq
  split at hq
  · cases hq
    exact ensures_cells _
  · cases hq
    exact h.2
  · cases hq

/-- The errors of the numbers are those of the operands. -/
lemma reports_numbers (h : ∀ o ∈ args, R.AllowsOperand o) : R.Reports (numbers args) := by
  induction args with
  | nil => exact reaches_pure trivial
  | cons arg args ih =>
    rw [List.forall_mem_cons] at h
    have hrest : ∀ here : List Float, R.Reports (do return here ++ (← numbers args)) :=
      fun here => (ih h.2).bind fun _ _ => reaches_pure trivial
    unfold numbers
    split
    · rename_i values hvalues
      exact (reaches_lift (ensures_many h.1 hvalues)).bind fun vs hvs =>
        (reaches_except (yields_numbersAmong hR hvs)).bind fun here _ => hrest here
    · rename_i v _
      have hnumber : R.Yields (fun _ => True) (v.toNumber.map fun x => [x]) :=
        (toNumber hR h.1).map fun _ _ => trivial
      exact (reaches_except hnumber).bind fun here _ => hrest here
    · exact (reaches_pure (P := fun _ => True) trivial).bind fun here _ => hrest here

lemma ensures_aggregate {f : Aggregate} (hf : ∀ xs, R.Single (f xs))
    (h : ∀ o ∈ args, R.AllowsOperand o) : (aggregate f args).Ensures R.element R.Allows := by
  refine ensures_bind.mpr (Ensures.mono (reports_numbers hR h) fun r hr => ?_)
  cases r with
  | ok xs => exact (hf xs).allows
  | error e => exact hr

lemma ensures_count (element single : Value → Bool) (args : List Operand) :
    (count element single args).Ensures R.element R.Allows :=
  ensures_bind.mpr (ensures_of_forall (fun _ => (single_count hR _).allows) _)

/-- The errors of the truth values are those of the operands. -/
lemma reports_connect (f : Bool → Bool → Bool) (h : ∀ o ∈ args, R.AllowsOperand o)
    (acc : Option Bool) : R.Reports (connect f args acc) := by
  induction args generalizing acc with
  | nil => exact reaches_pure trivial
  | cons arg args ih =>
    rw [List.forall_mem_cons] at h
    have hrest : ∀ values : List Value, (∀ v ∈ values, R.Allows v) →
        R.Reports (do
          let acc ← values.foldlM (fun acc v => do
            let b ← v.toBool
            return some (acc.elim b (f · b))) acc
          connect f args acc : ExceptT CellError Query (Option Bool)) := by
      intro values hvalues
      refine (reaches_foldlM (Q := fun _ => True) trivial fun acc _ v hv => ?_).bind
        fun acc _ => ih h.2 acc
      exact (reaches_except (toBool hR (hvalues v hv))).bind fun b _ => reaches_pure trivial
    unfold connect
    dsimp only
    split
    · rename_i values hvalues
      exact (reaches_lift (ensures_many h.1 hvalues)).bind fun vs hvs =>
        (reaches_pure (P := fun vs => ∀ v ∈ vs, R.Allows v) fun v hv =>
          hR.allows (hvs v (List.mem_filter.mp hv).1)).bind hrest
    · exact (reaches_pure (P := fun vs => ∀ v ∈ vs, R.Allows v) fun v hv =>
        List.mem_singleton.mp hv ▸ h.1).bind hrest
    · exact (reaches_pure (P := fun vs => ∀ v ∈ vs, R.Allows v) fun _ hv =>
        absurd hv List.not_mem_nil).bind hrest

lemma ensures_logical (f : Bool → Bool → Bool) (h : ∀ o ∈ args, R.AllowsOperand o) :
    (logical f args).Ensures R.element R.Allows := by
  refine ensures_bind.mpr (Ensures.mono (reports_connect hR f h none) fun r hr => ?_)
  rcases r with e | _ | b
  · exact hr
  · exact hR.error nofun
  · exact hR.bool b

lemma reports_concatenated (h : ∀ o ∈ args, R.AllowsOperand o) :
    R.Reports (concatenated site args) := by
  induction args with
  | nil => exact reaches_pure trivial
  | cons arg args ih =>
    rw [List.forall_mem_cons] at h
    unfold concatenated
    exact (reaches_lift (ensures_scalarValue hR h.1 site.here)).bind fun v hv =>
      (reaches_except (toText hR hv)).bind fun s _ => (ih h.2).bind fun _ _ =>
        reaches_pure trivial

lemma ensures_concatenate (h : ∀ o ∈ args, R.AllowsOperand o) :
    (concatenate site args).Ensures R.element R.Allows :=
  ensures_bind.mpr (Ensures.mono (reports_concatenated hR h) fun _ hr =>
    (single_ofExcept (Outcome.map hr fun _ _ => ⟨_, rfl, hR.text _⟩)).allows)

/-! ### Choices -/

lemma allows_chosen (h : R.AllowsOperand o) : R.AllowsOperand (chosen o) := by
  cases o with
  | missing => exact hR.finite rfl
  | value | reference => exact h

lemma ensures_ifThenElse (h : ∀ o ∈ args, R.AllowsOperand o) :
    (ifThenElse site args).Ensures R.element R.AllowsOperand := by
  cases args with
  | nil => exact hR.error nofun
  | cons cond branches =>
    rw [List.forall_mem_cons] at h
    refine ensures_bind.mpr ((ensures_scalarValue hR h.1 _).mono fun v hv => ?_)
    have hv := toBool hR hv
    split
    · rename_i he
      rwa [he] at hv
    · refine allows_chosen hR ?_
      rcases hb : branches[0]? with _ | o
      · trivial
      · exact h.2 o (List.mem_of_getElem? hb)
    · rcases hb : branches[1]? with _ | o
      · exact hR.bool false
      · exact allows_chosen hR (h.2 o (List.mem_of_getElem? hb))

lemma ensures_ifError (h : ∀ o ∈ args, R.AllowsOperand o) :
    (ifError site args).Ensures R.element R.AllowsOperand := by
  unfold ifError
  split
  · rename_i arg fallback
    refine ensures_bind.mpr (ensures_of_forall (fun v => ?_) _)
    split
    · exact allows_chosen hR (h fallback (by simp))
    · exact h arg (by simp)
  · exact hR.error nofun

lemma allows_dimension (rows : Bool) (h : ∀ o ∈ args, R.AllowsOperand o) :
    R.Allows (dimension rows args) := by
  unfold dimension
  split
  · split
    · exact (single_count hR _).allows
    · exact hR.error nofun
  · exact (single_count hR _).allows
  · exact h _ List.mem_cons_self
  · exact hR.finite rfl
  · exact hR.error nofun

end

/-! ### The table -/

/-- A function answers what the rule allows with what it allows. -/
def KeptBy (R : ValueRule) (maxCells : Nat) (f : CallSite → List Operand → Query Operand) : Prop :=
  ∀ site args, site.settings.maxArrayCells = maxCells → (∀ o ∈ args, R.AllowsOperand o) →
    (f site args).Ensures R.element R.AllowsOperand

lemma KeptBy.of_value {f : CallSite → List Operand → Query Value}
    (h : ∀ site args, site.settings.maxArrayCells = maxCells → (∀ o ∈ args, R.AllowsOperand o) →
      (f site args).Ensures R.element R.Allows) :
    R.KeptBy maxCells fun site args => do return .value (← f site args) :=
  fun site args hsite hargs => ensures_bind.mpr (h site args hsite hargs)

section Table
variable (hR : R.Closed maxCells)
include hR

lemma KeptBy.of_aggregate {f : Aggregate} (hf : ∀ xs, R.Single (f xs)) :
    R.KeptBy maxCells fun _ args => do return .value (← aggregate f args) :=
  .of_value fun _ _ _ h => ensures_aggregate hR hf h

lemma KeptBy.of_count (element single : Value → Bool) :
    R.KeptBy maxCells fun _ args => do return .value (← count element single args) :=
  .of_value fun _ _ _ _ => ensures_count hR element single _

lemma KeptBy.of_logical (f : Bool → Bool → Bool) :
    R.KeptBy maxCells fun _ args => do return .value (← logical f args) :=
  .of_value fun _ _ _ h => ensures_logical hR f h

/-- A function of one operand, element by element. -/
lemma KeptBy.of_unary {f : Value → Value} (hf : ∀ v, R.Allows v → R.Single (f v)) :
    R.KeptBy maxCells fun site args => do return .value (← unary f site args) := by
  refine .of_value fun site args hsite h => ?_
  subst hsite
  unfold unary
  split
  · exact ensures_bind.mpr ((ensures_arrayValue hR (h _ List.mem_cons_self)).mono fun v hv =>
      allows_mapElements hR hv hf)
  · exact hR.error nofun

lemma KeptBy.of_test (p : Value → Bool) :
    R.KeptBy maxCells fun site args => do
      return .value (← unary (fun v => .bool (p v)) site args) :=
  .of_unary hR fun _ _ => ⟨_, rfl, hR.bool _⟩

lemma KeptBy.of_number (g : Float → Float) :
    R.KeptBy maxCells fun site args => do return .value (← unary (onNumber g) site args) :=
  .of_unary hR fun _ hv => single_ofExcept ((toNumber hR hv).bind fun _ _ => single_ofResult hR _)

lemma KeptBy.of_text {s : String → Value} (hs : ∀ t, R.Single (s t)) :
    R.KeptBy maxCells fun site args => do return .value (← unary (onText s) site args) :=
  .of_unary hR fun _ hv => single_ofExcept ((toText hR hv).bind fun t _ => hs t)

/-- A function of two numbers. -/
lemma KeptBy.of_binary {f : Float → Float → Value} (hf : ∀ x y, R.Single (f x y)) :
    R.KeptBy maxCells fun site args => do return .value (← binary f site args) := by
  refine .of_value fun site args _ h => ?_
  unfold binary
  split
  · rename_i a b
    refine ensures_bind.mpr ((ensures_scalarValue hR (h a (by simp)) _).mono fun v hv => ?_)
    have hv := toNumber hR hv
    split
    · rename_i he
      rwa [he] at hv
    · refine ensures_bind.mpr ((ensures_scalarValue hR (h b (by simp)) _).mono fun w hw => ?_)
      exact (single_ofExcept ((toNumber hR hw).map fun y _ => hf _ y)).allows
  · exact hR.error nofun

omit hR in
lemma KeptBy.of_constant (hv : R.Allows v) :
    R.KeptBy maxCells fun _ _ => do return .value (← (return v : Query Value)) :=
  .of_value fun _ _ _ _ => hv

lemma single_average (xs : List Float) : R.Single (average xs) := by
  unfold average
  split_ifs
  · exact single_error hR nofun
  · exact single_ofResult hR _

lemma single_reduced (f : Float → Float → Float) (xs : List Float) : R.Single (reduced f xs) := by
  cases xs <;> exact single_ofResult hR _

lemma single_modulo (x d : Float) : R.Single (modulo x d) := by
  unfold modulo
  split_ifs
  · exact single_error hR nofun
  · exact single_ofResult hR _

/-- Every function of the table, in its order. -/
lemma keptBy_function {name : String} {f : CallSite → List Operand → Query Operand}
    (h : function? name = some f) : R.KeptBy maxCells f := by
  unfold function? at h
  dsimp only at h
  split at h <;> cases h
  · exact .of_aggregate hR fun _ => single_ofResult hR _
  · exact .of_aggregate hR fun _ => single_ofResult hR _
  · exact .of_aggregate hR (single_average hR)
  · exact .of_aggregate hR (single_reduced hR _)
  · exact .of_aggregate hR (single_reduced hR _)
  · exact .of_count hR _ _
  · exact .of_count hR _ _
  · exact fun _ _ _ h => ensures_ifThenElse hR h
  · exact fun _ _ _ h => ensures_ifError hR h
  · exact .of_test hR _
  · exact .of_test hR _
  · exact .of_test hR _
  · exact .of_test hR _
  · exact .of_test hR _
  · exact .of_test hR _
  · refine .of_unary hR fun v hv => ?_
    split
    · exact single_count hR _
    · exact single_error hR nofun
  · exact .of_constant (hR.error nofun)
  · exact .of_constant (hR.bool true)
  · exact .of_constant (hR.bool false)
  · exact .of_logical hR _
  · exact .of_logical hR _
  · exact .of_unary hR fun v hv =>
      single_ofExcept ((toBool hR hv).bind fun _ _ => ⟨_, rfl, hR.bool _⟩)
  · exact .of_number hR _
  · exact .of_number hR _
  · exact .of_number hR _
  · exact .of_binary hR fun _ _ => single_ofResult hR _
  · exact .of_binary hR (single_modulo hR)
  · exact .of_text hR fun _ => single_count hR _
  · exact .of_text hR fun _ => ⟨_, rfl, hR.text _⟩
  · exact .of_text hR fun _ => ⟨_, rfl, hR.text _⟩
  · exact .of_value fun _ _ _ h => ensures_concatenate hR h
  · exact .of_value fun _ _ _ h => allows_dimension hR true h
  · exact .of_value fun _ _ _ h => allows_dimension hR false h

/-- The small library keeps to the rule. -/
theorem kept_basic : R.Kept maxCells basic := by
  intro site call args hsite hargs
  refine agree_self.mpr ?_
  unfold basic
  split
  · rename_i f hname
    exact ensures_bind.mpr ((keptBy_function hR hname site args hsite hargs).mono
      fun o ho _ he => Option.some.inj he ▸ ho)
  · exact nofun

omit hR in
theorem kept_empty : R.Kept maxCells empty := fun _ _ _ _ _ => agree_self.mpr nofun

lemma kept_of_eq {functions : Dispatcher} (h : functions = basic ∨ functions = empty) :
    R.Kept maxCells functions := by
  rcases h with rfl | rfl
  · exact kept_basic hR
  · exact kept_empty

end Table

end Spreadsheet.ValueRule
