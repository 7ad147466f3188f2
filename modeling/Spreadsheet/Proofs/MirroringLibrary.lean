import Spreadsheet.Proofs.Mirroring

/-!
The functions of the library on cells at other places.

A function sees nothing of a reference but the values of its cells and how many areas it has. So it
does with the images of the cells what it does with the cells.
-/

namespace Spreadsheet

open Query

/-- A library that knows of references only what the values of their cells tell. What the second
call is given are the images of the cells that the first is given. -/
def Dispatcher.Mirrors (σ : Place → Place) (functions : Dispatcher) : Prop :=
  ∀ (site site' : CallSite) call args args', site'.settings = site.settings →
    List.Forall₂ (Operand.Mirrors σ) args args' →
    (functions site call args).Mirrors σ (Option.Rel (Operand.Mirrors σ))
      (functions site' call args')

namespace Library

variable {σ : Place → Place} {site site' : CallSite} {o o' : Operand} {args args' : List Operand}

/-! ### Many operands -/

lemma mirrors_values {ps : List Place} (h : ps ≠ []) :
    (Reference.ofCells ps h).values.Mirrors σ Eq
      (Reference.ofCells (ps.map σ) (by simpa using h)).values := by
  unfold Reference.values
  rw [Reference.cells_ofCells, Reference.cells_ofCells]
  exact mirrors_cells σ ps

lemma mirrors_numbers (h : List.Forall₂ (Operand.Mirrors σ) args args') :
    MirrorsResult σ Eq (numbers args) (numbers args') := by
  induction h with
  | nil => exact mirrorsResult_pure rfl
  | @cons arg arg' args args' harg _ ih =>
    have hrest : ∀ here : List Float, MirrorsResult σ Eq (do return here ++ (← numbers args))
        (do return here ++ (← numbers args')) :=
      fun here => Mirrors.bind_result_eq ih fun _ => mirrorsResult_pure rfl
    have hmany : ∀ {q q' : Query (List Value)}, q.Mirrors σ Eq q' → MirrorsResult σ Eq
        (do
          let here ← numbersAmong (← q)
          return here ++ (← numbers args) : ExceptT CellError Query (List Float))
        (do
          let here ← numbersAmong (← q')
          return here ++ (← numbers args')) := fun hq =>
      Mirrors.bind_result_eq (mirrorsResult_lift hq) fun _ =>
        Mirrors.bind_result_eq (mirrorsResult_except _) hrest
    cases harg with
    | value v =>
      cases v with
      | array _ _ vs => exact hmany (.answer (a := vs) rfl)
      | scalar s => exact Mirrors.bind_result_eq (mirrorsResult_except _) hrest
    | cells h => exact hmany (mirrors_values h)
    | missing => exact Mirrors.bind_result_eq (mirrorsResult_pure rfl) hrest

lemma mirrors_aggregate (f : Aggregate) (h : List.Forall₂ (Operand.Mirrors σ) args args') :
    (aggregate f args).Mirrors σ Eq (aggregate f args') :=
  Mirrors.bind (mirrors_numbers h) fun r r' hr => by
    rw [alike_eq.mp hr]
    cases r' <;> exact .answer rfl

lemma mirrors_count (element single : Value → Bool)
    (h : List.Forall₂ (Operand.Mirrors σ) args args') :
    (count element single args).Mirrors σ Eq (count element single args') := by
  refine Mirrors.bind (mirrors_mapM (S := Eq) (h.imp fun arg arg' harg => ?_)) fun ns ns' hns => ?_
  · cases harg with
    | value v => cases v <;> exact .answer rfl
    | cells h => exact (mirrors_values h).bind_eq fun _ => .answer rfl
    | missing => exact .answer rfl
  · rw [List.forall₂_eq_eq_eq] at hns
    exact hns ▸ .answer rfl

lemma mirrors_connect (f : Bool → Bool → Bool) (h : List.Forall₂ (Operand.Mirrors σ) args args')
    (acc : Option Bool) : MirrorsResult σ Eq (connect f args acc) (connect f args' acc) := by
  induction h generalizing acc with
  | nil => exact mirrorsResult_pure rfl
  | @cons arg arg' args args' harg _ ih =>
    have hrest : ∀ vs : List Value, MirrorsResult σ Eq
        (do
          let acc ← vs.foldlM (fun acc v => do
            let b ← v.toBool
            return some (acc.elim b (f · b))) acc
          connect f args acc : ExceptT CellError Query (Option Bool))
        (do
          let acc ← vs.foldlM (fun acc v => do
            let b ← v.toBool
            return some (acc.elim b (f · b))) acc
          connect f args' acc) := by
      intro vs
      have hsame : List.Forall₂ Eq vs vs := List.forall₂_same.mpr fun _ _ => rfl
      refine Mirrors.bind_result_eq (mirrorsResult_foldlM hsame rfl ?_) ih
      rintro acc _ v _ rfl rfl
      exact Mirrors.bind_result_eq (mirrorsResult_except _) fun _ => mirrorsResult_pure rfl
    cases harg with
    | value v =>
      cases v with
      | array _ _ vs =>
        exact Mirrors.bind_result_eq (mirrorsResult_lift (.answer (a := vs) rfl)) fun _ =>
          Mirrors.bind_result_eq (mirrorsResult_pure rfl) hrest
      | scalar s => exact Mirrors.bind_result_eq (mirrorsResult_pure rfl) hrest
    | cells h =>
      exact Mirrors.bind_result_eq (mirrorsResult_lift (mirrors_values h)) fun _ =>
        Mirrors.bind_result_eq (mirrorsResult_pure rfl) hrest
    | missing => exact Mirrors.bind_result_eq (mirrorsResult_pure rfl) hrest

lemma mirrors_logical (f : Bool → Bool → Bool) (h : List.Forall₂ (Operand.Mirrors σ) args args') :
    (logical f args).Mirrors σ Eq (logical f args') :=
  Mirrors.bind (mirrors_connect f h none) fun r r' hr => by
    rw [alike_eq.mp hr]
    rcases r' with _ | _ | _ <;> exact .answer rfl

/-! ### One operand or two -/

lemma mirrors_array (hs : site'.settings = site.settings) (h : o.Mirrors σ o') :
    (site.array o).Mirrors σ Eq (site'.array o') := by
  unfold CallSite.array
  rw [hs]
  exact h.arrayValue _

lemma mirrors_unary (f : Value → Value) (hs : site'.settings = site.settings)
    (h : List.Forall₂ (Operand.Mirrors σ) args args') :
    (unary f site args).Mirrors σ Eq (unary f site' args') := by
  match h with
  | .nil => exact .answer rfl
  | .cons harg .nil => exact (mirrors_array hs harg).bind_eq fun _ => .answer rfl
  | .cons _ (.cons _ _) => exact .answer rfl

lemma mirrors_binary (f : Float → Float → Value)
    (h : List.Forall₂ (Operand.Mirrors σ) args args') :
    (binary f site args).Mirrors σ Eq (binary f site' args') := by
  match h with
  | .nil => exact .answer rfl
  | .cons _ .nil => exact .answer rfl
  | .cons hx (.cons hy .nil) =>
    refine (hx.scalarValue _ _).bind_eq fun v => ?_
    split
    · exact .answer rfl
    · exact (hy.scalarValue _ _).bind_eq fun _ => .answer rfl
  | .cons _ (.cons _ (.cons _ _)) => exact .answer rfl

lemma mirrors_concatenated (h : List.Forall₂ (Operand.Mirrors σ) args args') :
    MirrorsResult σ Eq (concatenated site args) (concatenated site' args') := by
  induction h with
  | nil => exact mirrorsResult_pure rfl
  | cons harg _ ih =>
    exact Mirrors.bind_result_eq (mirrorsResult_lift (harg.scalarValue _ _)) fun _ =>
      Mirrors.bind_result_eq (mirrorsResult_except _) fun _ =>
        Mirrors.bind_result_eq ih fun _ => mirrorsResult_pure rfl

lemma mirrors_concatenate (h : List.Forall₂ (Operand.Mirrors σ) args args') :
    (concatenate site args).Mirrors σ Eq (concatenate site' args') :=
  Mirrors.bind (mirrors_concatenated h) fun _ _ hr => .answer (by rw [alike_eq.mp hr])

lemma dimension_eq (rows : Bool) (h : List.Forall₂ (Operand.Mirrors σ) args args') :
    dimension rows args' = dimension rows args := by
  rcases h with _ | ⟨harg, _ | _⟩
  · rfl
  · cases harg with
    | value | missing => rfl
    | @cells ps h =>
      match ps with
      | [p] =>
        simp [dimension, Reference.singleArea?, Reference.ofCells, Area.single, CellRange.single,
          CellRange.height, CellRange.width]
      | _ :: _ :: _ => rfl
  · simp [dimension]

/-! ### Operands as results -/

lemma mirrors_chosen (h : o.Mirrors σ o') : (chosen o).Mirrors σ (chosen o') := by
  cases h with
  | value v => exact .value v
  | cells h => exact .cells h
  | missing => exact .value _

lemma mirrors_ifThenElse (h : List.Forall₂ (Operand.Mirrors σ) args args') :
    (ifThenElse site args).Mirrors σ (Operand.Mirrors σ) (ifThenElse site' args') := by
  match h with
  | .nil => exact .answer (.value _)
  | .cons hcond hbranches =>
    refine (hcond.scalarValue _ _).bind_eq fun v => ?_
    split
    · exact .answer (.value _)
    · refine .answer (mirrors_chosen ?_)
      match hbranches with
      | .nil => exact .missing
      | .cons hb _ => exact hb
    · refine .answer ?_
      match hbranches with
      | .nil => exact .value _
      | .cons _ .nil => exact .value _
      | .cons _ (.cons hb _) => exact mirrors_chosen hb

lemma mirrors_ifError (h : List.Forall₂ (Operand.Mirrors σ) args args') :
    (ifError site args).Mirrors σ (Operand.Mirrors σ) (ifError site' args') := by
  match h with
  | .nil => exact .answer (.value _)
  | .cons _ .nil => exact .answer (.value _)
  | .cons harg (.cons hfallback .nil) =>
    refine (harg.scalarValue _ _).bind_eq fun v => .answer ?_
    split_ifs
    · exact mirrors_chosen hfallback
    · exact harg
  | .cons _ (.cons _ (.cons _ _)) => exact .answer (.value _)

/-! ### The table -/

/-- A function that does with the images of cells what it does with the cells. -/
def Mirrors (σ : Place → Place) (f : CallSite → List Operand → Query Operand) : Prop :=
  ∀ (site site' : CallSite) args args', site'.settings = site.settings →
    List.Forall₂ (Operand.Mirrors σ) args args' →
    (f site args).Mirrors σ (Operand.Mirrors σ) (f site' args')

lemma Mirrors.of_value {f : CallSite → List Operand → Query Value}
    (h : ∀ (site site' : CallSite) args args', site'.settings = site.settings →
      List.Forall₂ (Operand.Mirrors σ) args args' →
      (f site args).Mirrors σ Eq (f site' args')) :
    Mirrors σ fun site args => do return .value (← f site args) :=
  fun site site' args args' hs hargs =>
    (h site site' args args' hs hargs).bind_eq fun v => .answer (.value v)

lemma Mirrors.of_aggregate (f : Aggregate) :
    Mirrors σ fun _ args => do return .value (← aggregate f args) :=
  .of_value fun _ _ _ _ _ => mirrors_aggregate f

lemma Mirrors.of_count (element single : Value → Bool) :
    Mirrors σ fun _ args => do return .value (← count element single args) :=
  .of_value fun _ _ _ _ _ => mirrors_count element single

lemma Mirrors.of_logical (f : Bool → Bool → Bool) :
    Mirrors σ fun _ args => do return .value (← logical f args) :=
  .of_value fun _ _ _ _ _ => mirrors_logical f

lemma Mirrors.of_unary (f : Value → Value) :
    Mirrors σ fun site args => do return .value (← unary f site args) :=
  .of_value fun _ _ _ _ => mirrors_unary f

lemma Mirrors.of_binary (f : Float → Float → Value) :
    Mirrors σ fun site args => do return .value (← binary f site args) :=
  .of_value fun _ _ _ _ _ => mirrors_binary f

lemma Mirrors.of_constant (v : Value) :
    Mirrors σ fun _ _ => do return .value (← (return v : Query Value)) :=
  .of_value fun _ _ _ _ _ _ => .answer rfl

lemma Mirrors.of_dimension (rows : Bool) :
    Mirrors σ fun _ args => do return .value (← (return dimension rows args : Query Value)) :=
  .of_value fun _ _ _ _ _ h => .answer (dimension_eq rows h).symm

/-- Every function of the table, in its order. -/
lemma mirrors_function {name : String} {f : CallSite → List Operand → Query Operand}
    (h : function? name = some f) : Mirrors σ f := by
  unfold function? at h
  dsimp only at h
  split at h <;> cases h
  · exact .of_aggregate _
  · exact .of_aggregate _
  · exact .of_aggregate _
  · exact .of_aggregate _
  · exact .of_aggregate _
  · exact .of_count _ _
  · exact .of_count _ _
  · exact fun _ _ _ _ _ => mirrors_ifThenElse
  · exact fun _ _ _ _ _ => mirrors_ifError
  · exact .of_unary _
  · exact .of_unary _
  · exact .of_unary _
  · exact .of_unary _
  · exact .of_unary _
  · exact .of_unary _
  · exact .of_unary _
  · exact .of_constant _
  · exact .of_constant _
  · exact .of_constant _
  · exact .of_logical _
  · exact .of_logical _
  · exact .of_unary _
  · exact .of_unary _
  · exact .of_unary _
  · exact .of_unary _
  · exact .of_binary _
  · exact .of_binary _
  · exact .of_unary _
  · exact .of_unary _
  · exact .of_unary _
  · exact .of_value fun _ _ _ _ _ => mirrors_concatenate
  · exact .of_dimension true
  · exact .of_dimension false

/-- The small library sees only the values of cells. -/
theorem mirrors_basic (σ : Place → Place) : Dispatcher.Mirrors σ basic := by
  intro site site' call args args' hs hargs
  unfold basic
  split
  · rename_i f hname
    exact (mirrors_function hname site site' args args' hs hargs).bind fun _ _ ho =>
      .answer (.some ho)
  · exact .answer .none

end Library

end Spreadsheet
