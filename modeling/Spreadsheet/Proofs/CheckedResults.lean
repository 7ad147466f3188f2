import Spreadsheet.Proofs.ArrayLayout
import Spreadsheet.Proofs.ExpressionTree
import Spreadsheet.Proofs.NumberText
import Spreadsheet.Proofs.NumericResults

/-!
Results that are checked.

An operand may be read as a number, a truth value or a text, and not every one can be. What cannot
be read answers with an error, and so does what is computed and is not finite. Here this is put
together for the operators that compute and for every function of the library. A call of any other
function is an unknown name.
-/

namespace Spreadsheet

/-! ### Reading -/

/-- The text spells no number, or only one that is not finite. -/
def Number.SpellsNone (s : String) : Prop :=
  ∀ (p : Spelling) (x : Float), Text.trim s.toList = p.text → ¬ p.Reads x

lemma Number.ofText?_eq_none_iff {s : String} : ofText? s = none ↔ SpellsNone s := by
  rw [Option.eq_none_iff_forall_ne_some]
  constructor
  · exact fun h p x hp hx => h _ (ofText?_of_spelling hp hx)
  · intro h y hy
    obtain ⟨p, x, hp, hx, -⟩ := exists_spelling_of_ofText? hy
    exact h p x hp hx

namespace Value

variable {v : Value} {e : CellError}

lemma toNumber_eq_error_iff : v.toNumber = .error e ↔
    v.leaf = .error e ∨ e = .value ∧ ∃ s, v.leaf = .text s ∧ Number.SpellsNone s := by
  unfold toNumber
  cases v.leaf with
  | text s =>
    simp only [Scalar.toNumber, Scalar.text.injEq, exists_eq_left', ← Number.ofText?_eq_none_iff]
    cases Number.ofText? s <;> simp [eq_comm]
  | _ => simp [Scalar.toNumber]

lemma toBool_eq_error_iff : v.toBool = .error e ↔
    v.leaf = .error e ∨ e = .value ∧ ∃ s, v.leaf = .text s ∧
      Text.sameIgnoringAsciiCase s "TRUE" = false ∧
      Text.sameIgnoringAsciiCase s "FALSE" = false := by
  unfold toBool
  cases v.leaf with
  | text s =>
    simp only [Scalar.toBool, Scalar.text.injEq, exists_eq_left']
    split_ifs with htrue hfalse
    · simp [htrue]
    · simp [hfalse]
    · simp [htrue, hfalse, eq_comm]
  | _ => simp [Scalar.toBool]

lemma toText_eq_error_iff : v.toText = .error e ↔ v.leaf = .error e := by
  unfold toText
  cases v.leaf <;> simp [Scalar.toText]

end Value

/-! ### Operands of aggregates -/

/-- The operand has an error among its cells or elements, or is a single value without a number. -/
def Operand.Spoils (values : Place → Value) : Operand → Prop
  | .reference r => ∃ p ∈ r.cells, (values p).isError
  | .value (.array _ _ elements) => ∃ v ∈ elements, v.isError
  | .value (.scalar s) => ∃ e, s.toNumber = .error e
  | .missing => False

namespace Library

lemma exists_numbersAmong_eq_error_iff {vs : List Value} :
    (∃ e, numbersAmong vs = .error e) ↔ ∃ v ∈ vs, v.isError := by
  unfold numbersAmong
  split
  · rename_i e he
    obtain ⟨v, hv, hve⟩ := List.exists_of_findSome?_eq_some he
    refine ⟨fun _ => ⟨v, hv, ?_⟩, fun _ => ⟨e, rfl⟩⟩
    split at hve
    · rfl
    · cases hve
  · rename_i hnone
    refine ⟨nofun, fun ⟨v, hv, herror⟩ => ?_⟩
    have hv' := List.findSome?_eq_none_iff.mp hnone v hv
    cases v with
    | array => cases herror
    | scalar s => cases s with
      | error e => cases hv'
      | _ => cases herror

/-- The numbers of one operand. -/
def numbersIn (values : Place → Value) : Operand → Except CellError (List Float)
  | .reference r => numbersAmong (r.cells.map values)
  | .value (.array _ _ elements) => numbersAmong elements
  | .value (.scalar s) => s.toNumber.map ([·])
  | .missing => .ok []

lemma exists_numbersIn_eq_error_iff {values : Place → Value} {o : Operand} :
    (∃ e, numbersIn values o = .error e) ↔ o.Spoils values := by
  cases o with
  | missing => exact ⟨nofun, nofun⟩
  | reference r =>
    refine exists_numbersAmong_eq_error_iff.trans ?_
    simp only [List.mem_map, exists_exists_and_eq_and]
    exact Iff.rfl
  | value v => cases v with
    | array => exact exists_numbersAmong_eq_error_iff
    | scalar s =>
      show (∃ e, s.toNumber.map ([·]) = .error e) ↔ ∃ e, s.toNumber = .error e
      cases s.toNumber <;> simp [Except.map]

/-- What comes of the first operand is combined with what comes of the others. -/
lemma eval_combined {α : Type} (h : α → α → α) (here : Except CellError α)
    (rest : ExceptT CellError Query α) (values : Place → Value) :
    (do return h (← here) (← rest) : ExceptT CellError Query α).run.eval values =
      do return h (← here) (← rest.run.eval values) := by
  cases here with
  | error e => rfl
  | ok x =>
    show (rest.run >>= _).eval values = _
    rw [Query.eval_bind]
    cases rest.run.eval values <;> rfl

/-- The operands are read one after the other, up to the first that has an error. -/
lemma eval_numbers_cons (values : Place → Value) (arg : Operand) (args : List Operand) :
    (numbers (arg :: args)).run.eval values = do
      return (← numbersIn values arg) ++ (← (numbers args).run.eval values) := by
  cases arg with
  | missing => exact eval_combined (· ++ ·) (.ok []) (numbers args) values
  | reference r =>
    have hrun : (numbers (.reference r :: args)).run = r.values >>= fun vs =>
        (do return (← numbersAmong vs) ++ (← numbers args) :
          ExceptT CellError Query (List Float)).run := by
      conv_lhs => unfold numbers
      simp only [many?, ExceptT.run_bind, ExceptT.run_monadLift, bind_map_left]
      rfl
    rw [hrun, Query.eval_bind, Reference.values, Reference.eval_mapM_cell]
    exact eval_combined (· ++ ·) _ (numbers args) values
  | value v => cases v with
    | array => exact eval_combined (· ++ ·) _ (numbers args) values
    | scalar s => exact eval_combined (· ++ ·) _ (numbers args) values

/-- An aggregate has no numbers exactly if one of its operands spoils them. -/
theorem exists_numbers_eq_error_iff {args : List Operand} {values : Place → Value} :
    (∃ e, (numbers args).run.eval values = .error e) ↔ ∃ o ∈ args, o.Spoils values := by
  induction args with
  | nil => simp [numbers]
  | cons arg args ih =>
    rw [List.exists_mem_cons_iff, ← ih, ← exists_numbersIn_eq_error_iff, eval_numbers_cons]
    cases numbersIn values arg with
    | error e => simp [bind, Except.bind]
    | ok xs => cases (numbers args).run.eval values <;> simp [bind, Except.bind, pure, Except.pure]

end Library

/-! ### Operands of logical functions -/

/-- What an operand brings to a logical function. In cells and arrays, texts and blanks do not
count. -/
def Operand.truths (values : Place → Value) : Operand → List Value
  | .reference r => (r.cells.map values).filter Library.isLogical
  | .value (.array _ _ elements) => elements.filter Library.isLogical
  | .value (.scalar s) => [s]
  | .missing => []

namespace Library

section
variable (f : Bool → Bool → Bool)

/-- One more value is connected with what was found so far. -/
def connectOne (acc : Option Bool) (v : Value) : Except CellError (Option Bool) :=
  v.toBool.map fun b => some (acc.elim b (f · b))

lemma foldlM_connectOne_eq_error_iff (vs : List Value) (acc : Option Bool) :
    (∃ e, vs.foldlM (connectOne f) acc = .error e) ↔ ∃ v ∈ vs, ∃ e, v.toBool = .error e := by
  induction vs generalizing acc with
  | nil => simp [pure, Except.pure]
  | cons v vs ih =>
    rw [List.foldlM_cons, List.exists_mem_cons_iff, connectOne]
    cases hv : v.toBool with
    | error e => simp [Except.map, bind, Except.bind]
    | ok b => simpa [Except.map, bind, Except.bind] using ih (some (acc.elim b (f · b)))

lemma foldlM_connectOne_eq_none_iff (vs : List Value) (acc : Option Bool) :
    vs.foldlM (connectOne f) acc = .ok none ↔ acc = none ∧ vs = [] := by
  induction vs generalizing acc with
  | nil => simp [pure, Except.pure]
  | cons v vs ih =>
    rw [List.foldlM_cons, connectOne]
    cases hv : v.toBool with
    | error e => simp [Except.map, bind, Except.bind]
    | ok b => exact iff_of_false (fun h => nomatch ((ih _).mp h).1) nofun

/-- The values of one operand are connected before the next is read. -/
lemma eval_connectAll (values : Place → Value)
    (rest : Option Bool → ExceptT CellError Query (Option Bool)) (vs : List Value)
    (acc : Option Bool) :
    (do rest (← vs.foldlM (fun acc v => do
          let b ← v.toBool
          return some (acc.elim b (f · b))) acc) :
      ExceptT CellError Query (Option Bool)).run.eval values =
        vs.foldlM (connectOne f) acc >>= fun acc => (rest acc).run.eval values := by
  induction vs generalizing acc with
  | nil => rfl
  | cons v vs ih =>
    rw [List.foldlM_cons, List.foldlM_cons, connectOne]
    cases v.toBool with
    | error e => rfl
    | ok b => exact ih (some (acc.elim b (f · b)))

lemma eval_connect (values : Place → Value) (args : List Operand) (acc : Option Bool) :
    (connect f args acc).run.eval values =
      (args.flatMap (Operand.truths values)).foldlM (connectOne f) acc := by
  induction args generalizing acc with
  | nil => rfl
  | cons arg args ih =>
    rw [List.flatMap_cons, List.foldlM_append]
    simp only [← ih]
    cases arg with
    | missing => exact eval_connectAll f values (connect f args) [] acc
    | reference r =>
      have hrun : (connect f (.reference r :: args) acc).run = r.values >>= fun vs =>
          (do connect f args (← (vs.filter isLogical).foldlM (fun acc v => do
                let b ← v.toBool
                return some (acc.elim b (f · b))) acc) :
            ExceptT CellError Query (Option Bool)).run := by
        conv_lhs => unfold connect
        simp only [many?, ExceptT.run_bind, ExceptT.run_monadLift, bind_map_left]
        rfl
      rw [hrun, Query.eval_bind, Reference.values, Reference.eval_mapM_cell]
      exact eval_connectAll f values (connect f args) _ acc
    | value v => cases v with
      | array => exact eval_connectAll f values (connect f args) _ acc
      | scalar s => exact eval_connectAll f values (connect f args) [s] acc

end

/-- Texts are put together from what each operand shows. -/
lemma exists_concatenated_eq_error_iff {site : CallSite} {args : List Operand}
    {values : Place → Value} : (∃ e, (concatenated site args).run.eval values = .error e) ↔
      ∃ o ∈ args, ∃ e, ((site.scalar o).eval values).toText = .error e := by
  induction args with
  | nil => simp [concatenated]
  | cons arg args ih =>
    have hrun : (concatenated site (arg :: args)).run = site.scalar arg >>= fun v =>
        (do return (← v.toText) ++ (← concatenated site args) :
          ExceptT CellError Query String).run := by
      conv_lhs => unfold concatenated
      simp only [ExceptT.run_bind, ExceptT.run_monadLift, bind_map_left]
      rfl
    rw [List.exists_mem_cons_iff, ← ih, hrun, Query.eval_bind, eval_combined (· ++ ·)]
    cases ((site.scalar arg).eval values).toText with
    | error e => simp [bind, Except.bind]
    | ok x =>
      cases (concatenated site args).run.eval values <;>
        simp [bind, Except.bind, pure, Except.pure]

/-! ### The library -/

/-- What is made of a value is no error unless the value could not be read. -/
def Passes {α : Type} : Except CellError α → Value → Prop
  | .ok _, v => v.isError = false
  | .error e, v => v = .error e

/-- The function connects truth values, of which there must be one. -/
def Connects (f : Function) : Prop :=
  ∀ site args values, ∃ v : Value, (f site args).eval values = .value v ∧
    (v.isError ↔ (∃ u ∈ args.flatMap (Operand.truths values), ∃ e, u.toBool = .error e) ∨
      args.flatMap (Operand.truths values) = [])

/-- The function puts texts together. -/
def Concatenates (f : Function) : Prop :=
  ∀ site args values, ∃ v : Value, (f site args).eval values = .value v ∧
    (v.isError ↔ ∃ o ∈ args, ∃ e, ((site.scalar o).eval values).toText = .error e)

/-- The function decides by its first operand, which must be there. -/
def Decides (f : Function) : Prop :=
  (∀ site, f site [] = return .error .value) ∧
    ∀ site condition branches values e, ((site.scalar condition).eval values).toBool = .error e →
      (f site (condition :: branches)).eval values = .error e

/-- What the function of a name has to be. -/
def Meets (f : Function) : String → Prop
  | "SUM" => Aggregates (.total sumOf) f
  | "PRODUCT" => Aggregates (.total fun xs => xs.foldl (· * ·) 1) f
  | "AVERAGE" => Aggregates mean f
  | "MIN" => Aggregates (chosenOf Number.smaller) f
  | "MAX" => Aggregates (chosenOf Number.larger) f
  | "COUNT" | "COUNTA" => Counts f
  | "IF" => Decides f
  | "IFERROR" => ∀ site args, args.length ≠ 2 → f site args = return .error .value
  | "ISERROR" | "ISERR" | "ISNA" | "ISBLANK" | "ISNUMBER" | "ISTEXT" =>
    Elementwise (fun _ v => ∃ b, v = .bool b) f
  | "ERROR.TYPE" => Maps .ok errorType f
  | "NA" => ∀ site args, f site args = return .error .notAvailable
  | "TRUE" | "FALSE" => ∃ b, ∀ site args, f site args = return .value (.bool b)
  | "AND" | "OR" => Connects f
  | "NOT" => Elementwise (fun v => Passes v.toBool) f
  | "ABS" => Maps Value.toNumber (.total Float.abs) f
  | "INT" => Maps Value.toNumber (.total Float.floor) f
  | "SQRT" => Maps Value.toNumber root f
  | "ROUND" => Joins rounded f
  | "MOD" => Joins remainder f
  | "LEN" => Maps Value.toText (.total fun s => ofCount s.length) f
  | "UPPER" | "LOWER" => Elementwise (fun v => Passes v.toText) f
  | "CONCATENATE" => Concatenates f
  | "ROWS" => Measures (sides true) f
  | "COLUMNS" => Measures (sides false) f
  | _ => False

/-- The functions of the library. -/
def names : List String :=
  ["SUM", "PRODUCT", "AVERAGE", "MIN", "MAX", "COUNT", "COUNTA", "IF", "IFERROR", "ISERROR",
    "ISERR", "ISNA", "ISBLANK", "ISNUMBER", "ISTEXT", "ERROR.TYPE", "NA", "TRUE", "FALSE", "AND",
    "OR", "NOT", "ABS", "INT", "SQRT", "ROUND", "MOD", "LEN", "UPPER", "LOWER", "CONCATENATE",
    "ROWS", "COLUMNS"]

lemma passes_negation (v : Value) : Passes v.toBool (negation v) := by
  unfold negation
  cases v.toBool with
  | ok b => exact rfl
  | error e => exact rfl

lemma passes_onText (f : String → String) (v : Value) :
    Passes v.toText (onText (fun s => .text (f s)) v) := by
  unfold onText
  cases v.toText with
  | ok s => exact rfl
  | error e => exact rfl

lemma connects (h : Bool → Bool → Bool) :
    Connects fun _ args => do return .value (← logical h args) := by
  refine fun site args values => ⟨(logical h args).eval values, Query.eval_bind .., ?_⟩
  rw [← foldlM_connectOne_eq_error_iff h _ none, logical, Query.eval_bind, eval_connect]
  generalize hvs : args.flatMap (Operand.truths values) = vs
  have hnone := foldlM_connectOne_eq_none_iff h vs none
  cases hr : vs.foldlM (connectOne h) none with
  | error e => exact iff_of_true rfl (.inl ⟨e, rfl⟩)
  | ok acc => cases acc with
    | none => exact iff_of_true rfl (.inr (hnone.mp hr).2)
    | some b =>
      refine iff_of_false Bool.false_ne_true ?_
      rintro (⟨e, he⟩ | rfl)
      · cases he
      · cases hr

lemma concatenates : Concatenates fun site args => do return .value (← concatenate site args) := by
  refine fun site args values => ⟨(concatenate site args).eval values, Query.eval_bind .., ?_⟩
  rw [← exists_concatenated_eq_error_iff, concatenate, Query.eval_bind]
  cases (concatenated site args).run.eval values with
  | error e => exact iff_of_true rfl ⟨e, rfl⟩
  | ok s => exact iff_of_false Bool.false_ne_true nofun

lemma decides : Decides ifThenElse := by
  refine ⟨fun site => rfl, fun site condition branches values e h => ?_⟩
  rw [ifThenElse, Query.eval_bind, h]
  rfl

lemma lacksOperands (site : CallSite) (args : List Operand) (h : args.length ≠ 2) :
    ifError site args = return .error .value := by
  unfold ifError
  split
  · exact absurd rfl h
  · rfl

/-- Each function is in the library, and is what it has to be. -/
theorem meets_function? {name : String} (h : name ∈ names) :
    ∃ f, function? name = some f ∧ Meets f name := by
  have htest (p : Value → Bool) : Elementwise (fun _ v => ∃ b, v = .bool b) fun site args => do
      return .value (← unary (fun v => .bool (p v)) site args) := elementwise fun v => ⟨p v, rfl⟩
  simp only [names, List.mem_cons, List.not_mem_nil, or_false] at h
  rcases h with rfl | rfl | rfl | rfl | rfl | rfl | rfl | rfl | rfl | rfl | rfl | rfl | rfl | rfl |
    rfl | rfl | rfl | rfl | rfl | rfl | rfl | rfl | rfl | rfl | rfl | rfl | rfl | rfl | rfl | rfl |
    rfl | rfl | rfl
  · exact ⟨_, rfl, aggregates fun _ => Calculation.shows_total _ _⟩
  · exact ⟨_, rfl, aggregates fun _ => Calculation.shows_total _ _⟩
  · exact ⟨_, rfl, aggregates shows_average⟩
  · exact ⟨_, rfl, aggregates (shows_reduced _)⟩
  · exact ⟨_, rfl, aggregates (shows_reduced _)⟩
  · exact ⟨_, rfl, counts _ _⟩
  · exact ⟨_, rfl, counts _ _⟩
  · exact ⟨_, rfl, decides⟩
  · exact ⟨_, rfl, lacksOperands⟩
  · exact ⟨_, rfl, htest _⟩
  · exact ⟨_, rfl, htest _⟩
  · exact ⟨_, rfl, htest _⟩
  · exact ⟨_, rfl, htest _⟩
  · exact ⟨_, rfl, htest _⟩
  · exact ⟨_, rfl, htest _⟩
  · exact ⟨_, rfl, elementwise shows_errorType⟩
  · exact ⟨_, rfl, fun _ _ => rfl⟩
  · exact ⟨_, rfl, true, fun _ _ => rfl⟩
  · exact ⟨_, rfl, false, fun _ _ => rfl⟩
  · exact ⟨_, rfl, connects _⟩
  · exact ⟨_, rfl, connects _⟩
  · exact ⟨_, rfl, elementwise passes_negation⟩
  · exact ⟨_, rfl, elementwise (answers_onNumber fun _ => Calculation.shows_total _ _)⟩
  · exact ⟨_, rfl, elementwise (answers_onNumber fun _ => Calculation.shows_total _ _)⟩
  · exact ⟨_, rfl, elementwise (answers_onNumber shows_squareRoot)⟩
  · exact ⟨_, rfl, joins fun _ _ => Calculation.shows_total _ _⟩
  · exact ⟨_, rfl, joins shows_modulo⟩
  · exact ⟨_, rfl, elementwise answers_length⟩
  · exact ⟨_, rfl, elementwise (passes_onText _)⟩
  · exact ⟨_, rfl, elementwise (passes_onText _)⟩
  · exact ⟨_, rfl, concatenates⟩
  · exact ⟨_, rfl, measures true⟩
  · exact ⟨_, rfl, measures false⟩

/-- There are no other functions. -/
lemma function?_eq_none {name : String} (h : name ∉ names) : function? name = none := by
  unfold function?
  split <;> first | rfl | exact absurd (by decide) h

end Library

/-! ### Everything together -/

namespace Evaluate

variable {functions : Dispatcher} {body : BodyEvaluator} {site : CallSite} {stack : List Item}
  {index : Nat}

/-- A token that does nothing but a query on operands puts the result on the stack. -/
lemma step_of_query {items : List Item} {t : Token} {q : Query Operand}
    (hcount : t.operandCount? = some items.length)
    (h : tokenResult functions body site index items t =
      ExceptT.lift (some <$> Item.operand <$> q)) :
    step functions body site (items.reverse ++ stack) index t = do
      return .operand (← ExceptT.lift q) :: stack := by
  rw [step_of_items hcount, h]
  refine ExceptT.ext ?_
  simp [ExceptT.run_lift, Except.map]

lemma dispatch_basic {call : FunctionCall} {f : Library.Function}
    (h : Library.function? (Library.canonicalName call.name) = some f) (args : List Item) :
    dispatch Library.basic site call args = do
      return .operand (← f site (args.map Item.toOperand)) := by
  rw [dispatch, Library.basic, h]
  simp only [bind_assoc]
  rfl

lemma dispatch_basic_of_none {call : FunctionCall}
    (h : Library.function? (Library.canonicalName call.name) = none) (args : List Item) :
    dispatch Library.basic site call args = return .operand (.error .name) := by
  rw [dispatch, Library.basic, h]
  rfl

end Evaluate

/-- What is computed is checked. Each result is the one in double precision, if that is finite, and
else an error, as it is for operands that are refused or cannot be read. -/
structure ResultsChecked : Prop where
  arithmetic : ∀ op f, op.onFloats? = some f → ∃ g : Value → Value → Value,
    (∀ v w, (op.calculation f).Answers (v.toNumbers w) (g v w)) ∧
      ∀ functions body site left right stack index,
        Evaluate.step functions body site (right :: left :: stack) index (.binary op) = do
          let o ← ExceptT.lift do return .value (Value.broadcast g
            (← site.array left.toOperand) (← site.array right.toOperand))
          return .operand o :: stack
  /-- A sign is not checked, and need not be where its operand is finite. -/
  sign : ∀ op, op ≠ .plus → ∃ g : Value → Value,
    (∀ v, (∀ x, v.toNumber = .ok x → x.isFinite) → op.calculation.Answers v.toNumber (g v)) ∧
      ∀ functions body site item stack index,
        Evaluate.step functions body site (item :: stack) index (.unary op) = do
          let o ← ExceptT.lift do return .value ((← site.array item.toOperand).mapElements g)
          return .operand o :: stack
  function : ∀ name ∈ Library.names, ∃ f, Library.Meets f name ∧
    ∀ site call args, Library.canonicalName call.name = name →
      Evaluate.dispatch Library.basic site call args = do
        return .operand (← f site (args.map Evaluate.Item.toOperand))
  noFunction : ∀ site call args, Library.canonicalName call.name ∉ Library.names →
    Evaluate.dispatch Library.basic site call args = return .operand (.error .name)
  noLibrary : ∀ site call args,
    Evaluate.dispatch Library.empty site call args = return .operand (.error .name)
  /-- Too few or too many arguments. -/
  wrongCount : ∀ functions site id f args, FunctionTable.lookup? id = some f →
    args.length < f.minArgs ∨ f.maxArgs < args.length →
      Evaluate.callBuiltin functions site id args = return .ofValue (.error .value)
  noNumber : ∀ (v : Value) e, v.toNumber = .error e ↔
    v.leaf = .error e ∨ e = .value ∧ ∃ s, v.leaf = .text s ∧ Number.SpellsNone s
  noTruth : ∀ (v : Value) e, v.toBool = .error e ↔
    v.leaf = .error e ∨ e = .value ∧ ∃ s, v.leaf = .text s ∧
      Text.sameIgnoringAsciiCase s "TRUE" = false ∧ Text.sameIgnoringAsciiCase s "FALSE" = false
  noText : ∀ (v : Value) e, v.toText = .error e ↔ v.leaf = .error e
  /-- The reading of the operands of an aggregate. -/
  noNumbers : ∀ args values, (∃ e, (Library.numbers args).run.eval values = .error e) ↔
    ∃ o ∈ args, o.Spoils values

theorem resultsChecked : ResultsChecked where
  arithmetic op f h := by
    have hop := Evaluate.isArithmetic_of_onFloats? h
    refine ⟨Evaluate.binaryElement op 0, Evaluate.answers_binaryElement h 0,
      fun functions body site left right stack index => ?_⟩
    -- equality up to a fraction is of no use to arithmetic
    have hepsilon : Evaluate.binaryElement op site.settings.epsilon =
        Evaluate.binaryElement op 0 := by
      funext v w
      rw [Evaluate.binaryElement_of_isArithmetic hop, Evaluate.binaryElement_of_isArithmetic hop]
    have hno : op.isReferenceOperator = false := by cases op <;> first | rfl | cases hop
    have hcount : (Token.binary op).operandCount? = some [left, right].length := rfl
    refine (Evaluate.step_of_query hcount rfl).trans ?_
    rw [Evaluate.binary, if_neg (by simp [hno]), hepsilon]
    rfl
  sign op h := by
    refine ⟨Evaluate.unaryElement op, fun _ => answers_unaryElement op,
      fun functions body site item stack index => ?_⟩
    have hcount : (Token.unary op).operandCount? = some [item].length := rfl
    refine (Evaluate.step_of_query hcount rfl).trans ?_
    rw [Evaluate.unary, if_neg h]
    rfl
  function name h := by
    obtain ⟨f, hf, hmeets⟩ := Library.meets_function? h
    exact ⟨f, hmeets, fun site call args hname => Evaluate.dispatch_basic (hname ▸ hf) args⟩
  noFunction site call args h :=
    Evaluate.dispatch_basic_of_none (Library.function?_eq_none h) args
  noLibrary _ _ _ := rfl
  wrongCount functions site id f args hf h := by
    rw [Evaluate.callBuiltin, hf]
    exact if_pos h
  noNumber _ _ := Value.toNumber_eq_error_iff
  noTruth _ _ := Value.toBool_eq_error_iff
  noText _ _ := Value.toText_eq_error_iff
  noNumbers _ _ := Library.exists_numbers_eq_error_iff

end Spreadsheet
