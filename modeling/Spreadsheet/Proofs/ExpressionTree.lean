import Mathlib.Data.List.FinRange
import Spreadsheet.Proofs.StackDepth

/-!
Formulas as trees.

A tree is evaluated from its leaves upwards, each operator on the results of its operands from left
to right. Written in postfix order, with notes anywhere between the tokens, it is worked off on the
stack to the same result, and the run puts just this one entry on whatever lies there already.
-/

namespace Spreadsheet

open Query

/-! ### Trees -/

inductive Literal
  | missing
  | text (s : StoredText)
  | error (e : CellError)
  | bool (raw : UInt8)
  | int (n : UInt16)
  | num (bits : UInt64)
  | array (cls : TokenClass) (reserved : Vector UInt8 7) (value : ArrayConstant)

namespace Literal

def token : Literal → Token
  | missing => .missing
  | text s => .text s
  | error e => .error e
  | bool raw => .bool raw
  | int n => .int n
  | num bits => .num bits
  | array cls reserved value => .array cls reserved value

/-- An array that is too large is an error. -/
def operand (maxArrayCells : Nat) : Literal → Operand
  | missing => .missing
  | text s => .value (.text s.text)
  | error e => .error e
  | bool raw => .value (.bool (raw ≠ 0))
  | int n => .value (.number (Float.ofNat n.toNat))
  | num bits => .value (.number (Float.ofBits bits))
  | array _ _ a => if a.rows * a.cols ≤ maxArrayCells then .value a.value else .error .number

end Literal

/-- A reference to cells, and the form that it is wanted in. -/
structure CellReference where
  token : Token
  cls : TokenClass
  isReference : token.isReference
  isName : token.isName = false
  class_eq : token.class? = some cls

/-- What a reference stands for, seen from where the formula is evaluated. -/
def CellReference.operand (r : CellReference) (site : CallSite) : Operand :=
  (site.surroundings.resolve? site.settings.limits site.here r.token).get
    (site.surroundings.isSome_resolve? site.settings.limits site.here r.isReference r.isName)

/-- A name of the workbook itself, or one that is reached through a link. -/
inductive NameUse
  | defined (cls : TokenClass) (index reserved : UInt16)
  | linked (cls : TokenClass) (link index reserved : UInt16)

namespace NameUse

def token : NameUse → Token
  | defined cls index reserved => .name cls index reserved
  | linked cls link index reserved => .nameX cls link index reserved

def cls : NameUse → TokenClass
  | defined cls _ _ | linked cls _ _ _ => cls

def meaning (s : Surroundings) : NameUse → NameMeaning
  | defined _ index _ => s.definedMeaning index
  | linked _ link index _ => s.linkedMeaning link index

/-- The result of the name's formula. A name without one reads as an unknown name. -/
def eval (body : Evaluate.BodyEvaluator) (site : CallSite) (n : NameUse) :
    ExceptT EvalError Query Operand :=
  match n.meaning site.surroundings with
  | .formula tokens => do ExceptT.lift (Evaluate.applyClass site n.cls (← body tokens))
  | _ => return .error .name

end NameUse

/-- The trees of formulas. A call says how many arguments there are, or the function table does. -/
inductive Expr
  | literal (l : Literal)
  | reference (r : CellReference)
  | name (n : NameUse)
  | unary (op : UnaryOp) (e : Expr)
  | binary (op : BinaryOp) (l r : Expr)
  | sum (data : UInt16) (e : Expr)
  | call (cls : TokenClass) (id : UInt16) (n : Nat)
      (arity : FunctionTable.fixedArity? id = some n) (args : Fin n → Expr)
  | callWith (cls : TokenClass) (argc : UInt8) (prompt : Bool) (id : UInt16) (command : Bool)
      (args : Fin argc.toNat → Expr)

/-! ### Evaluation -/

/-- A function of the library applied to operands. -/
def callLibrary (functions : Dispatcher) (site : CallSite) (call : FunctionCall)
    (operands : List Operand) : Query Operand := do
  return (← functions site call operands).getD (.error .name)

/-- A function of the table applied to operands. -/
def callById (functions : Dispatcher) (site : CallSite) (id : UInt16) (operands : List Operand) :
    Query Operand :=
  match FunctionTable.lookup? id with
  | none => return .error .name
  | some f =>
    if f.minArgs ≤ operands.length ∧ operands.length ≤ f.maxArgs then
      callLibrary functions site ⟨id, f.name⟩ operands
    else return .error .value

/-- A function applied to operands, the first of which should name it. If it does not, its error is
the result. -/
def callByName (functions : Dispatcher) (site : CallSite) (function? : Option String) :
    List Operand → Query Operand
  | [] => return .error .value
  | first :: rest => match function?, first with
    | some f, _ => callLibrary functions site ⟨FunctionTable.userDefined, f⟩ rest
    | none, .error e => return .error e
    | none, _ => return .error .name

namespace Expr

/-- The function that a tree names, if it is a name without a formula. -/
def function? (s : Surroundings) : Expr → Option String
  | name n => match n.meaning s with
    | .function f => some f
    | _ => none
  | _ => none

/-- The result of a tree, from the results of its branches. -/
def eval (functions : Dispatcher) (body : Evaluate.BodyEvaluator) (site : CallSite) :
    Expr → ExceptT EvalError Query Operand
  | literal l => return l.operand site.settings.maxArrayCells
  | reference r => ExceptT.lift (Evaluate.applyClass site r.cls (r.operand site))
  | name n => n.eval body site
  | unary op e => do
    let o ← e.eval functions body site
    ExceptT.lift (Evaluate.unary site op o)
  | binary op l r => do
    let left ← l.eval functions body site
    let right ← r.eval functions body site
    ExceptT.lift (Evaluate.binary site op left right)
  | sum _ e => do
    let o ← e.eval functions body site
    ExceptT.lift (callById functions site FunctionTable.sum [o])
  | call _ id n _ args => do
    let operands ← (List.finRange n).mapM fun i => (args i).eval functions body site
    ExceptT.lift (callById functions site id operands)
  | callWith _ argc _ id _ args => do
    let operands ← (List.finRange argc.toNat).mapM fun i => (args i).eval functions body site
    if id = FunctionTable.userDefined then
      let function? := (List.ofFn args).head?.bind (·.function? site.surroundings)
      ExceptT.lift (callByName functions site function? operands)
    else ExceptT.lift (callById functions site id operands)

/-- The entry of the stack that stands for a tree. -/
def item (functions : Dispatcher) (body : Evaluate.BodyEvaluator) (site : CallSite) (e : Expr) :
    ExceptT EvalError Query Evaluate.Item :=
  match e.function? site.surroundings with
  | some f => return .callee f
  | none => .operand <$> e.eval functions body site

/-- The tokens of a tree in postfix order. -/
def tokens : Expr → List Token
  | literal l => [l.token]
  | reference r => [r.token]
  | name n => [n.token]
  | unary op e => e.tokens ++ [.unary op]
  | binary op l r => l.tokens ++ r.tokens ++ [.binary op]
  | sum data e => e.tokens ++ [.attr (.sum data)]
  | call cls id n _ args => (List.finRange n).flatMap (fun i => (args i).tokens) ++ [.func cls id]
  | callWith cls argc prompt id command args =>
    (List.finRange argc.toNat).flatMap (fun i => (args i).tokens) ++
      [.funcVar cls argc prompt id command]

end Expr

/-! ### Steps -/

namespace Query

variable {α β γ ε : Type}

lemma lift_map (f : α → β) (q : Query α) :
    (ExceptT.lift (f <$> q) : ExceptT ε Query β) = f <$> ExceptT.lift q := by
  refine ExceptT.ext ?_
  simp only [ExceptT.run_lift, ExceptT.run_map, Functor.map_map]
  rfl

lemma mapM_bind_congr {as : List α} {f : α → ExceptT ε Query β}
    {g g' : List β → ExceptT ε Query γ} (h : ∀ bs, bs.length = as.length → g bs = g' bs) :
    as.mapM f >>= g = as.mapM f >>= g' := by
  induction as generalizing g g' with
  | nil => simpa using h [] rfl
  | cons a as ih =>
    simp only [List.mapM_cons, LawfulMonad.bind_assoc, pure_bind]
    refine bind_congr fun b => ih fun bs hbs => h (b :: bs) ?_
    rw [List.length_cons, List.length_cons, hbs]

end Query

namespace Evaluate

variable {functions : Dispatcher} {body : BodyEvaluator} {site : CallSite} {index : Nat}
  {stack items : List Item} {t : Token}

/-- The steps of a run of tokens that starts at an index. -/
def steps (functions : Dispatcher) (body : BodyEvaluator) (site : CallSite) (index : Nat)
    (stack : List Item) (tokens : List Token) : ExceptT EvalError Query (List Item) :=
  (tokens.zipIdx index).foldlM (fun stack (t, i) => step functions body site stack i t) stack

lemma steps_cons (tokens : List Token) :
    steps functions body site index stack (t :: tokens) =
      step functions body site stack index t >>= fun stack =>
        steps functions body site (index + 1) stack tokens := by
  unfold steps
  rw [List.zipIdx_cons, List.foldlM_cons]

lemma steps_append (tokens tokens' : List Token) :
    steps functions body site index stack (tokens ++ tokens') =
      steps functions body site index stack tokens >>= fun stack =>
        steps functions body site (index + tokens.length) stack tokens' := by
  unfold steps
  rw [List.zipIdx_append, List.foldlM_append]

/-- A token that finds its operands on the stack replaces them by its result. -/
lemma step_of_items (h : t.operandCount? = some items.length) :
    step functions body site (items.reverse ++ stack) index t =
      (fun result => result.toList ++ stack) <$>
        tokenResult functions body site index items t := by
  have hlt : ¬ (items.reverse ++ stack).length < items.length := by simp
  have htake : ((items.reverse ++ stack).take items.length).reverse = items := by
    rw [← List.length_reverse, List.take_left, List.reverse_reverse]
  have hdrop : (items.reverse ++ stack).drop items.length = stack := by
    rw [← List.length_reverse, List.drop_left]
  unfold step
  rw [h]
  dsimp only
  rw [if_neg hlt, htake, hdrop, map_eq_pure_bind]

lemma step_of_isControl (h : t.isControl) :
    step functions body site stack index t = pure stack := by
  cases t with
  | attr a => cases a <;> first | rfl | cases h
  | paren => rfl
  | memory => rfl
  | _ => cases h

lemma steps_of_isControl {tokens : List Token} (h : ∀ t ∈ tokens, t.isControl) :
    steps functions body site index stack tokens = pure stack := by
  induction tokens generalizing index with
  | nil => rfl
  | cons t tokens ih =>
    rw [List.forall_mem_cons] at h
    rw [steps_cons, step_of_isControl h.1, pure_bind]
    exact ih h.2

end Evaluate

/-! ### Trees on the stack -/

section
open Evaluate

variable {functions : Dispatcher} {body : BodyEvaluator} {site : CallSite}

lemma dispatch_eq (call : FunctionCall) (items : List Item) :
    dispatch functions site call items =
      Item.operand <$> callLibrary functions site call (items.map Item.toOperand) := by
  unfold dispatch callLibrary
  rw [map_bind]
  refine bind_congr fun o => ?_
  cases o <;> rfl

lemma callBuiltin_eq (id : UInt16) (items : List Item) :
    callBuiltin functions site id items =
      Item.operand <$> callById functions site id (items.map Item.toOperand) := by
  unfold callBuiltin callById
  rw [List.length_map]
  rcases FunctionTable.lookup? id with _ | f
  · rfl
  · dsimp only
    rcases Decidable.em (f.minArgs ≤ items.length ∧ items.length ≤ f.maxArgs) with h | h
    · rw [if_pos h, if_neg (by omega), dispatch_eq]
    · rw [if_neg h, if_pos (by omega)]
      rfl

namespace Expr

lemma function?_eq_some_iff {s : Surroundings} {e : Expr} {f : String} :
    e.function? s = some f ↔ ∃ n, e = .name n ∧ n.meaning s = .function f := by
  cases e with
  | name n =>
    unfold function?
    dsimp only
    rcases h : n.meaning s <;> simp [h]
  | _ => exact ⟨nofun, fun ⟨_, h, _⟩ => nomatch h⟩

lemma item_of_none {e : Expr} (h : e.function? site.surroundings = none) :
    e.item functions body site = Item.operand <$> e.eval functions body site := by
  unfold item
  rw [h]

lemma item_of_some {e : Expr} {f : String} (h : e.function? site.surroundings = some f) :
    e.item functions body site = pure (.callee f) := by
  unfold item
  rw [h]

lemma eval_of_some {e : Expr} {f : String} (h : e.function? site.surroundings = some f) :
    e.eval functions body site = pure (.error .name) := by
  obtain ⟨n, rfl, hn⟩ := function?_eq_some_iff.mp h
  unfold eval NameUse.eval
  rw [hn]

lemma toOperand_item (e : Expr) :
    Item.toOperand <$> e.item functions body site = e.eval functions body site := by
  rcases h : e.function? site.surroundings with _ | f
  · rw [item_of_none h, Functor.map_map]
    exact id_map _
  · rw [item_of_some h, eval_of_some h]
    rfl

lemma mapM_toOperand_item (es : List Expr) :
    List.map Item.toOperand <$> es.mapM (item functions body site) =
      es.mapM (eval functions body site) := by
  induction es with
  | nil => rfl
  | cons e es ih =>
    rw [List.mapM_cons, List.mapM_cons, ← toOperand_item, ← ih]
    simp only [map_bind, map_pure, bind_map_left, List.map_cons]

/-- Wherever the tokens of a tree are worked off, notes between them included, they put the entry
for the tree on the stack. -/
def Pushes (functions : Dispatcher) (body : BodyEvaluator) (site : CallSite) (e : Expr) : Prop :=
  ∀ (index : Nat) (stack : List Item) (tokens : List Token),
    tokens.filter (!·.isControl) = e.tokens →
      steps functions body site index stack tokens =
        (fun i => i :: stack) <$> e.item functions body site

variable {e : Expr} {t : Token}

lemma steps_branches {es : List Expr} (h : ∀ e ∈ es, e.Pushes functions body site) {index : Nat}
    {stack : List Item} {tokens : List Token}
    (htokens : tokens.filter (!·.isControl) = es.flatMap Expr.tokens) :
    steps functions body site index stack tokens =
      (fun items => items.reverse ++ stack) <$> es.mapM (item functions body site) := by
  induction es generalizing index stack tokens with
  | nil =>
    rw [List.flatMap_nil, List.filter_eq_nil_iff] at htokens
    exact steps_of_isControl fun t ht => by simpa using htokens t ht
  | cons e es ih =>
    rw [List.forall_mem_cons] at h
    rw [List.flatMap_cons, List.filter_eq_append_iff] at htokens
    obtain ⟨front, back, rfl, hfront, hback⟩ := htokens
    rw [steps_append, h.1 _ _ _ hfront, List.mapM_cons, bind_map_left, map_bind]
    refine bind_congr fun i => ?_
    rw [ih h.2 hback, map_bind]
    simp only [map_pure, List.reverse_cons, List.append_assoc, List.singleton_append]
    exact map_eq_pure_bind _ _

/-- An operator takes the entries of its branches from the stack. -/
lemma pushes_of_operator (es : List Expr) {result : List Item → ExceptT EvalError Query Item}
    (h : ∀ e ∈ es, e.Pushes functions body site)
    (htokens : e.tokens = es.flatMap Expr.tokens ++ [t])
    (hcount : t.operandCount? = some es.length)
    (hresult : ∀ index items, items.length = es.length →
      tokenResult functions body site index items t = some <$> result items)
    (hitem : es.mapM (item functions body site) >>= result = e.item functions body site) :
    e.Pushes functions body site := by
  intro index stack tokens hfilter
  rw [htokens, List.filter_eq_append_iff] at hfilter
  obtain ⟨front, back, rfl, hfront, hback⟩ := hfilter
  obtain ⟨notes, notes', rfl, hnotes, -, hnotes'⟩ := List.filter_eq_cons_iff.mp hback
  have hnone : ∀ l : List Token, (∀ x ∈ l, ¬ (!x.isControl) = true) → ∀ x ∈ l, x.isControl :=
    fun l hl x hx => by simpa using hl x hx
  have hlast : ∀ index stack,
      steps functions body site index stack notes' = pure stack :=
    fun index stack => steps_of_isControl (hnone _ (List.filter_eq_nil_iff.mp hnotes'))
  rw [← hitem, steps_append, steps_branches h hfront, bind_map_left, map_bind]
  refine mapM_bind_congr fun items hitems => ?_
  rw [steps_append, steps_of_isControl (hnone _ hnotes), pure_bind, steps_cons,
    step_of_items (hitems ▸ hcount), hresult _ _ hitems]
  simp only [hlast, Functor.map_map, bind_pure]
  rfl

/-- An operator on operands, applied to the results of its branches. -/
lemma pushes_of_operation (es : List Expr) (f : List Operand → Query Operand)
    (h : ∀ e ∈ es, e.Pushes functions body site)
    (htokens : e.tokens = es.flatMap Expr.tokens ++ [t])
    (hcount : t.operandCount? = some es.length)
    (hresult : ∀ index items, items.length = es.length →
      tokenResult functions body site index items t =
        ExceptT.lift (some <$> Item.operand <$> f (items.map Item.toOperand)))
    (hname : e.function? site.surroundings = none)
    (heval : e.eval functions body site =
      es.mapM (eval functions body site) >>= fun os => ExceptT.lift (f os)) :
    e.Pushes functions body site := by
  have hitem : (es.mapM (item functions body site) >>= fun items =>
      ExceptT.lift (Item.operand <$> f (items.map Item.toOperand))) =
        e.item functions body site := by
    rw [item_of_none hname, heval, ← mapM_toOperand_item, bind_map_left, map_bind]
    simp only [lift_map]
  refine pushes_of_operator es h htokens hcount (fun index items hitems => ?_) hitem
  rw [hresult index items hitems, lift_map]

/-- A leaf that is not a name. -/
lemma pushes_of_leaf (q : Query Operand) (htokens : e.tokens = [t])
    (hcount : t.operandCount? = some 0)
    (hresult : ∀ index, tokenResult functions body site index [] t =
      ExceptT.lift (some <$> Item.operand <$> q))
    (hname : e.function? site.surroundings = none)
    (heval : e.eval functions body site = ExceptT.lift q) : e.Pushes functions body site := by
  refine pushes_of_operation [] (fun _ => q) nofun htokens hcount ?_ hname heval
  intro index items hitems
  rw [List.length_eq_zero_iff.mp hitems, hresult]

lemma pushes_literal (l : Literal) : (literal l).Pushes functions body site := by
  refine pushes_of_leaf (.answer (l.operand site.settings.maxArrayCells)) rfl ?_
    (fun index => ?_) rfl rfl
  · cases l <;> rfl
  · cases l with
    | array cls reserved a =>
      unfold tokenResult Literal.token Literal.operand
      dsimp only
      rcases Nat.lt_or_ge site.settings.maxArrayCells (a.rows * a.cols) with h | h
      · rw [if_pos h, if_neg (by omega)]
        rfl
      · rw [if_neg (by omega), if_pos h]
        rfl
    | _ => rfl

lemma pushes_reference (r : CellReference) : (reference r).Pushes functions body site := by
  obtain ⟨t, cls, href, hname, hclass⟩ := r
  refine pushes_of_leaf _ rfl ?_ (fun index => ?_) rfl rfl
  · cases t with
    | attr a => cases a <;> cases href
    | _ => first | rfl | cases href
  · cases t with
    | name => cases hname
    | nameX => cases hname
    | attr a => cases a <;> cases href
    | ref | area | refErr | areaErr | refN | areaN | ref3d | area3d | refErr3d | areaErr3d =>
      cases hclass
      rfl
    | _ => cases href

/-- A name is put into the form that its token asks for. -/
lemma item_name (n : NameUse) :
    (name n).item functions body site =
      (n.meaning site.surroundings).item body >>= fun i =>
        ExceptT.lift (inClass site n.cls i) := by
  rcases hn : n.meaning site.surroundings with _ | f | tokens
  · have hnone : (name n).function? site.surroundings = none := by
      unfold function?
      dsimp only
      rw [hn]
    rw [item_of_none hnone]
    unfold eval NameUse.eval
    rw [hn]
    rfl
  · rw [item_of_some (function?_eq_some_iff.mpr ⟨n, rfl, hn⟩)]
    rfl
  · have hnone : (name n).function? site.surroundings = none := by
      unfold function?
      dsimp only
      rw [hn]
    rw [item_of_none hnone]
    unfold eval NameUse.eval NameMeaning.item
    rw [hn]
    simp only [map_bind, LawfulMonad.bind_assoc, pure_bind, ← lift_map]
    rfl

lemma pushes_name (n : NameUse) : (name n).Pushes functions body site := by
  have hitem : (([] : List Expr).mapM (item functions body site) >>= fun _ =>
      (n.meaning site.surroundings).item body >>= fun i => ExceptT.lift (inClass site n.cls i)) =
        (name n).item functions body site := by
    rw [List.mapM_nil, pure_bind, item_name]
  refine pushes_of_operator [] nofun rfl ?_ (fun index items hitems => ?_) hitem
  · cases n <;> rfl
  · rw [map_bind]
    simp only [← lift_map]
    cases n with
    | defined cls index reserved =>
      rw [NameUse.meaning, ← definedName_eq]
      rfl
    | linked cls link index reserved =>
      rw [NameUse.meaning, ← linkedName_eq]
      rfl

lemma forall_mem_args {n : Nat} {args : Fin n → Expr}
    (h : ∀ i, (args i).Pushes functions body site) :
    ∀ e ∈ (List.finRange n).map args, e.Pushes functions body site := by
  intro e he
  obtain ⟨i, -, rfl⟩ := List.mem_map.mp he
  exact h i

/-- Each argument is worked off, and then the call of a function in the table. -/
lemma pushes_callById {n : Nat} {id : UInt16} {args : Fin n → Expr}
    (h : ∀ i, (args i).Pushes functions body site)
    (htokens : e.tokens = (List.finRange n).flatMap (fun i => (args i).tokens) ++ [t])
    (hcount : t.operandCount? = some n)
    (hresult : ∀ index items, tokenResult functions body site index items t =
      ExceptT.lift (some <$> callBuiltin functions site id items))
    (hname : e.function? site.surroundings = none)
    (heval : e.eval functions body site =
      (List.finRange n).mapM (fun i => (args i).eval functions body site) >>= fun os =>
        ExceptT.lift (callById functions site id os)) :
    e.Pushes functions body site := by
  refine pushes_of_operation _ (callById functions site id) (forall_mem_args h) (t := t)
    ?_ ?_ (fun index items _ => ?_) hname ?_
  · rw [List.flatMap_map, htokens]
  · rw [List.length_map, List.length_finRange, hcount]
  · rw [hresult, callBuiltin_eq]
  · rw [List.mapM_map, heval]
    rfl

/-- The first argument of such a call is the function if it names one. -/
lemma callUser_eq (es : List Expr) :
    (es.mapM (item functions body site) >>= fun items =>
        ExceptT.lift (callUser functions site items)) =
      Item.operand <$> (es.mapM (eval functions body site) >>= fun os =>
        ExceptT.lift (callByName functions site
          (es.head?.bind (·.function? site.surroundings)) os)) := by
  rcases es with _ | ⟨e, es⟩
  · rfl
  rw [List.mapM_cons, List.mapM_cons, List.head?_cons, Option.bind_some]
  rcases h : e.function? site.surroundings with _ | f
  · rw [item_of_none h, ← mapM_toOperand_item]
    simp only [pure_bind, LawfulMonad.bind_assoc, bind_map_left, map_bind, ← lift_map]
    refine bind_congr fun o => bind_congr fun items => congrArg ExceptT.lift ?_
    rcases o with ((_ | _ | _ | _ | _) | _) | _ | _ <;> rfl
  · rw [item_of_some h, eval_of_some h, ← mapM_toOperand_item]
    simp only [pure_bind, LawfulMonad.bind_assoc, bind_map_left, map_bind, ← lift_map]
    refine bind_congr fun items => ?_
    rw [callUser, dispatch_eq]
    rfl

/-- Each argument is worked off, and then the call of the function that the first one names. -/
lemma pushes_callByName {cls : TokenClass} {argc : UInt8} {prompt command : Bool} {id : UInt16}
    {args : Fin argc.toNat → Expr} (hid : id = FunctionTable.userDefined)
    (h : ∀ i, (args i).Pushes functions body site) :
    (callWith cls argc prompt id command args).Pushes functions body site := by
  have hitem : (((List.finRange argc.toNat).map args).mapM (item functions body site) >>=
      fun items => ExceptT.lift (callUser functions site items)) =
        (callWith cls argc prompt id command args).item functions body site := by
    rw [callUser_eq, item_of_none rfl, List.mapM_map, eval, List.ofFn_eq_map]
    simp only [if_pos hid]
    rfl
  refine pushes_of_operator _ (forall_mem_args h) (t := .funcVar cls argc prompt id command)
    ?_ ?_ (fun index items _ => ?_) hitem
  · rw [List.flatMap_map]
    rfl
  · rw [List.length_map, List.length_finRange]
    rfl
  · rw [← lift_map]
    unfold tokenResult
    dsimp only
    rw [if_pos hid]

theorem pushes (e : Expr) : e.Pushes functions body site := by
  induction e with
  | literal l => exact pushes_literal l
  | reference r => exact pushes_reference r
  | name n => exact pushes_name n
  | unary op e ih =>
    refine pushes_of_operation [e] (fun os => Evaluate.unary site op (os[0]?.getD .missing))
      (by simpa using ih) (t := .unary op) ?_ rfl (fun index items _ => ?_) rfl ?_
    · simp [tokens]
    · rw [List.getElem?_map]
      rfl
    · simp [eval]
  | binary op l r ihl ihr =>
    refine pushes_of_operation [l, r]
      (fun os => Evaluate.binary site op (os[0]?.getD .missing) (os[1]?.getD .missing))
      (by simpa using ⟨ihl, ihr⟩) (t := .binary op) ?_ rfl (fun index items _ => ?_) rfl ?_
    · simp [tokens]
    · rw [List.getElem?_map, List.getElem?_map]
      rfl
    · simp [eval]
  | sum data e ih =>
    refine pushes_of_operation [e] (callById functions site FunctionTable.sum)
      (by simpa using ih) (t := .attr (.sum data)) ?_ rfl (fun index items _ => ?_) rfl ?_
    · simp [tokens]
    · rw [← callBuiltin_eq]
      rfl
    · simp [eval]
  | call cls id n arity args ih => exact pushes_callById ih rfl arity (fun _ _ => rfl) rfl rfl
  | callWith cls argc prompt id command args ih =>
    rcases Decidable.em (id = FunctionTable.userDefined) with hid | hid
    · exact pushes_callByName hid ih
    · have hresult : ∀ index items,
          tokenResult functions body site index items (.funcVar cls argc prompt id command) =
            ExceptT.lift (some <$> callBuiltin functions site id items) := fun _ _ => if_neg hid
      refine pushes_callById ih rfl rfl hresult rfl ?_
      rw [eval]
      simp only [if_neg hid]

/-- Only the formula of a name can keep a tree from having a result. -/
lemma succeeds_eval (e : Expr)
    (h : ∀ t ∈ e.tokens, ∀ f, site.surroundings.meaning? t = some (.formula f) →
      Succeeds (body f)) :
    Succeeds (e.eval functions body site) := by
  induction e with
  | literal l => exact succeeds_pure _
  | reference r => exact succeeds_lift _
  | name n =>
    have htoken : site.surroundings.meaning? n.token = some (n.meaning site.surroundings) := by
      cases n <;> rfl
    rw [eval, NameUse.eval]
    rcases hn : n.meaning site.surroundings with _ | f | f
    · exact succeeds_pure _
    · exact succeeds_pure _
    · have hbody : Succeeds (body f) := h n.token (List.mem_singleton.mpr rfl) f (hn ▸ htoken)
      exact hbody.bind fun o => succeeds_lift _
  | unary op e ih =>
    have hbranch : Succeeds (e.eval functions body site) :=
      ih fun t ht => h t (List.mem_append_left _ ht)
    exact hbranch.bind fun o => succeeds_lift _
  | binary op l r ihl ihr =>
    have hleft : Succeeds (l.eval functions body site) :=
      ihl fun t ht => h t (List.mem_append_left _ (List.mem_append_left _ ht))
    have hright : Succeeds (r.eval functions body site) :=
      ihr fun t ht => h t (List.mem_append_left _ (List.mem_append_right _ ht))
    exact hleft.bind fun o => hright.bind fun p => succeeds_lift _
  | sum data e ih =>
    have hbranch : Succeeds (e.eval functions body site) :=
      ih fun t ht => h t (List.mem_append_left _ ht)
    exact hbranch.bind fun o => succeeds_lift _
  | call cls id n arity args ih =>
    have hargs : ∀ i ∈ List.finRange n, Succeeds ((args i).eval functions body site) :=
      fun i hi => ih i fun t ht =>
        h t (List.mem_append_left _ (List.mem_flatMap.mpr ⟨i, hi, ht⟩))
    exact (succeeds_mapM hargs).bind fun os => succeeds_lift _
  | callWith cls argc prompt id command args ih =>
    have hargs : ∀ i ∈ List.finRange argc.toNat, Succeeds ((args i).eval functions body site) :=
      fun i hi => ih i fun t ht =>
        h t (List.mem_append_left _ (List.mem_flatMap.mpr ⟨i, hi, ht⟩))
    refine (succeeds_mapM hargs).bind fun os => ?_
    split_ifs <;> exact succeeds_lift _

/-- A formula that spells a tree is worked off to the tree's result. -/
lemma run_eq_eval {tokens : List Token} (h : tokens.filter (!·.isControl) = e.tokens) :
    run functions body site tokens = e.eval functions body site := by
  have hsteps : (tokens.zipIdx.foldlM (fun stack (t, i) => step functions body site stack i t) []) =
      (fun i => [i]) <$> e.item functions body site := pushes e 0 [] tokens h
  rw [run, hsteps, bind_map_left, ← toOperand_item, map_eq_pure_bind]

/-- Tokens that spell a tree, with notes anywhere between them, are worked off to the result of the
tree, and there is one if the formulas of all its names have one. Within a longer formula, wherever
that is evaluated and whatever lies on the stack, the run only adds the tree's entry. -/
theorem evaluateOperand_tokens (functions : Dispatcher) (site : CallSite) (e : Expr)
    (tokens : List Token) (h : tokens.filter (!·.isControl) = e.tokens) :
    let body := nameEvaluator functions site site.settings.maxNameDepth
    evaluateOperand functions site tokens = e.eval functions body site ∧
    ((∀ t ∈ tokens, ∀ f, site.surroundings.meaning? t = some (.formula f) → Succeeds (body f)) →
      Succeeds (evaluateOperand functions site tokens)) ∧
    ∀ (body' : BodyEvaluator) (index : Nat) (stack : List Item) (front back : List Token),
      steps functions body' site index stack (front ++ tokens ++ back) = (do
        let below ← steps functions body' site index stack front
        let i ← e.item functions body' site
        steps functions body' site (index + (front ++ tokens).length) (i :: below) back) := by
  intro body
  have heval : evaluateOperand functions site tokens = e.eval functions body site := by
    rw [evaluateOperand, withLevels_eq_run, run_eq_eval h]
  refine ⟨heval, fun hnames => ?_, fun body' index stack front back => ?_⟩
  · rw [heval]
    refine succeeds_eval e fun t ht => hnames t ?_
    rw [← h] at ht
    exact List.mem_of_mem_filter ht
  · rw [steps_append, steps_append, LawfulMonad.bind_assoc]
    refine bind_congr fun below => ?_
    rw [pushes e _ _ _ h, bind_map_left]

end Expr

end

namespace ExpressionTree

/-- The workbook's name stands for a number, the linked name for a function of an add-in. -/
def site : CallSite where
  surroundings := {
    sheetCount := 1
    sheetName := fun _ => none
    link := fun _ => none
    definedName := fun i => if i = 1 then some ⟨"Seven", none, [.int 7]⟩ else none
    linkedName := fun _ i => if i = 1 then some ⟨"Twice", none⟩ else none
    usedExtent := fun _ => none }
  here := ⟨0, ⟨0, 0⟩⟩
  settings := {}

/-- The call `Twice(Seven, 1+2)`. -/
def call : Expr :=
  .callWith .value 3 false FunctionTable.userDefined false fun i =>
    match i.val with
    | 0 => .name (.linked .reference 0 1 0)
    | 1 => .name (.defined .value 1 0)
    | _ => .binary .add (.literal (.int 1)) (.literal (.int 2))

/-- The tokens of the call, and the note of a pair of parentheses. -/
def tokens : List Token :=
  [.nameX .reference 0 1 0, .name .value 1 0, .int 1, .int 2, .binary .add, .paren,
    .funcVar .value 3 false FunctionTable.userDefined false]

theorem evaluateOperand_tokens_call :
    let functions : Dispatcher := fun _ _ operands => return operands.head?
    evaluateOperand functions site tokens =
      call.eval functions (Evaluate.nameEvaluator functions site 64) site ∧
    Succeeds (evaluateOperand functions site tokens) := by
  intro functions
  have htokens : tokens.filter (!·.isControl) = call.tokens := by decide
  obtain ⟨heval, hsucceeds, -⟩ := Expr.evaluateOperand_tokens functions site call tokens htokens
  refine ⟨heval, hsucceeds fun t ht f hf => ?_⟩
  have hseven : f = [.int 7] := by
    simp only [tokens, List.mem_cons, List.not_mem_nil, or_false] at ht
    rcases ht with rfl | rfl | rfl | rfl | rfl | rfl | rfl <;> cases hf
    rfl
  subst hseven
  rfl

end ExpressionTree

end Spreadsheet
