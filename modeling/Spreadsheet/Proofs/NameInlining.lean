import Spreadsheet.Proofs.SpelledTree

/-!
Defined names and their bodies.

The body of a name is evaluated by itself, one level deeper than the formula that uses the name. It
might as well stand in the formula: what it puts on the stack does not depend on what lies there,
and the level does not matter as long as names nest less deep than they may be followed. Only a body
that is itself the name of a function comes to something else, since in the formula this function
could be called.
-/

namespace Spreadsheet

open Query

/-! ### How deep names nest -/

namespace Surroundings

/-- Names refer to names no deeper than so many levels, the name in the formula being the first. -/
def NestsWithin (s : Surroundings) : (levels : Nat) → List Token → Prop
  | 0, tokens => ∀ t ∈ tokens, ∀ body, s.meaning? t ≠ some (.formula body)
  | levels + 1, tokens =>
    ∀ t ∈ tokens, ∀ body, s.meaning? t = some (.formula body) → s.NestsWithin levels body

/-- The last token that is no note is the name of a function. -/
def EndsAsFunction (s : Surroundings) (tokens : List Token) : Prop :=
  ∃ f, (tokens.filter (!·.isControl)).getLast?.bind s.meaning? = some (.function f)

end Surroundings

/-- The same site, but names are followed to another depth. -/
def CallSite.withNameDepth (site : CallSite) (depth : Nat) : CallSite :=
  { site with settings := { site.settings with maxNameDepth := depth } }

lemma NameMeaning.item_congr {body body' : Evaluate.BodyEvaluator} {m : NameMeaning}
    (h : ∀ f, m = .formula f → body' f = body f) : m.item body' = m.item body := by
  cases m with
  | formula f =>
    unfold item
    dsimp only
    rw [h f rfl]
  | _ => rfl

namespace Evaluate

variable {functions functions' : Dispatcher} {body body' : BodyEvaluator} {site : CallSite}
  {depth index : Nat} {args stack : List Item} {tokens : List Token} {t : Token}

/-- The one result that a formula has to leave. -/
def onlyResult : List Item → ExceptT EvalError Query Operand
  | [item] => return item.toOperand
  | stack => throw (.malformedStack stack.length)

lemma run_eq_steps (tokens : List Token) :
    run functions body site tokens = steps functions body site 0 [] tokens >>= onlyResult := by
  refine bind_congr fun stack => ?_
  rcases stack with _ | ⟨item, _ | _⟩ <;> rfl

section
variable (hfunctions : functions' (site.withNameDepth depth) = functions site)
include hfunctions

lemma dispatch_withNameDepth (call : FunctionCall) :
    dispatch functions' (site.withNameDepth depth) call args =
      dispatch functions site call args := by
  unfold dispatch
  rw [hfunctions]

lemma callBuiltin_withNameDepth (id : UInt16) :
    callBuiltin functions' (site.withNameDepth depth) id args =
      callBuiltin functions site id args := by
  unfold callBuiltin
  simp only [dispatch_withNameDepth hfunctions]

lemma callUser_withNameDepth : callUser functions' (site.withNameDepth depth) args =
    callUser functions site args := by
  unfold callUser
  simp only [dispatch_withNameDepth hfunctions]

/-- Of how deep names may be followed, a token sees only how the formulas of names are evaluated. -/
lemma tokenResult_withNameDepth
    (hbody : ∀ f, site.surroundings.meaning? t = some (.formula f) → body' f = body f) :
    tokenResult functions' body' (site.withNameDepth depth) index args t =
      tokenResult functions body site index args t := by
  have hname : ∀ m : NameMeaning, site.surroundings.meaning? t = some m →
      m.item body' = m.item body := fun m hm => NameMeaning.item_congr fun f hf => hbody f (hf ▸ hm)
  cases t with
  | attr a =>
    cases a with
    | sum data =>
      unfold tokenResult
      dsimp only
      rw [callBuiltin_withNameDepth hfunctions]
    | _ => rfl
  | func cls id =>
    unfold tokenResult
    dsimp only
    rw [callBuiltin_withNameDepth hfunctions]
  | funcVar cls argc prompt id command =>
    unfold tokenResult
    dsimp only
    rw [callBuiltin_withNameDepth hfunctions, callUser_withNameDepth hfunctions]
  | name cls i reserved =>
    unfold tokenResult
    dsimp only
    rw [definedName_eq, definedName_eq, ← hname _ rfl]
    rfl
  | nameX cls link i reserved =>
    unfold tokenResult
    dsimp only
    rw [linkedName_eq, linkedName_eq, ← hname _ rfl]
    rfl
  | _ => rfl

lemma steps_withNameDepth (hbody : ∀ t ∈ tokens, ∀ f,
      site.surroundings.meaning? t = some (.formula f) → body' f = body f) :
    steps functions' body' (site.withNameDepth depth) index stack tokens =
      steps functions body site index stack tokens := by
  induction tokens generalizing index stack with
  | nil => rfl
  | cons t tokens ih =>
    rw [List.forall_mem_cons] at hbody
    have hstep : step functions' body' (site.withNameDepth depth) stack index t =
        step functions body site stack index t := by
      unfold step
      simp only [tokenResult_withNameDepth hfunctions hbody.1]
    rw [steps_cons, steps_cons, hstep]
    exact bind_congr fun stack => ih hbody.2

lemma run_withNameDepth (hbody : ∀ t ∈ tokens, ∀ f,
      site.surroundings.meaning? t = some (.formula f) → body' f = body f) :
    run functions' body' (site.withNameDepth depth) tokens = run functions body site tokens := by
  rw [run_eq_steps, run_eq_steps, steps_withNameDepth hfunctions hbody]

/-- If the names in a formula nest within some levels, then it does not matter how many more are
allowed. -/
theorem withLevels_of_nestsWithin {n m : Nat} (h : site.surroundings.NestsWithin n tokens)
    (hm : n ≤ m) : withLevels functions' (site.withNameDepth depth) m tokens =
      withLevels functions site n tokens := by
  -- The body of a name may be followed one level less, so the levels go down with the bodies.
  induction n generalizing m tokens with
  | zero =>
    rw [withLevels_eq_run, withLevels_eq_run]
    exact run_withNameDepth hfunctions fun t ht f hf => absurd hf (h t ht f)
  | succ n ih =>
    obtain ⟨m, rfl⟩ : ∃ k, m = k + 1 := ⟨m - 1, by omega⟩
    rw [withLevels_eq_run, withLevels_eq_run]
    exact run_withNameDepth hfunctions fun t ht f hf => ih (h t ht f hf) (by omega)

end

lemma withLevels_eq_of_nestsWithin {n m : Nat} (h : site.surroundings.NestsWithin n tokens)
    (hm : n ≤ m) : withLevels functions site m tokens = withLevels functions site n tokens := by
  have hsame : functions (site.withNameDepth site.settings.maxNameDepth) = functions site := rfl
  exact withLevels_of_nestsWithin hsame h hm

end Evaluate

/-! ### The same results -/

namespace Query

variable {α β ε : Type} {x y : ExceptT ε Query α}

/-- Whatever they read, the two computations ask for the same cells, and come to the same result or
both fail. -/
def SameResult (x y : ExceptT ε Query α) : Prop :=
  Except.toOption <$> x.run = Except.toOption <$> y.run

lemma SameResult.refl (x : ExceptT ε Query α) : SameResult x x := rfl

lemma toOption_run_bind (x : ExceptT ε Query α) (f : α → ExceptT ε Query β) :
    Except.toOption <$> (x >>= f).run = (Except.toOption <$> x.run) >>= fun
      | some a => Except.toOption <$> (f a).run
      | none => pure none := by
  rw [ExceptT.run_bind, map_bind, bind_map_left]
  refine bind_congr fun r => ?_
  cases r <;> rfl

lemma SameResult.bind {f g : α → ExceptT ε Query β} (h : SameResult x y)
    (hfg : ∀ a, SameResult (f a) (g a)) : SameResult (x >>= f) (y >>= g) := by
  unfold SameResult at h ⊢
  rw [toOption_run_bind, toOption_run_bind, h]
  refine bind_congr fun o => ?_
  cases o with
  | none => rfl
  | some a => exact hfg a

lemma SameResult.eval_eq_ok_iff (h : SameResult x y) (values : Place → Value) (a : α) :
    x.run.eval values = .ok a ↔ y.run.eval values = .ok a := by
  have hok : ∀ r : Except ε α, r = .ok a ↔ r.toOption = some a := by
    rintro (_ | _) <;> simp [Except.toOption]
  have heval : (x.run.eval values).toOption = (y.run.eval values).toOption := by
    have := congrArg (eval values) h
    rwa [← bind_pure_comp, ← bind_pure_comp, eval_bind, eval_bind] at this
  rw [hok, hok, heval]

end Query

namespace Evaluate

variable {functions : Dispatcher} {body : BodyEvaluator} {site : CallSite} {stack : List Item}

/-- Where a token stands shows in errors only. -/
lemma sameResult_tokenResult (i j : Nat) (args : List Item) (t : Token) :
    SameResult (tokenResult functions body site i args t)
      (tokenResult functions body site j args t) := by
  cases t with
  | ref cls | area cls | refErr cls | areaErr cls | refN cls | areaN cls | ref3d cls | area3d cls
  | refErr3d cls | areaErr3d cls =>
    unfold tokenResult
    dsimp only
    generalize site.surroundings.resolve? _ _ _ = o
    cases o <;> rfl
  | attr a => cases a <;> rfl
  | _ => rfl

lemma sameResult_step (i j : Nat) (t : Token) :
    SameResult (step functions body site stack i t) (step functions body site stack j t) := by
  unfold step
  rcases t.operandCount? with _ | n
  · cases t <;> rfl
  · dsimp only
    split_ifs
    · rfl
    · exact (sameResult_tokenResult i j _ t).bind fun _ => .refl _

lemma sameResult_steps (i j : Nat) (tokens : List Token) :
    SameResult (steps functions body site i stack tokens)
      (steps functions body site j stack tokens) := by
  induction tokens generalizing i j stack with
  | nil => rfl
  | cons t tokens ih =>
    rw [steps_cons, steps_cons]
    exact (sameResult_step i j t).bind fun stack => ih _ _

lemma evaluateOperand_eq_steps (tokens : List Token) : evaluateOperand functions site tokens =
    steps functions (nameEvaluator functions site site.settings.maxNameDepth) site 0 [] tokens >>=
      onlyResult := by
  rw [evaluateOperand, withLevels_eq_run, run_eq_steps]

lemma applyClass_reference (site : CallSite) (o : Operand) :
    applyClass site .reference o = pure o := by
  cases o <;> rfl

end Evaluate

/-! ### Inlining -/

open Evaluate

namespace Expr

variable {functions : Dispatcher} {body : BodyEvaluator} {site : CallSite} {e e' : Expr}
  {tokens tokens' : List Token}

/-- Only the name of a function itself ends as one. -/
lemma function?_of_not_endsAsFunction {s : Surroundings}
    (h : tokens.filter (!·.isControl) = e.tokens) (hends : ¬s.EndsAsFunction tokens) :
    e.function? s = none := by
  rcases hf : e.function? s with _ | f
  · rfl
  · obtain ⟨n, rfl, hn⟩ := function?_eq_some_iff.mp hf
    refine absurd ⟨f, ?_⟩ hends
    rw [h]
    cases n <;> exact congrArg some hn

/-- In a formula, a tree may stand for another one that comes to the same. -/
lemma sameResult_of_item_eq (h : tokens.filter (!·.isControl) = e.tokens)
    (h' : tokens'.filter (!·.isControl) = e'.tokens)
    (hitem : e.item functions body site = e'.item functions body site) (front back : List Token) :
    SameResult (steps functions body site 0 [] (front ++ tokens ++ back))
      (steps functions body site 0 [] (front ++ tokens' ++ back)) := by
  rw [steps_append, steps_append, steps_append, steps_append]
  -- The two differ in length, so the tokens behind them have other positions.
  refine SameResult.bind (SameResult.bind (.refl _) fun below => ?_) fun stack =>
    sameResult_steps _ _ back
  rw [pushes e _ _ _ h, pushes e' _ _ _ h', hitem]
  exact .refl _

/-- A name stands on the stack as the tree of its body would. -/
lemma item_definedName {index reserved : UInt16}
    (hname : site.surroundings.definedMeaning index = .formula tokens)
    (htokens : tokens.filter (!·.isControl) = e.tokens)
    (hends : ¬site.surroundings.EndsAsFunction tokens)
    (hnests : site.surroundings.NestsWithin site.settings.maxNameDepth
      [.name .reference index reserved]) :
    let body := nameEvaluator functions site site.settings.maxNameDepth
    (name (.defined .reference index reserved)).item functions body site =
      e.item functions body site := by
  intro body
  have hmeaning : (NameUse.defined .reference index reserved).meaning site.surroundings =
      .formula tokens := hname
  have hnone : (name (.defined .reference index reserved)).function? site.surroundings = none := by
    unfold function?
    dsimp only
    rw [hmeaning]
  have hbody : body tokens = e.eval functions body site := by
    rcases hdepth : site.settings.maxNameDepth with _ | depth
    · rw [hdepth] at hnests
      exact absurd (congrArg some hname) (hnests _ List.mem_cons_self _)
    · rw [hdepth] at hnests
      have hwithin : site.surroundings.NestsWithin depth tokens :=
        hnests _ List.mem_cons_self _ (congrArg some hname)
      -- The name leads one level down; within the formula the tokens stay on its own level.
      calc body tokens
        _ = withLevels functions site depth tokens := by simp only [body, hdepth]; rfl
        _ = withLevels functions site (depth + 1) tokens :=
          (withLevels_eq_of_nestsWithin hwithin (Nat.le_succ depth)).symm
        _ = run functions body site tokens := by
          rw [withLevels_eq_run]
          simp only [body, hdepth]
        _ = e.eval functions body site := run_eq_eval htokens
  rw [item_of_none hnone, item_of_none (function?_of_not_endsAsFunction htokens hends), ← hbody]
  unfold eval NameUse.eval
  rw [hmeaning]
  simp only [NameUse.cls, applyClass_reference]
  exact congrArg (Item.operand <$> ·) (bind_pure (body tokens))

end Expr

/-- **A defined name comes to what its body would in its place**, if the body has a result and is
not itself the name of a function. Nor does it matter to how great a depth names are followed, as
long as they nest less deep. The functions see this depth among the settings, so those that are used
with another depth have to answer as the others did. -/
theorem evaluateOperand_inline (functions : Dispatcher) (site : CallSite)
    {index reserved : UInt16} {n : DefinedName} (front back : List Token)
    (hname : site.surroundings.definedName index = some n) (hbody : n.body ≠ [])
    (hresult : ∃ values o, (evaluateOperand functions site n.body).run.eval values = .ok o)
    (hends : ¬site.surroundings.EndsAsFunction n.body)
    (hnests : site.surroundings.NestsWithin site.settings.maxNameDepth
      [.name .reference index reserved]) :
    let named := front ++ .name .reference index reserved :: back
    let inlined := front ++ n.body ++ back
    (∀ values o, (evaluateOperand functions site named).run.eval values = .ok o ↔
      (evaluateOperand functions site inlined).run.eval values = .ok o) ∧
    SameResult (evaluateOperand functions site named) (evaluateOperand functions site inlined) ∧
    (site.surroundings.NestsWithin site.settings.maxNameDepth named →
      ∀ depth ≥ site.settings.maxNameDepth, ∀ functions' : Dispatcher,
        functions' (site.withNameDepth depth) = functions site →
        evaluateOperand functions' (site.withNameDepth depth) named =
          evaluateOperand functions site named) := by
  intro named inlined
  obtain ⟨values, o, ho⟩ := hresult
  obtain ⟨-, e, he⟩ := Expr.exists_of_evaluateOperand ho
  have hmeaning : site.surroundings.definedMeaning index = .formula n.body := by
    unfold Surroundings.definedMeaning
    rw [hname]
    exact if_neg (by simpa using hbody)
  have hsame : SameResult (evaluateOperand functions site named)
      (evaluateOperand functions site inlined) := by
    have hnamed : named = front ++ [.name .reference index reserved] ++ back := by simp [named]
    rw [evaluateOperand_eq_steps, evaluateOperand_eq_steps, hnamed]
    exact (Expr.sameResult_of_item_eq rfl he (Expr.item_definedName hmeaning he hends hnests)
      front back).bind fun stack => .refl _
  refine ⟨hsame.eval_eq_ok_iff, hsame, fun hwithin depth hdepth functions' hfunctions => ?_⟩
  exact withLevels_of_nestsWithin hfunctions hwithin hdepth

namespace Library

variable (site : CallSite) (depth : Nat)

lemma concatenated_withNameDepth (args : List Operand) :
    concatenated (site.withNameDepth depth) args = concatenated site args := by
  induction args with
  | nil => rfl
  | cons arg args ih =>
    unfold concatenated
    rw [ih]
    rfl

/-- The functions of the library answer alike, however deep names are followed. -/
theorem basic_withNameDepth : basic (site.withNameDepth depth) = basic site := by
  funext call args
  have hconcatenate : concatenate (site.withNameDepth depth) args = concatenate site args := by
    unfold concatenate
    rw [concatenated_withNameDepth]
  unfold basic
  split
  · rename_i f hf
    have hsame : f (site.withNameDepth depth) args = f site args := by
      unfold function? at hf
      split at hf <;> cases hf <;>
        first | rfl | exact congrArg (Operand.value <$> ·) hconcatenate
    rw [hsame]
  · rfl

end Library

namespace NameInlining

/-- The second name doubles the first. -/
def site : CallSite where
  surroundings := {
    sheetCount := 1
    sheetName := fun _ => none
    link := fun _ => none
    definedName := fun i =>
      if i = 1 then some ⟨"Seven", none, [.int 7]⟩
      else if i = 2 then some ⟨"Fourteen", none, [.name .reference 1 0, .int 2, .binary .mul]⟩
      else none
    linkedName := fun _ _ => none
    usedExtent := fun _ => none }
  here := ⟨0, ⟨0, 0⟩⟩
  settings := { maxNameDepth := 2 }

lemma nestsWithin_fourteen {tokens : List Token}
    (h : ∀ t ∈ tokens, t.isName → t = .name .reference 2 0) :
    site.surroundings.NestsWithin 2 tokens := by
  have hseven : ∀ t ∈ [Token.int 7], ∀ body, site.surroundings.meaning? t ≠ some (.formula body) :=
    fun t ht body => by cases List.mem_singleton.mp ht; nofun
  intro t ht body hbody
  cases hname : t.isName with
  | false =>
    rw [Surroundings.meaning?_eq_none hname] at hbody
    cases hbody
  | true =>
    obtain rfl := h t ht hname
    cases hbody
    intro t ht body hbody
    simp only [List.mem_cons, List.not_mem_nil, or_false] at ht
    rcases ht with rfl | rfl | rfl <;> cases hbody
    exact hseven

theorem evaluateOperand_inline_fourteen :
    let functions := Library.basic
    let named := [.int 1, .name .reference 2 0, .binary .add]
    let inlined := [.int 1, .name .reference 1 0, .int 2, .binary .mul, .binary .add]
    SameResult (evaluateOperand functions site named) (evaluateOperand functions site inlined) ∧
      evaluateOperand functions (site.withNameDepth 64) named =
        evaluateOperand functions site named := by
  intro functions named inlined
  have hname : site.surroundings.definedName 2 =
      some ⟨"Fourteen", none, [.name .reference 1 0, .int 2, .binary .mul]⟩ := rfl
  have hnests : site.surroundings.NestsWithin 2 [.name .reference 2 0] :=
    nestsWithin_fourteen fun t ht _ => List.mem_singleton.mp ht
  obtain ⟨-, hsame, hdepth⟩ := evaluateOperand_inline functions site [.int 1] [.binary .add] hname
    (by decide) ⟨default, _, rfl⟩ (by rintro ⟨f, hf⟩; cases hf) hnests
  refine ⟨hsame, hdepth (nestsWithin_fourteen fun t ht hname => ?_) 64 (by decide) functions
    (Library.basic_withNameDepth site 64)⟩
  have hmem : t ∈ [.int 1, .name .reference 2 0, .binary .add] := ht
  simp only [List.mem_cons, List.not_mem_nil, or_false] at hmem
  rcases hmem with rfl | rfl | rfl
  · cases hname
  · rfl
  · cases hname

end NameInlining

end Spreadsheet
