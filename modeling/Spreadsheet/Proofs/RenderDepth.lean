import Spreadsheet.Proofs.StackDepth
import Spreadsheet.Token.Render
import Spreadsheet.Workbook.Basic

/-!
Which formulas have a text, compared with those that can be evaluated.

Texts are put together on a stack as results are, so a formula should have a text if it can be
evaluated, and otherwise fail at the same token. This is true as long as each parenthesis finds
something to enclose. A parenthesis without anything before it still becomes a text, while the
evaluation passes over it; from there on the stack of texts holds one text too many.
-/

namespace Spreadsheet

/-! ### Failures -/

/-- What a failure is put down to: a token, or the number of results that are left at the end. -/
inductive Blame
  | token (index : Nat)
  | left (count : Nat)
  deriving DecidableEq

def RenderError.blame : RenderError → Blame
  | stackUnderflow index .. | unknownFunction index _ | unresolvedPlaceholder index => .token index
  | stackNotSingular count => .left count

/-- Only failures in the formula's own tokens have a blame. -/
def EvalError.blame? : EvalError → Option Blame
  | stackUnderflow index .. | unknownFunctionArity index _ | unsupported index _ =>
    some (.token index)
  | malformedStack count => some (.left count)
  | decode _ | structureNotFound .. | noFormula .. => none

/-- The token fails even if the stack holds one result more. -/
def EvalError.Persists : EvalError → Prop
  | stackUnderflow _ _ needed available => available + 1 < needed
  | unknownFunctionArity .. | unsupported .. => True
  | _ => False

/-- Both have a result, and the results are related, or both fail with the same blame. -/
def SameVerdict {α β : Type} (R : α → β → Prop) : Except RenderError α → Except EvalError β → Prop
  | .ok a, .ok b => R a b
  | .error r, .error e => e.blame? = some r.blame
  | _, _ => False

section
variable {α β γ δ : Type} {R : α → β → Prop} {S : γ → δ → Prop} {x : Except RenderError α}
  {y : Except EvalError β}

lemma SameVerdict.bind {f : α → Except RenderError γ} {g : β → Except EvalError δ}
    (h : SameVerdict R x y) (hfg : ∀ a b, R a b → SameVerdict S (f a) (g b)) :
    SameVerdict S (x >>= f) (y >>= g) := by
  rcases x with r | a <;> rcases y with e | b
  · exact h
  · cases h
  · cases h
  · exact hfg a b h

lemma sameVerdict_foldlM {as : List γ} {f : α → γ → Except RenderError α}
    {g : β → γ → Except EvalError β}
    (h : ∀ a b c, c ∈ as → R a b → SameVerdict R (f a c) (g b c)) {a : α} {b : β} (hab : R a b) :
    SameVerdict R (as.foldlM f a) (as.foldlM g b) := by
  induction as generalizing a b with
  | nil => exact hab
  | cons c as ih =>
    rw [List.foldlM_cons, List.foldlM_cons]
    exact (h a b c List.mem_cons_self hab).bind fun a b hab =>
      ih (fun a b d hd => h a b d (List.mem_cons_of_mem c hd)) hab

/-- Whether there is a result, and who is to blame if there is none. -/
def verdict (y : Except EvalError β) : Except (Option Blame) Unit :=
  match y with
  | .ok _ => .ok ()
  | .error e => .error e.blame?

@[simp] lemma verdict_ok (b : β) : verdict (.ok b) = .ok () := rfl

@[simp] lemma verdict_error (e : EvalError) :
    verdict (.error e : Except EvalError β) = .error e.blame? := rfl

lemma verdict_eq_error {b : Option Blame} :
    verdict y = .error b ↔ ∃ e, y = .error e ∧ e.blame? = b := by
  cases y <;> simp

lemma SameVerdict.iff_verdict {y' : Except EvalError γ} (h : SameVerdict R x y) :
    SameVerdict (fun _ _ => True) x y' ↔ verdict y = verdict y' := by
  rcases x with r | a <;> rcases y with e | b <;> rcases y' with e' | c
  · have he : e.blame? = some r.blame := h
    simp [SameVerdict, verdict, he, eq_comm]
  · simp [SameVerdict, verdict]
  · cases h
  · cases h
  · cases h
  · cases h
  · simp [SameVerdict, verdict]
  · simp [SameVerdict, verdict]

end

/-! ### Depths -/

namespace Token

variable {t : Token} {index depth : Nat} {e : EvalError}

/-- A call that says how many arguments it has is one of a function in the table. -/
def InTable : Token → Prop
  | funcVar _ _ _ id _ => (FunctionTable.lookup? id).isSome
  | _ => True

/-- What a token does to the stack: it fails at any depth, or it takes `n` results, if there are as
many, and puts back `m`. -/
lemma depthAfter_cases (index : Nat) (t : Token) :
    (∃ e : EvalError, e.blame? = some (.token index) ∧ e.Persists ∧
      ∀ depth, t.depthAfter index depth = .error e) ∨
    ∃ n m, ∀ depth, t.depthAfter index depth =
      if depth < n then .error (.stackUnderflow index t.opcode n depth)
      else .ok (depth - n + m) := by
  rcases hn : t.operandCount? with _ | n
  · cases t with
    | func cls id =>
      refine .inl ⟨.unknownFunctionArity index id, rfl, trivial, fun depth => ?_⟩
      unfold depthAfter
      rw [hn]
    | attr a => cases a <;> cases hn
    | _ => cases hn
  rcases hpushes : t.pushes index with e | pushed
  · refine .inl ⟨.unsupported index t.opcode, rfl, trivial, fun depth => ?_⟩
    cases t with
    | exp => rfl
    | table => rfl
    | _ => cases hpushes
  · exact .inr ⟨n, pushed.toNat, fun depth => by
      rw [depthAfter_of_operandCount? hn, hpushes]; rfl⟩

lemma blame?_of_depthAfter (h : t.depthAfter index depth = .error e) :
    e.blame? = some (.token index) := by
  obtain ⟨e', he', -, hfails⟩ | ⟨n, m, htakes⟩ := depthAfter_cases index t
  · rw [hfails] at h
    cases h
    exact he'
  · rw [htakes] at h
    split_ifs at h
    cases h
    rfl

/-- One result more at the bottom of the stack stays there. -/
lemma depthAfter_succ {depth' : Nat} (h : t.depthAfter index depth = .ok depth') :
    t.depthAfter index (depth + 1) = .ok (depth' + 1) := by
  obtain ⟨e', -, -, hfails⟩ | ⟨n, m, htakes⟩ := depthAfter_cases index t
  · rw [hfails] at h
    cases h
  · rw [htakes] at h ⊢
    split_ifs at h with hlt
    cases h
    rw [if_neg (by omega)]
    congr 1
    omega

lemma depthAfter_succ_of_persists (h : t.depthAfter index depth = .error e) (he : e.Persists) :
    ∃ e', t.depthAfter index (depth + 1) = .error e' := by
  obtain ⟨e', -, -, hfails⟩ | ⟨n, m, htakes⟩ := depthAfter_cases index t
  · exact ⟨e', hfails _⟩
  · rw [htakes] at h ⊢
    split_ifs at h with hlt
    cases h
    exact ⟨_, if_pos he⟩

lemma depthAfter_succ_of_not_persists (h : t.depthAfter index depth = .error e)
    (he : ¬ e.Persists) : ∃ depth', t.depthAfter index (depth + 1) = .ok depth' := by
  obtain ⟨e', -, hpersists, hfails⟩ | ⟨n, m, htakes⟩ := depthAfter_cases index t
  · rw [hfails] at h
    cases h
    exact absurd hpersists he
  · rw [htakes] at h ⊢
    split_ifs at h with hlt
    cases h
    exact ⟨_, if_neg he⟩

/-- The depth of the stack of texts behind a token. A parenthesis leaves a text in any case. -/
def textDepthAfter (index depth : Nat) (t : Token) : Except EvalError Nat :=
  if t = paren then .ok (max depth 1) else t.depthAfter index depth

/-- Where a parenthesis finds something to enclose, texts are stacked as results are. -/
lemma textDepthAfter_eq (h : t = paren → 0 < depth) :
    t.textDepthAfter index depth = t.depthAfter index depth := by
  unfold textDepthAfter
  split_ifs with ht
  · subst ht
    rw [Nat.max_eq_left (h rfl)]
    rfl
  · rfl

lemma blame?_of_textDepthAfter (h : t.textDepthAfter index depth = .error e) :
    e.blame? = some (.token index) := by
  unfold textDepthAfter at h
  split_ifs at h
  exact blame?_of_depthAfter h

end Token

/-! ### Texts -/

namespace Render

variable {names : Names} {origin : Cell} {index : Nat} {t : Token} {n : Nat} {st : State}

lemma needed_of_operandCount? (h : t.operandCount? = some n) : needed index t = .ok n := by
  cases t with
  | func cls id =>
    have hid : FunctionTable.fixedArity? id = some n := h
    unfold needed
    dsimp only
    rw [hid]
  | attr a => cases a <;> cases h <;> rfl
  | _ => cases h; rfl

lemma needed_of_operandCount?_eq_none (index : Nat) (h : t.operandCount? = none) :
    ∃ cls id, t = .func cls id ∧ needed index t = .error (.unknownFunction index id) := by
  cases t with
  | func cls id =>
    have hid : FunctionTable.fixedArity? id = none := h
    refine ⟨cls, id, rfl, ?_⟩
    unfold needed
    dsimp only
    rw [hid]
  | attr a => cases a <;> cases h
  | _ => cases h

/-- A token has a text unless it is a placeholder. -/
lemma exists_tokenText (names : Names) (origin : Cell) (ht : t.InTable) {pushed : Bool}
    (h : t.pushes index = .ok pushed) (lead close : List Char) (args : List (List Char)) :
    ∃ text, tokenText names origin index lead close args t = .ok text := by
  cases t with
  | exp => cases h
  | table => cases h
  | unary op => cases op <;> exact ⟨_, rfl⟩
  | attr a => cases a <;> exact ⟨_, rfl⟩
  | funcVar cls argc prompt id command =>
    have hid : (FunctionTable.lookup? id).isSome := ht
    obtain ⟨f, hf⟩ := Option.isSome_iff_exists.mp hid
    have hname : FunctionTable.name? id = some f.name := by
      unfold FunctionTable.name?
      rw [hf]
      rfl
    unfold tokenText
    dsimp only
    rw [hname]
    split <;> exact ⟨_, rfl⟩
  | _ => exact ⟨_, rfl⟩

lemma exists_push (names : Names) (origin : Cell) (st : State) (ht : t.InTable) {pushed : Bool}
    (hpushes : t.pushes index = .ok pushed) (n : Nat) :
    ∃ st', step.push names origin st index t n = .ok st' ∧
      st'.stack.length = st.stack.length - n + 1 := by
  obtain ⟨text, htext⟩ :=
    exists_tokenText names origin ht hpushes st.lead st.close (st.stack.take n).reverse
  refine ⟨⟨text :: st.stack.drop n, none⟩, ?_, by simp⟩
  unfold step.push
  dsimp only
  rw [htext]
  rfl

/-- Where the stack is empty, a parenthesis encloses the empty text. -/
lemma sameVerdict_step_paren :
    SameVerdict (fun st' depth => st'.stack.length = depth) (step names origin st index .paren)
      (Token.paren.textDepthAfter index st.stack.length) := by
  obtain ⟨st', hst', hlength⟩ :=
    exists_push (t := .paren) names origin st trivial (rfl : Token.paren.pushes index = .ok false) 1
  have hstep : step names origin st index .paren = .ok st' := hst'
  rw [hstep]
  change st'.stack.length = max st.stack.length 1
  omega

/-- The operands of the token are there. Control tokens leave the stack as it is. -/
lemma sameVerdict_step_of_le (ht : t.InTable) (hparen : t ≠ .paren) (hn : t.operandCount? = some n)
    (hle : n ≤ st.stack.length) :
    SameVerdict (fun st' depth => st'.stack.length = depth) (step names origin st index t)
      (t.depthAfter index st.stack.length) := by
  have hlt : ¬ st.stack.length < n := Nat.not_lt.mpr hle
  rw [Token.depthAfter_of_operandCount? hn]
  unfold step
  rw [needed_of_operandCount? hn]
  dsimp only [bind, Except.bind]
  rw [if_neg hlt, if_neg hlt]
  rcases hpushes : t.pushes index with e | pushed
  · cases t with
    | exp => cases hpushes; rfl
    | table => cases hpushes; rfl
    | _ => cases hpushes
  obtain ⟨st', hst', hlength⟩ := exists_push names origin st ht hpushes n
  have hpushed : pushed = true →
      SameVerdict (fun st' depth => st'.stack.length = depth) (step.push names origin st index t n)
        (.ok (st.stack.length - n + pushed.toNat)) := by
    rintro rfl
    rw [hst']
    exact hlength
  cases t with
  | paren => exact absurd rfl hparen
  | exp => cases hpushes
  | table => cases hpushes
  | memory => cases hn; cases hpushes; rfl
  | attr a =>
    cases a with
    | sum => cases hpushes; exact hpushed rfl
    | _ => cases hn; cases hpushes; rfl
  | _ => cases hpushes; exact hpushed rfl

/-- The stack of texts has the depth that is counted. -/
lemma sameVerdict_step (ht : t.InTable) :
    SameVerdict (fun st' depth => st'.stack.length = depth) (step names origin st index t)
      (t.textDepthAfter index st.stack.length) := by
  by_cases hparen : t = .paren
  · subst hparen
    exact sameVerdict_step_paren
  rw [Token.textDepthAfter_eq fun h => absurd h hparen]
  rcases hn : t.operandCount? with _ | n
  · obtain ⟨cls, id, rfl, hneeded⟩ := needed_of_operandCount?_eq_none index hn
    unfold step Token.depthAfter
    rw [hneeded, hn]
    rfl
  · by_cases hle : n ≤ st.stack.length
    · exact sameVerdict_step_of_le ht hparen hn hle
    · have hlt : st.stack.length < n := Nat.lt_of_not_le hle
      rw [Token.depthAfter_of_operandCount? hn, if_pos hlt]
      unfold step
      rw [needed_of_operandCount? hn]
      dsimp only [bind, Except.bind]
      rw [if_pos hlt]
      rfl

/-- What is left on the stack of texts at the end. -/
def finish (st : State) : Except RenderError String :=
  match st.stack with
  | [text] => .ok (String.ofList text)
  | stack => .error (.stackNotSingular stack.length)

/-- A text is made token by token and taken from the stack at the end. -/
lemma render_eq_finish (tokens : List Token) (names : Names) (origin : Cell) :
    render tokens names origin =
      tokens.zipIdx.foldlM (fun st x => step names origin st x.2 x.1) ⟨[], none⟩ >>= finish := by
  unfold render finish
  refine bind_congr fun st => ?_
  rcases st.stack with _ | ⟨text, _ | ⟨text', stack⟩⟩ <;> rfl

lemma sameVerdict_finish {depth : Nat} (h : st.stack.length = depth) :
    SameVerdict (fun _ _ => True) (finish st) (checkLeft depth) := by
  subst h
  unfold finish
  rcases st.stack with _ | ⟨text, _ | ⟨text', stack⟩⟩
  · exact rfl
  · exact trivial
  · exact rfl

end Render

/-! ### Formulas -/

/-- Counted from an index and a depth on, a parenthesis comes where the stack is empty. -/
inductive LooseParen : (index depth : Nat) → List Token → Prop
  | here {index : Nat} {tokens : List Token} : LooseParen index 0 (.paren :: tokens)
  | later {index depth depth' : Nat} {t : Token} {tokens : List Token}
    (hstep : t.depthAfter index depth = .ok depth')
    (h : LooseParen (index + 1) depth' tokens) : LooseParen index depth (t :: tokens)

/-- How a formula comes out from a token and a depth on, if tokens change the depth like this. -/
def scanFrom (after : Nat → Nat → Token → Except EvalError Nat) (index depth : Nat)
    (tokens : List Token) : Except EvalError Unit :=
  (tokens.zipIdx index).foldlM (fun depth x => after x.2 depth x.1) depth >>= checkLeft

/-- How the text of a formula comes out. -/
def textScan (tokens : List Token) : Except EvalError Unit :=
  scanFrom Token.textDepthAfter 0 0 tokens

lemma sameVerdict_textScan {tokens : List Token} (h : ∀ t ∈ tokens, t.InTable) (names : Names)
    (origin : Cell) :
    SameVerdict (fun _ _ => True) (render tokens names origin) (textScan tokens) := by
  rw [Render.render_eq_finish]
  have hsteps : SameVerdict (fun (st : Render.State) depth => st.stack.length = depth)
      (tokens.zipIdx.foldlM (fun st x => Render.step names origin st x.2 x.1) ⟨[], none⟩)
      (tokens.zipIdx.foldlM (fun depth x => x.1.textDepthAfter x.2 depth) 0) := by
    refine sameVerdict_foldlM (fun st depth x hx hst => ?_) rfl
    subst hst
    exact Render.sameVerdict_step (h x.1 (List.fst_mem_of_mem_zipIdx hx))
  exact hsteps.bind fun st depth hst => Render.sameVerdict_finish hst

section
variable {after : Nat → Nat → Token → Except EvalError Nat} {t : Token} {tokens : List Token}
  {index depth : Nat} {e : EvalError}

lemma scanFrom_cons :
    scanFrom after index depth (t :: tokens) =
      after index depth t >>= fun depth => scanFrom after (index + 1) depth tokens := by
  unfold scanFrom
  rw [List.zipIdx_cons, List.foldlM_cons, bind_assoc]

/-- Only tokens from the index on are blamed, or what is left. -/
lemma le_of_scanFrom_textDepthAfter {i : Nat}
    (h : scanFrom Token.textDepthAfter index depth tokens = .error e)
    (he : e.blame? = some (.token i)) : index ≤ i := by
  induction tokens generalizing index depth with
  | nil =>
    change checkLeft depth = .error e at h
    unfold checkLeft at h
    split_ifs at h
    cases h
    cases he
  | cons t tokens ih =>
    rw [scanFrom_cons] at h
    rcases hstep : t.textDepthAfter index depth with e' | depth'
    · rw [hstep] at h
      cases h
      rw [Token.blame?_of_textDepthAfter hstep] at he
      cases he
      exact Nat.le_refl _
    · rw [hstep] at h
      exact Nat.le_of_succ_le (ih h)

/-- With one text too many on the stack the verdict is right only if the evaluation fails at a
token for which one more result is not enough. -/
lemma verdict_eq_iff_persists :
    verdict (scanFrom Token.textDepthAfter index (depth + 1) tokens) =
        verdict (scanFrom Token.depthAfter index depth tokens) ↔
      ∃ e, scanFrom Token.depthAfter index depth tokens = .error e ∧
        e.Persists := by
  induction tokens generalizing index depth with
  | nil =>
    change verdict (checkLeft (depth + 1)) = verdict (checkLeft depth) ↔
      ∃ e, checkLeft depth = .error e ∧ e.Persists
    unfold checkLeft
    split_ifs <;> first
      | omega
      | simp [EvalError.blame?, EvalError.Persists]
  | cons t tokens ih =>
    rw [scanFrom_cons, scanFrom_cons, Token.textDepthAfter_eq fun _ => Nat.succ_pos depth]
    rcases hstep : t.depthAfter index depth with e | depth'
    · have hright : (∃ e', (.error e : Except EvalError Unit) = .error e' ∧ e'.Persists) ↔
          e.Persists := by simp
      by_cases hpersists : e.Persists
      · obtain ⟨e', he'⟩ := Token.depthAfter_succ_of_persists hstep hpersists
        rw [he']
        refine iff_of_true ?_ (hright.mpr hpersists)
        change Except.error e'.blame? = Except.error e.blame?
        rw [Token.blame?_of_depthAfter he', Token.blame?_of_depthAfter hstep]
      · obtain ⟨depth', hdepth'⟩ := Token.depthAfter_succ_of_not_persists hstep hpersists
        rw [hdepth']
        -- the text goes on behind the token that is to blame
        refine iff_of_false (fun h => ?_) (mt hright.mp hpersists)
        obtain ⟨e', hlater, he'⟩ := verdict_eq_error.mp (h : _ = Except.error e.blame?)
        rw [Token.blame?_of_depthAfter hstep] at he'
        exact Nat.lt_irrefl index (le_of_scanFrom_textDepthAfter hlater he')
    · rw [Token.depthAfter_succ hstep]
      exact ih

/-- As long as no parenthesis is loose the stacks have the same depth. -/
lemma verdict_eq_iff_looseParen :
    verdict (scanFrom Token.textDepthAfter index depth tokens) =
        verdict (scanFrom Token.depthAfter index depth tokens) ↔
      (LooseParen index depth tokens →
        ∃ e, scanFrom Token.depthAfter index depth tokens = .error e ∧ e.Persists) := by
  induction tokens generalizing index depth with
  | nil => exact iff_of_true rfl nofun
  | cons t tokens ih =>
    by_cases hloose : t = .paren ∧ depth = 0
    · obtain ⟨rfl, rfl⟩ := hloose
      rw [imp_iff_right .here, scanFrom_cons, scanFrom_cons]
      exact verdict_eq_iff_persists
    · rw [scanFrom_cons, scanFrom_cons,
        Token.textDepthAfter_eq fun h => Nat.pos_of_ne_zero fun h' => hloose ⟨h, h'⟩]
      rcases hstep : t.depthAfter index depth with e | depth'
      · refine iff_of_true rfl fun h => ?_
        cases h with
        | here => exact absurd ⟨rfl, rfl⟩ hloose
        | later hstep' => rw [hstep] at hstep'; cases hstep'
      · refine Iff.trans ih (imp_congr_left ⟨.later hstep, fun h => ?_⟩)
        cases h with
        | here => exact absurd ⟨rfl, rfl⟩ hloose
        | later hstep' h => rw [hstep] at hstep'; cases hstep'; exact h

end

/-- A formula without names that calls functions of the table has a text if and only if it can be
evaluated, and otherwise both fail at the same token or with as many results left, exactly if no
parenthesis comes where the stack is empty, or if the evaluation fails for a reason that one more
result on the stack would not remove. -/
theorem sameVerdict_render_evaluateOperand_iff (functions : Dispatcher) (site : CallSite)
    (names : Names) (origin : Cell) {tokens : List Token}
    (hnames : ∀ t ∈ tokens, t.isName = false) (htable : ∀ t ∈ tokens, t.InTable) :
    (evaluateOperand functions site tokens).run.Ensures (fun _ => True)
        (SameVerdict (fun _ _ => True) (render tokens names origin)) ↔
      (LooseParen 0 0 tokens → ∃ e, depthScan tokens = .error e ∧ e.Persists) := by
  have hscan : (evaluateOperand functions site tokens).run.Ensures (fun _ => True)
      fun r => r.map (fun _ => ()) = depthScan tokens := by
    rw [← scanLevels_eq_depthScan hnames]
    exact evaluationComesOut_scanLevels.operand
  have hsame (r : Except EvalError Operand) (hr : r.map (fun _ => ()) = depthScan tokens) :
      SameVerdict (fun _ _ => True) (render tokens names origin) r ↔
        verdict (textScan tokens) = verdict (depthScan tokens) := by
    rw [(sameVerdict_textScan htable names origin).iff_verdict, ← hr]
    cases r <;> rfl
  refine Iff.trans ⟨fun h => ?_, fun h => hscan.mono fun r hr => (hsame r hr).mpr h⟩
    verdict_eq_iff_looseParen
  obtain ⟨r, hverdict, hr⟩ := (h.and hscan).exists
  exact (hsame r hr).mp hverdict

namespace RenderDepth

def noNames : CallSite := (Workbook.empty {}).site ⟨0, ⟨0, 0⟩⟩

/-- The formula `=(1)` has a text and a result. A parenthesis alone has only a text. -/
theorem sameVerdict_render_evaluateOperand_iff_parentheses :
    (evaluateOperand Library.empty noNames [.int 1, .paren]).run.Ensures (fun _ => True)
        (SameVerdict (fun _ _ => True) (render [.int 1, .paren] .none ⟨0, 0⟩)) ∧
      ¬ (evaluateOperand Library.empty noNames [.paren]).run.Ensures (fun _ => True)
        (SameVerdict (fun _ _ => True) (render [.paren] .none ⟨0, 0⟩)) := by
  constructor
  · refine (sameVerdict_render_evaluateOperand_iff Library.empty noNames .none ⟨0, 0⟩
      (by decide) (by simp [Token.InTable])).mpr fun h => ?_
    -- the parenthesis finds the number
    rcases h with _ | ⟨hint, _ | ⟨hparen, ⟨⟩⟩⟩
    cases hint
  · intro h
    obtain ⟨e, he, hpersists⟩ := (sameVerdict_render_evaluateOperand_iff Library.empty noNames .none
      ⟨0, 0⟩ (by decide) (by simp [Token.InTable])).mp h .here
    cases he
    exact hpersists

/-- A parenthesis alone has the text `()`, and its evaluation leaves nothing. -/
theorem parenthesis_has_text_but_no_result :
    render [.paren] .none ⟨0, 0⟩ = .ok "()" ∧
      (evaluateOperand Library.empty noNames [.paren]).run =
        .answer (.error (.malformedStack 0)) :=
  ⟨rfl, rfl⟩

end RenderDepth

end Spreadsheet
