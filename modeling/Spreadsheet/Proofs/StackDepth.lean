import Mathlib.Data.List.Basic
import Spreadsheet.Formula.Evaluate
import Spreadsheet.Proofs.Questions

/-!
When an evaluation fails.

Each token takes as many results from the stack as it says and puts back one, or none if it is a
note. So the depth of the stack can be counted without evaluating anything, and an evaluation fails
exactly where the count does. What the cells hold, what the functions answer and which errors come
up as values plays no part. A name fails if its formula does.
-/

namespace Spreadsheet

/-! ### Names -/

def Token.isName : Token → Bool
  | .name .. | .nameX .. => true
  | _ => false

/-- What a name stands for. -/
inductive NameMeaning
  | unknown
  /-- A function that an add-in defines. -/
  | function (name : String)
  | formula (tokens : List Token)

namespace Surroundings

variable (s : Surroundings)

def definedMeaning (index : UInt16) : NameMeaning :=
  match s.definedName index with
  | none => .unknown
  | some n => if n.body.isEmpty then .function n.name else .formula n.body

def linkedMeaning (link index : UInt16) : NameMeaning :=
  match s.linkedName link index with
  | none => .unknown
  | some n => match n.body with
    | none => .function n.name
    | some tokens => .formula tokens

/-- What a token stands for if it is a name. -/
def meaning? : Token → Option NameMeaning
  | .name _ index _ => some (s.definedMeaning index)
  | .nameX _ link index _ => some (s.linkedMeaning link index)
  | _ => none

lemma meaning?_eq_none {s : Surroundings} {t : Token} (h : t.isName = false) :
    s.meaning? t = none := by
  cases t with
  | name => cases h
  | nameX => cases h
  | _ => rfl

end Surroundings

/-- What a name comes to where it is used. -/
def NameMeaning.item (body : Evaluate.BodyEvaluator) :
    NameMeaning → ExceptT EvalError Query Evaluate.Item
  | unknown => return .ofValue (.error .name)
  | function name => return .callee name
  | formula tokens => do return .operand (← body tokens)

namespace Evaluate

lemma definedName_eq (body : BodyEvaluator) (site : CallSite) (index : UInt16) :
    definedName body site index = (site.surroundings.definedMeaning index).item body := by
  unfold definedName Surroundings.definedMeaning
  rcases site.surroundings.definedName index with _ | n
  · rfl
  · dsimp only
    split_ifs <;> rfl

lemma linkedName_eq (body : BodyEvaluator) (site : CallSite) (link index : UInt16) :
    linkedName body site link index = (site.surroundings.linkedMeaning link index).item body := by
  unfold linkedName Surroundings.linkedMeaning
  rcases site.surroundings.linkedName link index with _ | n
  · rfl
  · dsimp only
    rcases n.body with _ | tokens <;> rfl

/-- How the formula of a name is evaluated if names may be followed `levels` deep. -/
def nameEvaluator (functions : Dispatcher) (site : CallSite) : (levels : Nat) → BodyEvaluator
  | 0 => fun _ => return .error .name
  | levels + 1 => withLevels functions site levels

lemma withLevels_eq_run (functions : Dispatcher) (site : CallSite) (levels : Nat) :
    withLevels functions site levels =
      run functions (nameEvaluator functions site levels) site := by
  cases levels <;> rfl

end Evaluate

lemma Surroundings.isSome_resolve? (s : Surroundings) (limits : Limits) (here : Place) {t : Token}
    (h : t.isReference) (hname : t.isName = false) : (s.resolve? limits here t).isSome := by
  cases t with
  | name => cases hname
  | nameX => cases hname
  | ref | area | refN | areaN | ref3d | area3d | refErr | areaErr | refErr3d | areaErr3d => rfl
  | attr a => cases a <;> cases h
  | _ => cases h

/-! ### Outcomes that are known beforehand -/

namespace Query

variable {α β γ δ ε : Type}

/-- Whatever is read, the result looks like that of `y`, or the error is that of `y`. -/
def ComesOutAs (f : α → β) (y : Except ε β) (x : ExceptT ε Query α) : Prop :=
  x.run.Ensures (fun _ => True) fun r => r.map f = y

variable {f : α → β} {y : Except ε β} {x : ExceptT ε Query α}

lemma comesOutAs_pure (a : α) : ComesOutAs f (.ok (f a)) (pure a : ExceptT ε Query α) := rfl

lemma comesOutAs_throw (e : ε) : ComesOutAs f (.error e) (throw e : ExceptT ε Query α) := rfl

lemma ComesOutAs.bind {g : γ → δ} {x' : α → ExceptT ε Query γ} {y' : β → Except ε δ}
    (h : ComesOutAs f y x) (h' : ∀ a, y = .ok (f a) → ComesOutAs g (y' (f a)) (x' a)) :
    ComesOutAs g (y >>= y') (x >>= x') := by
  refine ensures_bind.mpr (Ensures.mono h fun r hr => ?_)
  cases r with
  | ok a =>
    obtain rfl : .ok (f a) = y := hr
    exact h' a rfl
  | error e =>
    obtain rfl : .error e = y := hr
    exact rfl

/-- What follows without a failure does not change how things come out. -/
lemma ComesOutAs.bind_lift {q : α → Query γ} {g : γ → β} (h : ComesOutAs f y x)
    (hq : ∀ a, (q a).Ensures (fun _ => True) fun c => g c = f a) :
    ComesOutAs g y (x >>= fun a => ExceptT.lift (q a)) := by
  refine ensures_bind.mpr (Ensures.mono h fun r hr => ?_)
  subst hr
  cases r with
  | ok a => exact ensures_map.mpr (Ensures.mono (hq a) fun c hc => congrArg Except.ok hc)
  | error e => exact rfl

lemma comesOutAs_foldlM {as : List γ} {step : α → γ → ExceptT ε Query α}
    {scan : β → γ → Except ε β} (h : ∀ a c, c ∈ as → ComesOutAs f (scan (f a) c) (step a c))
    (a : α) : ComesOutAs f (as.foldlM scan (f a)) (as.foldlM step a) := by
  induction as generalizing a with
  | nil => exact comesOutAs_pure a
  | cons c as ih =>
    rw [List.foldlM_cons, List.foldlM_cons]
    exact (h a c List.mem_cons_self).bind fun b _ =>
      ih (fun a d hd => h a d (List.mem_cons_of_mem c hd)) b

/-- Whatever is read, there is a result. -/
abbrev Succeeds (x : ExceptT ε Query α) : Prop := ComesOutAs (fun _ => ()) (.ok ()) x

lemma succeeds_pure (a : α) : Succeeds (pure a : ExceptT ε Query α) := comesOutAs_pure a

lemma succeeds_lift (q : Query α) : Succeeds (ExceptT.lift q : ExceptT ε Query α) :=
  ensures_map.mpr (ensures_of_forall (fun _ => rfl) q)

lemma Succeeds.bind {x' : α → ExceptT ε Query γ} (h : Succeeds x) (h' : ∀ a, Succeeds (x' a)) :
    Succeeds (x >>= x') := by
  have hbind : ComesOutAs (fun _ => ()) (.ok () >>= fun _ => .ok ()) (x >>= x') :=
    ComesOutAs.bind h fun a _ => h' a
  exact hbind

lemma succeeds_mapM {as : List γ} {x' : γ → ExceptT ε Query α} (h : ∀ c ∈ as, Succeeds (x' c)) :
    Succeeds (as.mapM x') := by
  induction as with
  | nil => exact succeeds_pure []
  | cons c as ih =>
    rw [List.forall_mem_cons] at h
    rw [List.mapM_cons]
    exact h.1.bind fun a => (ih h.2).bind fun as => succeeds_pure (a :: as)

end Query

open Query

/-! ### Counting -/

/-- The depth of the stack behind a token. -/
def Token.depthAfter (index depth : Nat) (t : Token) : Except EvalError Nat :=
  match t, t.operandCount? with
  | .exp .., _ | .table .., _ => .error (.unsupported index t.opcode)
  | .func _ id, none => .error (.unknownFunctionArity index id)
  | _, count? =>
    let needed := count?.getD 0
    if depth < needed then .error (.stackUnderflow index t.opcode needed depth)
    else .ok (if t.isControl then depth else depth - needed + 1)

/-- A formula has to leave one result. -/
def checkLeft (depth : Nat) : Except EvalError Unit :=
  if depth = 1 then .ok () else .error (.malformedStack depth)

/-- How a formula without names comes out, from the depths of the stack alone. -/
def depthScan (tokens : List Token) : Except EvalError Unit :=
  tokens.zipIdx.foldlM (fun depth x => x.1.depthAfter x.2 depth) 0 >>= checkLeft

/-- Only the formula of a name can fail. -/
def NameMeaning.scan (scan : List Token → Except EvalError Unit) :
    NameMeaning → Except EvalError Unit
  | formula tokens => scan tokens
  | _ => .ok ()

/-- The formula of a name is scanned where the name is used. -/
def scanName (scan : List Token → Except EvalError Unit) (s : Surroundings) (t : Token) :
    Except EvalError Unit :=
  match s.meaning? t with
  | some m => m.scan scan
  | none => .ok ()

def scanStep (scan : List Token → Except EvalError Unit) (s : Surroundings) (depth : Nat)
    (x : Token × Nat) : Except EvalError Nat := do
  scanName scan s x.1
  x.1.depthAfter x.2 depth

/-- How a formula comes out if `scan` tells this of the formulas of names. -/
def scanWith (scan : List Token → Except EvalError Unit) (s : Surroundings)
    (tokens : List Token) : Except EvalError Unit :=
  tokens.zipIdx.foldlM (scanStep scan s) 0 >>= checkLeft

/-- How a formula comes out if names may be followed `levels` deep. -/
def scanLevels (s : Surroundings) : (levels : Nat) → List Token → Except EvalError Unit
  | 0 => scanWith (fun _ => .ok ()) s
  | levels + 1 => scanWith (scanLevels s levels) s

section
variable {scan : List Token → Except EvalError Unit} {s : Surroundings} {t : Token}

lemma scanName_of_meaning?_eq_none (h : s.meaning? t = none) : scanName scan s t = .ok () := by
  unfold scanName
  rw [h]

/-- Formulas without names are scanned by the depths of the stack alone. -/
lemma scanWith_eq_depthScan {tokens : List Token} (h : ∀ t ∈ tokens, t.isName = false) :
    scanWith scan s tokens = depthScan tokens := by
  have hsteps : ∀ (as : List (Token × Nat)) (depth : Nat), (∀ a ∈ as, a.1 ∈ tokens) →
      as.foldlM (scanStep scan s) depth =
        as.foldlM (fun depth x => x.1.depthAfter x.2 depth) depth := by
    intro as
    induction as with
    | nil => exact fun _ _ => rfl
    | cons a as ih =>
      intro depth ha
      rw [List.forall_mem_cons] at ha
      have hstep : scanStep scan s depth a = a.1.depthAfter a.2 depth := by
        unfold scanStep
        rw [scanName_of_meaning?_eq_none (Surroundings.meaning?_eq_none (h a.1 ha.1))]
        rfl
      rw [List.foldlM_cons, List.foldlM_cons, hstep]
      exact bind_congr fun depth => ih depth ha.2
  unfold scanWith depthScan
  rw [hsteps _ _ fun a ha => List.fst_mem_of_mem_zipIdx ha]

/-- Whether a token puts a result on the stack. -/
def Token.pushes (index : Nat) (t : Token) : Except EvalError Bool :=
  match t with
  | .exp .. | .table .. => .error (.unsupported index t.opcode)
  | _ => .ok (!t.isControl)

lemma Token.depthAfter_of_operandCount? {n : Nat} (h : t.operandCount? = some n)
    (index depth : Nat) : t.depthAfter index depth =
      if depth < n then .error (.stackUnderflow index t.opcode n depth)
      else (t.pushes index).map fun pushed => depth - n + pushed.toNat := by
  unfold depthAfter pushes
  cases t with
  | attr a =>
    cases a <;> cases h <;> rfl
  | func => rw [h]; rfl
  | _ => cases h; rfl

end

/-! ### Runs -/

namespace Evaluate

variable {functions : Dispatcher} {body : BodyEvaluator} {site : CallSite}
  {scan : List Token → Except EvalError Unit} {args stack : List Item} {t : Token}

/-- The scan tells of the formulas of names how they come out. -/
def Scans (scan : List Token → Except EvalError Unit) (body : BodyEvaluator) : Prop :=
  ∀ tokens, ComesOutAs (fun _ => ()) (scan tokens) (body tokens)

lemma comesOutAs_item (q : Query Item) :
    ComesOutAs Option.isSome (.ok true) (ExceptT.lift (some <$> q) : ExceptT EvalError Query _) :=
  ensures_map.mpr (ensures_map.mpr (ensures_of_forall (fun _ => rfl) q))

lemma comesOutAs_meaning (hbody : Scans scan body) (m : NameMeaning) :
    ComesOutAs (fun _ => ()) (m.scan scan) (m.item body) := by
  cases m with
  | unknown => exact comesOutAs_pure _
  | function name => exact comesOutAs_pure _
  | formula tokens =>
    exact ComesOutAs.bind_lift (q := fun o => .answer (Item.operand o)) (hbody tokens) fun _ => rfl

lemma comesOutAs_tokenResult (hbody : Scans scan body) (index : Nat) :
    ComesOutAs Option.isSome (do scanName scan site.surroundings t; t.pushes index)
      (tokenResult functions body site index args t) := by
  have hname : ∀ (m : NameMeaning) (cls : TokenClass), site.surroundings.meaning? t = some m →
      ComesOutAs Option.isSome (do scanName scan site.surroundings t; .ok true)
        (do ExceptT.lift (some <$> inClass site cls (← m.item body))) := by
    intro m cls hm
    have hscan : scanName scan site.surroundings t = m.scan scan := by
      unfold scanName
      rw [hm]
    rw [hscan]
    refine (comesOutAs_meaning hbody m).bind ?_
    exact fun item _ => comesOutAs_item _
  have hplain : site.surroundings.meaning? t = none →
      ComesOutAs Option.isSome (t.pushes index) (tokenResult functions body site index args t) →
      ComesOutAs Option.isSome (do scanName scan site.surroundings t; t.pushes index)
        (tokenResult functions body site index args t) := by
    intro hnone h
    rwa [scanName_of_meaning?_eq_none hnone]
  cases t with
  | name cls index' reserved =>
    have := hname _ cls rfl
    rw [← definedName_eq] at this
    exact this
  | nameX cls link index' reserved =>
    have := hname _ cls rfl
    rw [← linkedName_eq] at this
    exact this
  | exp => exact hplain rfl (comesOutAs_throw _)
  | table => exact hplain rfl (comesOutAs_throw _)
  | attr a =>
    cases a with
    | sum => exact hplain rfl (comesOutAs_item _)
    | _ => exact hplain rfl (comesOutAs_pure none)
  | paren => exact hplain rfl (comesOutAs_pure none)
  | memory => exact hplain rfl (comesOutAs_pure none)
  | missing => exact hplain rfl (comesOutAs_pure (some _))
  | text => exact hplain rfl (comesOutAs_pure (some _))
  | error => exact hplain rfl (comesOutAs_pure (some _))
  | bool => exact hplain rfl (comesOutAs_pure (some _))
  | int => exact hplain rfl (comesOutAs_pure (some _))
  | num => exact hplain rfl (comesOutAs_pure (some _))
  | array =>
    refine hplain rfl ?_
    unfold tokenResult
    dsimp only
    split_ifs <;> exact comesOutAs_pure (some _)
  | binary => exact hplain rfl (comesOutAs_item _)
  | unary => exact hplain rfl (comesOutAs_item _)
  | func => exact hplain rfl (comesOutAs_item _)
  | funcVar =>
    refine hplain rfl ?_
    unfold tokenResult
    dsimp only
    split_ifs <;> exact comesOutAs_item _
  | _ => exact hplain rfl (comesOutAs_item _)

/-- A step changes the depth of the stack as the scan says. -/
lemma comesOutAs_step (hbody : Scans scan body) (index : Nat) :
    ComesOutAs List.length (scanStep scan site.surroundings stack.length (t, index))
      (step functions body site stack index t) := by
  unfold scanStep step
  rcases hn : t.operandCount? with _ | n
  · cases t with
    | func cls id =>
      rw [scanName_of_meaning?_eq_none rfl]
      unfold Token.depthAfter
      rw [hn]
      exact comesOutAs_throw _
    | attr a => cases a <;> cases hn
    | _ => cases hn
  rw [Token.depthAfter_of_operandCount? hn]
  dsimp only
  split_ifs with hlt
  · -- a name takes nothing from the stack
    have hname : site.surroundings.meaning? t = none := by
      cases t <;> first | rfl | (cases hn; exact absurd hlt (Nat.not_lt_zero _))
    rw [scanName_of_meaning?_eq_none hname]
    exact comesOutAs_throw _
  · have hresult : ComesOutAs Option.isSome (do scanName scan site.surroundings t; t.pushes index)
        (tokenResult functions body site index (stack.take n).reverse t) :=
      comesOutAs_tokenResult hbody index
    have hscan : (do
        scanName scan site.surroundings t
        (t.pushes index).map fun pushed => stack.length - n + pushed.toNat) =
        (do scanName scan site.surroundings t; t.pushes index) >>= fun pushed =>
          .ok (stack.length - n + pushed.toNat) := by
      rcases scanName scan site.surroundings t with _ | _
      · rfl
      · rcases t.pushes index with _ | _ <;> rfl
    rw [hscan]
    refine hresult.bind fun r _ => ?_
    have hlength : stack.length - n + r.isSome.toNat = (r.toList ++ stack.drop n).length := by
      cases r <;> simp
    rw [hlength]
    exact comesOutAs_pure _

/-- A run comes out as the scan says. -/
lemma comesOutAs_run (hbody : Scans scan body) :
    Scans (scanWith scan site.surroundings) (run functions body site) := by
  intro tokens
  have hsteps : ComesOutAs List.length
      (tokens.zipIdx.foldlM (scanStep scan site.surroundings) ([] : List Item).length)
      (tokens.zipIdx.foldlM (fun stack x => step functions body site stack x.2 x.1) []) :=
    comesOutAs_foldlM (fun stack x _ => comesOutAs_step hbody x.2) []
  refine hsteps.bind fun stack _ => ?_
  rcases stack with _ | ⟨item, _ | ⟨item', stack⟩⟩
  · exact comesOutAs_throw _
  · exact comesOutAs_pure item.toOperand
  · exact comesOutAs_throw _

lemma comesOutAs_withLevels (levels : Nat) :
    Scans (scanLevels site.surroundings levels) (withLevels functions site levels) := by
  induction levels with
  | zero => exact comesOutAs_run fun _ => comesOutAs_pure _
  | succ levels ih => exact comesOutAs_run ih

end Evaluate

/-! ### Evaluations -/

/-- How the evaluations of a formula come out, whatever the cells hold: to an operand, to the value
of one cell and to that of an array formula. -/
structure EvaluationComesOut (functions : Dispatcher) (site : CallSite) (tokens : List Token)
    (outcome : Except EvalError Unit) : Prop where
  operand : ComesOutAs (fun _ => ()) outcome (evaluateOperand functions site tokens)
  cell : ComesOutAs (fun _ => ()) outcome (evaluate functions site tokens)
  array : ComesOutAs (fun _ => ()) outcome (evaluateArray functions site tokens)

/-- The tables of names are the same, and names are followed equally deep. -/
structure CallSite.SameNames (site site' : CallSite) : Prop where
  definedName : site.surroundings.definedName = site'.surroundings.definedName
  linkedName : site.surroundings.linkedName = site'.surroundings.linkedName
  maxNameDepth : site.settings.maxNameDepth = site'.settings.maxNameDepth

section
variable {functions functions' : Dispatcher} {site site' : CallSite} {tokens : List Token}

lemma EvaluationComesOut.of_operand {outcome : Except EvalError Unit}
    (h : ComesOutAs (fun _ => ()) outcome (evaluateOperand functions site tokens)) :
    EvaluationComesOut functions site tokens outcome where
  operand := h
  cell := h.bind_lift fun _ => ensures_of_forall (fun _ => rfl) _
  array := h.bind_lift fun _ => ensures_of_forall (fun _ => rfl) _

lemma evaluationComesOut_scanLevels :
    EvaluationComesOut functions site tokens
      (scanLevels site.surroundings site.settings.maxNameDepth tokens) :=
  .of_operand (Evaluate.comesOutAs_withLevels _ tokens)

lemma scanLevels_eq_depthScan {s : Surroundings} {levels : Nat}
    (h : ∀ t ∈ tokens, t.isName = false) : scanLevels s levels tokens = depthScan tokens := by
  cases levels <;> exact scanWith_eq_depthScan h

lemma CallSite.SameNames.meaning? (h : site.SameNames site') (t : Token) :
    site.surroundings.meaning? t = site'.surroundings.meaning? t := by
  unfold Surroundings.meaning? Surroundings.definedMeaning Surroundings.linkedMeaning
  rw [h.definedName, h.linkedName]

/-- A scan sees nothing of a workbook but the names. -/
lemma CallSite.SameNames.scanLevels (h : site.SameNames site') (levels : Nat) :
    Spreadsheet.scanLevels site.surroundings levels =
      Spreadsheet.scanLevels site'.surroundings levels := by
  have hstep (scan : List Token → Except EvalError Unit) :
      scanStep scan site.surroundings = scanStep scan site'.surroundings := by
    unfold scanStep scanName
    simp only [h.meaning?]
  have hwith (scan : List Token → Except EvalError Unit) :
      scanWith scan site.surroundings = scanWith scan site'.surroundings := by
    unfold scanWith
    rw [hstep]
  induction levels with
  | zero => exact hwith _
  | succ levels ih =>
    unfold Spreadsheet.scanLevels
    rw [ih, hwith]

end

/-- Whether an evaluation fails, and how, is up to its tokens alone. Without names it is what the
depths of the stack say; with names, it is the same wherever the names are the same. -/
theorem evaluationComesOut_of_tokens (functions : Dispatcher) (site : CallSite)
    (tokens : List Token) :
    ((∀ t ∈ tokens, t.isName = false) →
        EvaluationComesOut functions site tokens (depthScan tokens)) ∧
      ∀ (functions' : Dispatcher) (site' : CallSite), site.SameNames site' →
        ∃ outcome, EvaluationComesOut functions site tokens outcome ∧
          EvaluationComesOut functions' site' tokens outcome := by
  constructor
  · intro h
    rw [← scanLevels_eq_depthScan h]
    exact evaluationComesOut_scanLevels
  · intro functions' site' h
    refine ⟨_, evaluationComesOut_scanLevels, ?_⟩
    rw [h.scanLevels, h.maxNameDepth]
    exact evaluationComesOut_scanLevels

namespace StackDepth

/-- The name `Half` has a formula that lacks an operand. -/
def site (sheets : Nat) (here : Place) : CallSite where
  surroundings := {
    sheetCount := sheets
    sheetName := fun _ => none
    link := fun _ => none
    definedName := fun i => if i = 1 then some ⟨"Half", none, [.int 1, .binary .add]⟩ else none
    linkedName := fun _ _ => none
    usedExtent := fun _ => none }
  here := here
  settings := {}

theorem evaluationComesOut_of_tokens_half :
    EvaluationComesOut (fun _ _ _ => return none) (site 1 ⟨0, ⟨0, 0⟩⟩) [.int 1, .binary .add]
        (.error (.stackUnderflow 1 3 2 1)) ∧
      ∃ outcome,
        EvaluationComesOut (fun _ _ _ => return none) (site 1 ⟨0, ⟨0, 0⟩⟩) [.name .value 1 0]
          outcome ∧
        EvaluationComesOut (fun _ _ _ => return some .missing) (site 2 ⟨1, ⟨3, 4⟩⟩)
          [.name .value 1 0] outcome :=
  ⟨(evaluationComesOut_of_tokens _ _ _).1 (by decide),
    (evaluationComesOut_of_tokens _ _ _).2 _ _ ⟨rfl, rfl, rfl⟩⟩

end StackDepth

end Spreadsheet
