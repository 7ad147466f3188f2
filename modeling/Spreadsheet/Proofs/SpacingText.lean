import Spreadsheet.Proofs.RenderDepth

/-!
Blanks and notes in the text of formulas.

A token for blanks holds them back, and the next token with a text writes them at one place or
another. Which texts are put together does not depend on that. So two runs over the same tokens that
agree in some of the characters of their texts, and hold back texts that agree in them, go on to do
so: in all characters where only notes are left out, and in all but blanks where tokens for blanks
are.
-/

namespace Spreadsheet

/-! ### Outcomes -/

/-- The failure without the number of the token. -/
def RenderError.withoutIndex : RenderError → RenderError
  | stackUnderflow _ opcode needed available => stackUnderflow 0 opcode needed available
  | stackNotSingular remaining => stackNotSingular remaining
  | unknownFunction _ id => unknownFunction 0 id
  | unresolvedPlaceholder _ => unresolvedPlaceholder 0

/-- Both have a result, and the results are related, or both fail in the same way, perhaps at tokens
with different numbers. -/
def SameOutcome {α β : Type} (R : α → β → Prop) :
    Except RenderError α → Except RenderError β → Prop
  | .ok a, .ok b => R a b
  | .error e, .error e' => e.withoutIndex = e'.withoutIndex
  | _, _ => False

section
variable {α β γ δ : Type} {R : α → β → Prop} {x : Except RenderError α} {y : Except RenderError β}

lemma SameOutcome.bind {S : γ → δ → Prop} {f : α → Except RenderError γ}
    {g : β → Except RenderError δ} (h : SameOutcome R x y)
    (hfg : ∀ a b, x = .ok a → R a b → SameOutcome S (f a) (g b)) :
    SameOutcome S (x >>= f) (y >>= g) := by
  rcases x with e | a <;> rcases y with e' | b
  · exact h
  · cases h
  · cases h
  · exact hfg a b rfl h

lemma SameOutcome.mono {S : α → β → Prop} (h : SameOutcome R x y) (hRS : ∀ a b, R a b → S a b) :
    SameOutcome S x y := by
  rcases x with e | a <;> rcases y with e' | b
  · exact h
  · exact h
  · exact h
  · exact hRS a b h

lemma SameOutcome.refl {S : α → α → Prop} (hS : ∀ a, S a a) (x : Except RenderError α) :
    SameOutcome S x x := by
  rcases x with e | a
  · rfl
  · exact hS a

end

/-! ### Characters that are looked at -/

section
variable {p : Char → Bool} {lead lead' : List Char} {args args' : List (List Char)}

lemma filter_append_congr (h : lead.filter p = lead'.filter p) {cs ds : List Char}
    (h' : cs.filter p = ds.filter p) : (lead ++ cs).filter p = (lead' ++ ds).filter p := by
  rw [List.filter_append, List.filter_append, h, h']

lemma filter_cons_congr {cs ds : List Char} (h : cs.filter p = ds.filter p) (c : Char) :
    (c :: cs).filter p = (c :: ds).filter p := by
  rw [List.filter_cons, List.filter_cons, h]

lemma filter_intercalate_congr (h : args.map (List.filter p) = args'.map (List.filter p))
    (sep : List Char) : (sep.intercalate args).filter p = (sep.intercalate args').filter p := by
  have hfilter (args : List (List Char)) : (sep.intercalate args).filter p =
      (sep.filter p).intercalate (args.map (List.filter p)) := by
    induction args with
    | nil => rfl
    | cons arg args ih =>
      rcases args with _ | ⟨arg', args⟩
      · rw [List.map_singleton, List.intercalate_singleton, List.intercalate_singleton]
      · rw [List.intercalate_cons_cons, List.filter_append, List.filter_append, ih]
        simp only [List.map_cons, List.intercalate_cons_cons]
  rw [hfilter, hfilter, h]

lemma filter_getElem?_congr (h : args.map (List.filter p) = args'.map (List.filter p)) (i : Nat) :
    (args[i]?.getD []).filter p = (args'[i]?.getD []).filter p := by
  have hfilter (args : List (List Char)) :
      (args[i]?.getD []).filter p = ((args.map (List.filter p))[i]?).getD [] := by
    rw [List.getElem?_map]
    cases args[i]? <;> rfl
  rw [hfilter, hfilter, h]

end

namespace Render

variable {names : Names} {origin : Cell} {p : Char → Bool} {index index' : Nat} {t : Token}
  {st st' : State}

lemma filter_call_congr {args args' : List (List Char)} {name name' : List Char}
    (hname : name.filter p = name'.filter p)
    (h : args.map (List.filter p) = args'.map (List.filter p)) :
    (call name args).filter p = (call name' args').filter p :=
  filter_append_congr (filter_append_congr hname
    (filter_cons_congr (filter_intercalate_congr h [',']) '(')) rfl

/-- Texts that agree in the characters looked at are put together to texts that do. -/
lemma sameOutcome_tokenText {lead lead' close close' : List Char} {args args' : List (List Char)}
    (hlead : lead.filter p = lead'.filter p) (hclose : close.filter p = close'.filter p)
    (hargs : args.map (List.filter p) = args'.map (List.filter p)) :
    SameOutcome (fun text text' => text.filter p = text'.filter p)
      (tokenText names origin index lead close args t)
      (tokenText names origin index' lead' close' args' t) := by
  have harg := filter_getElem?_congr hargs
  cases t with
  | exp => rfl
  | table => rfl
  | binary op =>
    exact filter_append_congr (filter_append_congr (filter_append_congr (harg 0) hlead) rfl)
      (harg 1)
  | unary op =>
    cases op with
    | percent => exact filter_append_congr (filter_append_congr (harg 0) hlead) rfl
    | minus => exact filter_append_congr hlead (filter_cons_congr (harg 0) '-')
    | plus => exact filter_append_congr hlead (filter_cons_congr (harg 0) '+')
  | paren =>
    exact filter_append_congr (filter_append_congr (filter_append_congr hlead
      (filter_cons_congr (harg 0) '(')) hclose) rfl
  | attr a =>
    cases a with
    | sum => exact filter_append_congr hlead (filter_call_congr rfl hargs)
    | _ => exact hlead
  | func => exact filter_append_congr hlead (filter_call_congr rfl hargs)
  | funcVar cls argc prompt id command =>
    -- a call by name, unless the first operand names the function
    have hnamed (name : String) : SameOutcome (fun text text' => text.filter p = text'.filter p)
        (.ok (lead ++ call name.toList args)) (.ok (lead' ++ call name.toList args')) :=
      filter_append_congr hlead (filter_call_congr rfl hargs)
    unfold tokenText
    dsimp only
    rcases args with _ | ⟨callee, args⟩ <;> rcases args' with _ | ⟨callee', args'⟩
    · cases id == FunctionTable.userDefined <;> rcases FunctionTable.name? id with _ | name
      exacts [rfl, hnamed name, rfl, hnamed name]
    · cases hargs
    · cases hargs
    · rw [List.map_cons, List.map_cons, List.cons.injEq] at hargs
      cases id == FunctionTable.userDefined
      · rcases FunctionTable.name? id with _ | name
        exacts [rfl, hnamed name]
      · exact filter_append_congr hlead (filter_call_congr hargs.1 hargs.2)
  | memory => exact hlead
  | missing => exact hlead
  | _ => exact filter_append_congr hlead rfl

/-! ### Steps -/

/-- The texts on both stacks and the blanks held back agree in the characters looked at. -/
structure State.SameUnder (p : Char → Bool) (st st' : State) : Prop where
  stack : st.stack.map (List.filter p) = st'.stack.map (List.filter p)
  lead : st.lead.filter p = st'.lead.filter p
  close : st.close.filter p = st'.close.filter p

lemma State.SameUnder.length_eq (h : st.SameUnder p st') : st.stack.length = st'.stack.length := by
  have hlength := congrArg List.length h.stack
  rwa [List.length_map, List.length_map] at hlength

lemma sameOutcome_push (h : st.SameUnder p st') (n : Nat) :
    SameOutcome (State.SameUnder p) (step.push names origin st index t n)
      (step.push names origin st' index' t n) := by
  have hargs : (st.stack.take n).reverse.map (List.filter p) =
      (st'.stack.take n).reverse.map (List.filter p) := by
    rw [List.map_reverse, List.map_reverse, List.map_take, List.map_take, h.stack]
  refine (sameOutcome_tokenText h.lead h.close hargs).bind fun text text' _ htext => ?_
  refine ⟨?_, rfl, rfl⟩
  rw [List.map_cons, List.map_cons, List.map_drop, List.map_drop, h.stack, htext]

lemma sameOutcome_needed (index index' : Nat) (t : Token) :
    SameOutcome (· = ·) (needed index t) (needed index' t) := by
  rcases hn : t.operandCount? with _ | n
  · obtain ⟨cls, id, rfl, herror⟩ := needed_of_operandCount?_eq_none index hn
    obtain ⟨cls', id', heq, herror'⟩ := needed_of_operandCount?_eq_none index' hn
    cases heq
    rw [herror, herror']
    rfl
  · rw [needed_of_operandCount? hn, needed_of_operandCount? hn]
    exact rfl

/-- **One token** keeps the agreement. -/
lemma sameOutcome_step (h : st.SameUnder p st') (index index' : Nat) (t : Token) :
    SameOutcome (State.SameUnder p) (step names origin st index t)
      (step names origin st' index' t) := by
  unfold step
  refine (sameOutcome_needed index index' t).bind fun n n' _ hn => ?_
  subst hn
  rw [h.length_eq]
  dsimp only
  by_cases hlt : st'.stack.length < n
  · rw [if_pos hlt, if_pos hlt]
    rfl
  rw [if_neg hlt, if_neg hlt]
  cases t with
  | attr a =>
    cases a with
    | sum => exact sameOutcome_push h n
    | space => exact ⟨h.stack, rfl, rfl⟩
    | _ => exact h
  | memory => exact h
  | paren => exact sameOutcome_push h 1
  | _ => exact sameOutcome_push h n

/-! ### Tokens that write nothing -/

end Render

/-- A token for blanks. -/
def Token.isSpace : Token → Bool
  | attr (.space ..) => true
  | _ => false

/-- A token that says something about the formula and has no text, nor holds any back. -/
def Token.isNote : Token → Bool
  | attr (.sum _) | attr (.space ..) => false
  | attr _ | memory _ => true
  | _ => false

namespace Render

variable {names : Names} {origin : Cell} {p : Char → Bool} {index index' : Nat} {t : Token}
  {st st' : State}

lemma step_note (names : Names) (origin : Cell) (h : t.isNote) (st : State) (index : Nat) :
    step names origin st index t = .ok st := by
  cases t with
  | attr a =>
    cases a with
    | sum => cases h
    | space => cases h
    | _ => rfl
  | memory => rfl
  | _ => cases h

/-- A token for blanks holds back only these. -/
lemma step_space (names : Names) (origin : Cell) (h : t.isSpace) (st : State) (index : Nat) :
    ∃ spacing n blank, (blank = ' ' ∨ blank = '\n') ∧
      step names origin st index t =
        .ok { st with pending := some (spacing, List.replicate n blank) } := by
  cases t with
  | attr a =>
    cases a with
    | space spacing count =>
      refine ⟨spacing, count.toNat, if spacing.isLineBreak then '\n' else ' ', ?_, rfl⟩
      split
      exacts [.inr rfl, .inl rfl]
    | _ => cases h
  | _ => cases h

lemma pending_push {st₂ : State} {n : Nat}
    (h : step.push names origin st index t n = .ok st₂) : st₂.pending = none := by
  unfold step.push at h
  dsimp only at h
  rcases htext : tokenText names origin index st.lead st.close (st.stack.take n).reverse t
    with e | text
  · rw [htext] at h
    cases h
  · rw [htext] at h
    cases h
    rfl

/-- Other tokens write what is held back or leave all as it is. -/
lemma pending_step {st₂ : State} (ht : t.isSpace = false)
    (h : step names origin st index t = .ok st₂) : st₂.pending = none ∨ st₂ = st := by
  unfold step at h
  rcases hn : needed index t with e | n
  · rw [hn] at h
    cases h
  rw [hn] at h
  dsimp only [bind, Except.bind] at h
  by_cases hlt : st.stack.length < n
  · rw [if_pos hlt] at h
    cases h
  rw [if_neg hlt] at h
  cases t with
  | attr a =>
    cases a with
    | sum => exact .inl (pending_push h)
    | space => cases ht
    | _ =>
      cases h
      exact .inr rfl
  | memory =>
    cases h
    exact .inr rfl
  | paren => exact .inl (pending_push h)
  | _ => exact .inl (pending_push h)

/-! ### Runs -/

/-- The tokens from a number on, after what is computed so far. -/
def runFrom (names : Names) (origin : Cell) (index : Nat) (tokens : List Token) (st : State) :
    Except RenderError State :=
  (tokens.zipIdx index).foldlM (fun st x => step names origin st x.2 x.1) st

lemma runFrom_cons (index : Nat) (t : Token) (tokens : List Token) (st : State) :
    runFrom names origin index (t :: tokens) st =
      step names origin st index t >>= runFrom names origin (index + 1) tokens := by
  rw [runFrom, List.zipIdx_cons, List.foldlM_cons]
  rfl

lemma runFrom_append (index : Nat) (front back : List Token) (st : State) :
    runFrom names origin index (front ++ back) st =
      runFrom names origin index front st >>= runFrom names origin (index + front.length) back := by
  rw [runFrom, List.zipIdx_append, List.foldlM_append]
  rfl

/-- **All tokens** keep the agreement. -/
lemma sameOutcome_runFrom (h : st.SameUnder p st') (index index' : Nat) (tokens : List Token) :
    SameOutcome (State.SameUnder p) (runFrom names origin index tokens st)
      (runFrom names origin index' tokens st') := by
  induction tokens generalizing index index' st st' with
  | nil => exact h
  | cons t tokens ih =>
    rw [runFrom_cons, runFrom_cons]
    exact (sameOutcome_step h index index' t).bind fun st st' _ h => ih h _ _

/-- Nothing that is looked at is held back. -/
def State.Silent (p : Char → Bool) (st : State) : Prop :=
  st.lead.filter p = [] ∧ st.close.filter p = []

lemma silent_of_pending_eq_none (h : st.pending = none) : st.Silent p := by
  unfold State.Silent State.lead State.close
  rw [h]
  exact ⟨rfl, rfl⟩

lemma silent_of_pending_eq_some {spacing : Spacing} {blanks : List Char}
    (h : st.pending = some (spacing, blanks)) (hblanks : blanks.filter p = []) : st.Silent p := by
  unfold State.Silent State.lead State.close
  rw [h]
  dsimp only
  cases spacing.isBeforeClose
  · exact ⟨hblanks, rfl⟩
  · exact ⟨rfl, hblanks⟩

/-- Where blanks are not looked at, tokens for them can be left out. -/
lemma sameOutcome_runFrom_filter (hspace : p ' ' = false) (hbreak : p '\n' = false)
    (h : st.SameUnder p st') (hst : st.Silent p) (index index' : Nat) (tokens : List Token) :
    SameOutcome (State.SameUnder p) (runFrom names origin index tokens st)
      (runFrom names origin index' (tokens.filter fun t => !t.isSpace) st') := by
  induction tokens generalizing index index' st st' with
  | nil => exact h
  | cons t tokens ih =>
    rw [runFrom_cons]
    rcases ht : t.isSpace with _ | _
    · rw [List.filter_cons_of_pos (by rw [ht]; rfl), runFrom_cons]
      refine (sameOutcome_step h index index' t).bind fun st₂ st₂' hstep h₂ => ih h₂ ?_ _ _
      rcases pending_step ht hstep with hpending | rfl
      · exact silent_of_pending_eq_none hpending
      · exact hst
    · rw [List.filter_cons_of_neg (by rw [ht]; nofun)]
      obtain ⟨spacing, n, blank, hblank, hstep⟩ := step_space names origin ht st index
      have hp : ¬ p blank := by
        rcases hblank with rfl | rfl
        · rw [hspace]; nofun
        · rw [hbreak]; nofun
      have hblanks : (List.replicate n blank).filter p = [] := List.filter_replicate_of_neg hp
      have hsilent : State.Silent p { st with pending := some (spacing, List.replicate n blank) } :=
        silent_of_pending_eq_some rfl hblanks
      have hsame : State.SameUnder p { st with pending := some (spacing, List.replicate n blank) }
          st' :=
        ⟨h.stack, (hsilent.1.trans hst.1.symm).trans h.lead,
          (hsilent.2.trans hst.2.symm).trans h.close⟩
      rw [hstep]
      exact ih hsame hsilent _ _

lemma finish_of_stack_eq {text : List Char} (h : st.stack = [text]) :
    finish st = .ok (String.ofList text) := by
  unfold finish
  rw [h]

lemma finish_of_length_ne_one (h : st.stack.length ≠ 1) :
    finish st = .error (.stackNotSingular st.stack.length) := by
  unfold finish
  split
  · next text heq => exact absurd (congrArg List.length heq) h
  · rfl

lemma sameOutcome_finish (h : st.SameUnder p st') :
    SameOutcome (fun text text' : String => text.toList.filter p = text'.toList.filter p)
      (finish st) (finish st') := by
  by_cases hone : st.stack.length = 1
  · obtain ⟨text, htext⟩ := List.length_eq_one_iff.mp hone
    obtain ⟨text', htext'⟩ := List.length_eq_one_iff.mp (h.length_eq.symm.trans hone)
    have hstack := h.stack
    rw [htext, htext', List.map_singleton, List.map_singleton, List.singleton_inj] at hstack
    rw [finish_of_stack_eq htext, finish_of_stack_eq htext']
    dsimp only [SameOutcome]
    rw [String.toList_ofList, String.toList_ofList]
    exact hstack
  · rw [finish_of_length_ne_one hone, finish_of_length_ne_one (h.length_eq ▸ hone)]
    exact congrArg RenderError.stackNotSingular h.length_eq

lemma render_eq_runFrom (tokens : List Token) (names : Names) (origin : Cell) :
    render tokens names origin = runFrom names origin 0 tokens ⟨[], none⟩ >>= finish :=
  render_eq_finish tokens names origin

lemma State.SameUnder.refl (p : Char → Bool) (st : State) : st.SameUnder p st :=
  ⟨rfl, rfl, rfl⟩

end Render

/-! ### Texts -/

/-- The text without spaces and line breaks. -/
def unspaced (text : String) : String :=
  String.ofList (text.toList.filter fun c => c != ' ' && c != '\n')

section
variable (names : Names) (origin : Cell)

/-- Tokens for blanks change only the spaces and line breaks of a text. -/
lemma sameOutcome_render_filter (tokens : List Token) :
    SameOutcome (fun text text' => unspaced text = unspaced text') (render tokens names origin)
      (render (tokens.filter fun t => !t.isSpace) names origin) := by
  rw [Render.render_eq_runFrom, Render.render_eq_runFrom]
  have hstart : Render.State.SameUnder (fun c => c != ' ' && c != '\n') ⟨[], none⟩ ⟨[], none⟩ :=
    .refl _ _
  have hsilent : Render.State.Silent (fun c => c != ' ' && c != '\n') ⟨[], none⟩ :=
    Render.silent_of_pending_eq_none rfl
  refine (Render.sameOutcome_runFrom_filter rfl rfl hstart hsilent 0 0 tokens).bind
    fun st st' _ hst => ?_
  exact (Render.sameOutcome_finish hst).mono fun text text' => congrArg String.ofList

/-- Where all characters are looked at, the texts are the same. -/
lemma Render.sameOutcome_finish_true {st st' : State} (h : st.SameUnder (fun _ => true) st') :
    SameOutcome (· = ·) (finish st) (finish st') := by
  refine (sameOutcome_finish h).mono fun text text' htext => ?_
  rw [List.filter_true, List.filter_true] at htext
  exact String.toList_injective htext

/-- A note changes nothing in a text. -/
lemma sameOutcome_render_note {t : Token} (ht : t.isNote) (front back : List Token) :
    SameOutcome (· = ·) (render (front ++ t :: back) names origin)
      (render (front ++ back) names origin) := by
  have hback (st : Render.State) (index : Nat) :
      SameOutcome (Render.State.SameUnder fun _ => true)
        (Render.runFrom names origin index (t :: back) st)
        (Render.runFrom names origin index back st) := by
    rw [Render.runFrom_cons, Render.step_note names origin ht]
    exact Render.sameOutcome_runFrom (.refl _ st) (index + 1) index back
  rw [Render.render_eq_runFrom, Render.render_eq_runFrom, Render.runFrom_append,
    Render.runFrom_append, bind_assoc, bind_assoc]
  refine (SameOutcome.refl (fun _ => rfl) _).bind fun st st' _ hst => ?_
  subst hst
  exact (hback st _).bind fun st st' _ => Render.sameOutcome_finish_true

end

/-- Without its tokens for blanks a formula has a text if and only if it has one with them, and the
two texts differ only in spaces and line breaks. A note, which is any other attribute but the sum or
a token for precomputed areas, can be left out without any change. Where there is no text both fail
for the same reason. -/
theorem sameOutcome_render (names : Names) (origin : Cell) :
    (∀ tokens, SameOutcome (fun text text' => unspaced text = unspaced text')
      (render tokens names origin) (render (tokens.filter fun t => !t.isSpace) names origin)) ∧
    ∀ (front : List Token) (t : Token) (back : List Token), t.isNote →
      SameOutcome (· = ·) (render (front ++ t :: back) names origin)
        (render (front ++ back) names origin) :=
  ⟨sameOutcome_render_filter names origin,
    fun front _ back ht => sameOutcome_render_note names origin ht front back⟩

namespace SpacingText

/-- The formula `=1+ 2` behind a note. -/
def sum : List Token :=
  [.attr (.volatile 0), .int 1, .attr (.space .spaceBefore 1 false), .int 2, .binary .add]

/-- Its text has a blank that the text without tokens for blanks has not, and goes without the
note. -/
theorem sameOutcome_render_sum :
    render sum .none ⟨0, 0⟩ = .ok "1+ 2" ∧
      SameOutcome (fun text text' => unspaced text = unspaced text')
        (render sum .none ⟨0, 0⟩) (.ok "1+2") ∧
      SameOutcome (· = ·) (render sum .none ⟨0, 0⟩) (render sum.tail .none ⟨0, 0⟩) :=
  ⟨rfl, (sameOutcome_render .none ⟨0, 0⟩).1 sum,
    (sameOutcome_render .none ⟨0, 0⟩).2 [] (.attr (.volatile 0)) sum.tail rfl⟩

end SpacingText

end Spreadsheet
