import Spreadsheet.Formula.Evaluate
import Spreadsheet.Proofs.MirroringLibrary

/-!
Formulas whose cells are at other places.

The tokens of a formula and those of another one mirror each other if they are the same except that
the second refers to the images of the cells that the first refers to. Then the two evaluations ask
for cells and for their images in step, and end alike. Areas are left out, and with them the
operator that makes an area of two references.
-/

namespace Spreadsheet

open Query

variable {σ : Place → Place} {site site' : CallSite} {o o' : Operand}

/-! ### Operators -/

namespace Evaluate

variable {u u' : Operand}

lemma mirrors_referenceOperator (hσ : Function.Injective σ) {op : BinaryOp} (hop : op ≠ .range)
    {ps qs : List Place} (hps : ps ≠ []) (hqs : qs ≠ []) :
    (referenceOperands op (.reference (.ofCells ps hps)) (.reference (.ofCells qs hqs))).Mirrors σ
      (referenceOperands op (.reference (.ofCells (ps.map σ) (by simpa using hps)))
        (.reference (.ofCells (qs.map σ) (by simpa using hqs)))) := by
  have hunion : (Operand.reference ((Reference.ofCells ps hps).union (.ofCells qs hqs))).Mirrors σ
      (.reference ((Reference.ofCells (ps.map σ) (by simpa using hps)).union
        (.ofCells (qs.map σ) (by simpa using hqs)))) := by
    simp only [Reference.union_ofCells, ← List.map_append]
    exact .cells _
  cases op with
  | range => exact absurd rfl hop
  | intersection =>
    simp only [referenceOperands, referenceOperator, Reference.intersect_ofCells,
      Reference.commonCells_map hσ]
    by_cases h : Reference.commonCells ps qs = []
    · simp only [h, List.map_nil, ne_eq, not_true_eq_false, dite_false]
      exact .value _
    · simp only [ne_eq, h, not_false_eq_true, dite_true, List.map_eq_nil_iff]
      exact .cells h
  | _ => exact hunion

lemma mirrors_referenceOperands (hσ : Function.Injective σ) {op : BinaryOp} (hop : op ≠ .range)
    (h : o.Mirrors σ o') (h' : u.Mirrors σ u') :
    (referenceOperands op o u).Mirrors σ (referenceOperands op o' u') := by
  cases h with
  | cells hps =>
    cases h' with
    | cells hqs => exact mirrors_referenceOperator hσ hop hps hqs
    | value v => rcases v with (_ | _ | _ | _ | _) | _ <;> exact .value _
    | missing => exact .value _
  | value v =>
    rcases v with (_ | _ | _ | _ | _) | _ <;> cases h' <;> try exact .value _
    all_goals rename_i w; rcases w with (_ | _ | _ | _ | _) | _ <;> exact .value _
  | missing =>
    cases h' with
    | value v => rcases v with (_ | _ | _ | _ | _) | _ <;> exact .value _
    | cells | missing => exact .value _

lemma mirrors_binary (hσ : Function.Injective σ) {op : BinaryOp} (hop : op ≠ .range)
    (hs : site'.settings = site.settings) (h : o.Mirrors σ o') (h' : u.Mirrors σ u') :
    (binary site op o u).Mirrors σ (Operand.Mirrors σ) (binary site' op o' u') := by
  unfold binary
  rw [hs]
  split_ifs
  · exact .answer (mirrors_referenceOperands hσ hop h h')
  · exact (Library.mirrors_array hs h).bind_eq fun v =>
      (Library.mirrors_array hs h').bind_eq fun w => .answer (.value _)

lemma mirrors_unary (op : UnaryOp) (hs : site'.settings = site.settings) (h : o.Mirrors σ o') :
    (unary site op o).Mirrors σ (Operand.Mirrors σ) (unary site' op o') := by
  unfold unary
  split_ifs
  · exact .answer h
  · exact (Library.mirrors_array hs h).bind_eq fun v => .answer (.value _)

lemma mirrors_applyClass (cls : TokenClass) (hs : site'.settings = site.settings)
    (h : o.Mirrors σ o') :
    (applyClass site cls o).Mirrors σ (Operand.Mirrors σ) (applyClass site' cls o') := by
  cases h with
  | value v => exact .answer (.value v)
  | missing => exact .answer .missing
  | @cells ps h =>
    cases cls with
    | reference => exact .answer (.cells h)
    | array => exact (Library.mirrors_array hs (.cells h)).bind_eq fun v => .answer (.value v)
    | value =>
      match ps with
      | [p] =>
        simp only [applyClass, List.map_cons, List.map_nil, Reference.intersectionCell?_cell]
        exact .answer (.cell σ p)
      | _ :: _ :: _ => exact .answer (.value _)

/-! ### Calls -/

/-- Entries of the stack that are the same but for the places of cells. -/
inductive Item.Mirrors (σ : Place → Place) : Item → Item → Prop
  | operand {o o' : Operand} (h : o.Mirrors σ o') : Mirrors σ (.operand o) (.operand o')
  | callee (name : String) : Mirrors σ (.callee name) (.callee name)

variable {functions : Dispatcher} {item item' : Item} {args args' : List Item}

lemma Item.Mirrors.toOperand (h : item.Mirrors σ item') :
    item.toOperand.Mirrors σ item'.toOperand := by
  cases h with
  | operand h => exact h
  | callee name => exact .value _

lemma Item.Mirrors.ofValue (v : Value) : Item.Mirrors σ (.ofValue v) (.ofValue v) :=
  .operand (.value v)

lemma mirrors_dispatch (hf : functions.Mirrors σ) (hs : site'.settings = site.settings)
    (call : FunctionCall) (h : List.Forall₂ (Item.Mirrors σ) args args') :
    (dispatch functions site call args).Mirrors σ (Item.Mirrors σ)
      (dispatch functions site' call args') := by
  have hargs : List.Forall₂ (Operand.Mirrors σ) (args.map Item.toOperand)
      (args'.map Item.toOperand) := by
    rw [List.forall₂_map_left_iff, List.forall₂_map_right_iff]
    exact h.imp fun _ _ => Item.Mirrors.toOperand
  refine (hf site site' call _ _ hs hargs).bind fun _ _ ho => ?_
  cases ho with
  | none => exact .answer (.ofValue _)
  | some ho => exact .answer (.operand ho)

lemma mirrors_callBuiltin (hf : functions.Mirrors σ) (hs : site'.settings = site.settings)
    (id : UInt16) (h : List.Forall₂ (Item.Mirrors σ) args args') :
    (callBuiltin functions site id args).Mirrors σ (Item.Mirrors σ)
      (callBuiltin functions site' id args') := by
  unfold callBuiltin
  rw [h.length_eq]
  split
  · exact .answer (.ofValue _)
  · split_ifs
    · exact .answer (.ofValue _)
    · exact mirrors_dispatch hf hs _ h

lemma mirrors_callUser (hf : functions.Mirrors σ) (hs : site'.settings = site.settings)
    (h : List.Forall₂ (Item.Mirrors σ) args args') :
    (callUser functions site args).Mirrors σ (Item.Mirrors σ) (callUser functions site' args') := by
  rcases h with _ | ⟨hcallee, hargs⟩
  · exact .answer (.ofValue _)
  cases hcallee with
  | callee name => exact mirrors_dispatch hf hs _ hargs
  | operand ho =>
    cases ho with
    | value v => rcases v with (_ | _ | _ | _ | _) | _ <;> exact .answer (.ofValue _)
    | cells | missing => exact .answer (.ofValue _)

lemma mirrors_inClass (cls : TokenClass) (hs : site'.settings = site.settings)
    (h : item.Mirrors σ item') :
    (inClass site cls item).Mirrors σ (Item.Mirrors σ) (inClass site' cls item') := by
  cases h with
  | operand h => exact (mirrors_applyClass cls hs h).bind fun _ _ ho => .answer (.operand ho)
  | callee name => exact .answer (.callee name)

end Evaluate

/-! ### Tokens -/

/-- The token refers to no cells, makes no area of two references, and is no name behind a link. -/
def Token.Placeless : Token → Prop
  | ref .. | area .. | refN .. | areaN .. | ref3d .. | area3d .. | nameX .. | binary .range => False
  | _ => True

/-- At its site, the second token refers to the image of the cell that the first one refers to. -/
inductive Token.Mirrors (σ : Place → Place) (site site' : CallSite) : Token → Token → Prop
  | same {t : Token} (h : t.Placeless) : Mirrors σ site site' t t
  | ref {cls : TokenClass} {a a' : Address}
    (h : (⟨site'.here.sheet, a'.cell⟩ : Place) = σ ⟨site.here.sheet, a.cell⟩) :
    Mirrors σ site site' (.ref cls a) (.ref cls a')
  | ref3d {cls : TokenClass} {link : UInt16} {a a' : Address}
    (h : ∀ sheets, site.surroundings.sheetsOf link = .ok sheets →
      ∀ k ∈ sheets, (⟨k, a'.cell⟩ : Place) = σ ⟨k, a.cell⟩) :
    Mirrors σ site site' (.ref3d cls link a) (.ref3d cls link a')

/-- Names that are the same but for the places of cells. -/
structure DefinedName.Mirrors (σ : Place → Place) (site site' : CallSite) (n n' : DefinedName) :
    Prop where
  name : n'.name = n.name
  body : List.Forall₂ (Token.Mirrors σ site site') n.body n'.body

/-- Sites that differ only in what names refer to, and whose names mirror each other. -/
structure CallSite.Mirrors (σ : Place → Place) (site site' : CallSite) : Prop where
  settings : site'.settings = site.settings
  sheets : ∀ link, site'.surroundings.sheetsOf link = site.surroundings.sheetsOf link
  names : ∀ i, Option.Rel (DefinedName.Mirrors σ site site') (site.surroundings.definedName i)
    (site'.surroundings.definedName i)

lemma Token.Mirrors.operandCount? {t t' : Token} (h : t.Mirrors σ site site' t') :
    t'.operandCount? = t.operandCount? := by
  cases h <;> rfl

lemma Token.Mirrors.opcode {t t' : Token} (h : t.Mirrors σ site site' t') :
    t'.opcode = t.opcode := by
  cases h <;> rfl

lemma Surroundings.onSheetsOf_eq {s : Surroundings} {link : UInt16} {sheets : List Nat}
    (h : s.sheetsOf link = .ok sheets) (c : Cell) :
    (s.onSheetsOf link fun sheet => .single ⟨sheet, c⟩) =
      if hs : sheets.map (Place.mk · c) ≠ [] then .ok (.ofCells _ hs) else .error .reference := by
  unfold onSheetsOf Reference.ofAreas?
  rw [h]
  by_cases hs : sheets = []
  · subst hs
    rfl
  · simp [hs, Reference.ofCells, Bind.bind, Except.bind, pure, Except.pure]

/-- What a link leads to on the sheets of both sites. -/
lemma mirrors_onSheetsOf (hsite : site.Mirrors σ site') {link : UInt16} {c c' : Cell}
    (h : ∀ sheets, site.surroundings.sheetsOf link = .ok sheets →
      ∀ k ∈ sheets, (⟨k, c'⟩ : Place) = σ ⟨k, c⟩) :
    (Surroundings.resolve?.operand
      (site.surroundings.onSheetsOf link fun sheet => .single ⟨sheet, c⟩)).Mirrors σ
      (Surroundings.resolve?.operand
        (site'.surroundings.onSheetsOf link fun sheet => .single ⟨sheet, c'⟩)) := by
  rcases hlink : site.surroundings.sheetsOf link with e | sheets
  · have hlink' := (hsite.sheets link).trans hlink
    unfold Surroundings.onSheetsOf
    rw [hlink, hlink']
    exact .value _
  · have himage : sheets.map (Place.mk · c') = (sheets.map (Place.mk · c)).map σ := by
      rw [List.map_map]
      exact List.map_congr_left (h sheets hlink)
    rw [Surroundings.onSheetsOf_eq hlink,
      Surroundings.onSheetsOf_eq ((hsite.sheets link).trans hlink)]
    by_cases hs : sheets.map (Place.mk · c) = []
    · have hs' : sheets.map (Place.mk · c') = [] := by rw [himage, hs]; rfl
      rw [dif_neg (by simpa using hs), dif_neg (by simpa using hs')]
      exact .value _
    · have hs' : sheets.map (Place.mk · c') ≠ [] := by simpa [himage] using hs
      rw [dif_pos hs, dif_pos hs']
      simp only [himage]
      exact .cells hs

/-! ### Runs -/

namespace Evaluate

variable {functions : Dispatcher} {body body' : BodyEvaluator} {args args' stack stack' : List Item}

/-- Evaluations of names that mirror each other. -/
def BodyMirrors (σ : Place → Place) (site site' : CallSite) (body body' : BodyEvaluator) : Prop :=
  ∀ tokens tokens', List.Forall₂ (Token.Mirrors σ site site') tokens tokens' →
    MirrorsResult σ (Operand.Mirrors σ) (body tokens) (body' tokens')

lemma mirrors_definedName (hsite : site.Mirrors σ site') (hb : BodyMirrors σ site site' body body')
    (i : UInt16) : MirrorsResult σ (Item.Mirrors σ) (definedName body site i)
      (definedName body' site' i) := by
  have hname := hsite.names i
  unfold definedName
  revert hname
  generalize site.surroundings.definedName i = n
  generalize site'.surroundings.definedName i = n'
  rintro (⟨⟨hname, hbody⟩⟩ | _)
  · rename_i n n'
    have hempty : n'.body.isEmpty = n.body.isEmpty := by
      rw [Bool.eq_iff_iff, List.isEmpty_iff_length_eq_zero, List.isEmpty_iff_length_eq_zero,
        hbody.length_eq]
    dsimp only
    rw [hempty, hname]
    split_ifs
    · exact mirrorsResult_pure (.callee _)
    · exact Mirrors.bind_result (hb _ _ hbody) fun _ _ ho => mirrorsResult_pure (.operand ho)
  · exact mirrorsResult_pure (.ofValue _)

lemma mirrors_item {x x' : Query Item} (h : x.Mirrors σ (Item.Mirrors σ) x') :
    MirrorsResult σ (Option.Rel (Item.Mirrors σ))
      (ExceptT.lift (some <$> x) : ExceptT EvalError Query (Option Item))
      (ExceptT.lift (some <$> x')) :=
  mirrorsResult_lift (h.map fun _ _ => .some)

lemma mirrors_operand {x x' : Query Operand} (h : x.Mirrors σ (Operand.Mirrors σ) x') :
    MirrorsResult σ (Option.Rel (Item.Mirrors σ))
      (ExceptT.lift (some <$> (Item.operand <$> x)) : ExceptT EvalError Query (Option Item))
      (ExceptT.lift (some <$> (Item.operand <$> x'))) :=
  mirrors_item (h.map fun _ _ => .operand)

lemma mirrors_value (v : Value) :
    MirrorsResult σ (Option.Rel (Item.Mirrors σ))
      (pure (some (Item.ofValue v)) : ExceptT EvalError Query (Option Item))
      (pure (some (Item.ofValue v))) :=
  mirrorsResult_pure (.some (.ofValue v))

lemma mirrors_none : MirrorsResult σ (Option.Rel (Item.Mirrors σ))
    (pure none : ExceptT EvalError Query (Option Item)) (pure none) :=
  mirrorsResult_pure .none

lemma mirrors_argument (h : List.Forall₂ (Item.Mirrors σ) args args') (i : Nat) :
    ((args[i]?.map Item.toOperand).getD .missing).Mirrors σ
      ((args'[i]?.map Item.toOperand).getD .missing) := by
  induction h generalizing i with
  | nil => exact .missing
  | cons h _ ih =>
    cases i with
    | zero => exact h.toOperand
    | succ i => exact ih i

section
variable (hσ : Function.Injective σ) (hf : functions.Mirrors σ) (hsite : site.Mirrors σ site')
  (hb : BodyMirrors σ site site' body body')
include hσ hf hsite hb

/-- Tokens that mirror each other make of operands and their images results that mirror each
other. -/
lemma mirrors_tokenResult (index : Nat) (h : List.Forall₂ (Item.Mirrors σ) args args')
    {t t' : Token} (ht : t.Mirrors σ site site' t') :
    MirrorsResult σ (Option.Rel (Item.Mirrors σ)) (tokenResult functions body site index args t)
      (tokenResult functions body' site' index args' t') := by
  have hs := hsite.settings
  cases ht with
  | @ref cls a a' ha =>
    refine mirrors_operand (mirrors_applyClass cls hs ?_)
    rw [ha]
    exact .cell σ _
  | @ref3d cls link a a' ha =>
    exact mirrors_operand (mirrors_applyClass cls hs (mirrors_onSheetsOf hsite ha))
  | same ht =>
    cases t with
    | exp | table => exact mirrorsResult_throw _
    | paren | memory => exact mirrors_none
    | attr a =>
      cases a with
      | sum => exact mirrors_item (mirrors_callBuiltin hf hs _ h)
      | _ => exact mirrors_none
    | missing => exact mirrorsResult_pure (.some (.operand .missing))
    | text | bool | int | num | error => exact mirrors_value _
    | array =>
      unfold tokenResult
      dsimp only
      rw [hs]
      split_ifs <;> exact mirrors_value _
    | binary op =>
      have hop : op ≠ .range := by
        rintro rfl
        exact ht
      exact mirrors_operand (mirrors_binary hσ hop hs (mirrors_argument h 0)
        (mirrors_argument h 1))
    | unary op => exact mirrors_operand (mirrors_unary op hs (mirrors_argument h 0))
    | func _ id => exact mirrors_item (mirrors_callBuiltin hf hs id h)
    | funcVar _ _ _ id =>
      unfold tokenResult
      dsimp only
      split_ifs
      · exact mirrors_item (mirrors_callUser hf hs h)
      · exact mirrors_item (mirrors_callBuiltin hf hs id h)
    | name cls i =>
      exact Mirrors.bind_result (mirrors_definedName hsite hb i) fun _ _ hi =>
        mirrors_item (mirrors_inClass cls hs hi)
    | refErr cls | areaErr cls | refErr3d cls | areaErr3d cls =>
      exact mirrors_operand (mirrors_applyClass cls hs (.value _))
    | ref | area | refN | areaN | ref3d | area3d | nameX => exact ht.elim

/-- One token on stacks that mirror each other. -/
lemma mirrors_step (hstack : List.Forall₂ (Item.Mirrors σ) stack stack') (index : Nat)
    {t t' : Token} (ht : t.Mirrors σ site site' t') :
    MirrorsResult σ (List.Forall₂ (Item.Mirrors σ)) (step functions body site stack index t)
      (step functions body' site' stack' index t') := by
  unfold step
  rw [ht.operandCount?, ht.opcode, hstack.length_eq]
  split
  · cases ht with
    | same => split <;> exact mirrorsResult_throw _
    | ref | ref3d => exact mirrorsResult_throw _
  rename_i n _
  have hargs : List.Forall₂ (Item.Mirrors σ) (stack.take n).reverse (stack'.take n).reverse :=
    List.rel_reverse (List.forall₂_take n hstack)
  have hrest : ∀ r r', Option.Rel (Item.Mirrors σ) r r' →
      MirrorsResult σ (List.Forall₂ (Item.Mirrors σ))
        (pure (r.toList ++ stack.drop n) : ExceptT EvalError Query (List Item))
        (pure (r'.toList ++ stack'.drop n)) := fun r r' hr => mirrorsResult_pure <| by
    cases hr with
    | none => exact List.forall₂_drop n hstack
    | some h => exact .cons h (List.forall₂_drop n hstack)
  split_ifs
  · exact mirrorsResult_throw _
  · exact Mirrors.bind_result (mirrors_tokenResult hσ hf hsite hb index hargs ht) hrest

/-- **Formulas that mirror each other run in step.** -/
theorem mirrors_run {tokens tokens' : List Token}
    (ht : List.Forall₂ (Token.Mirrors σ site site') tokens tokens') :
    MirrorsResult σ (Operand.Mirrors σ) (run functions body site tokens)
      (run functions body' site' tokens') := by
  have hzip : ∀ {ts ts' : List Token} (k : Nat),
      List.Forall₂ (Token.Mirrors σ site site') ts ts' →
      List.Forall₂ (fun x x' => x.1.Mirrors σ site site' x'.1 ∧ x'.2 = x.2)
        (ts.zipIdx k) (ts'.zipIdx k) := by
    intro ts ts' k h
    induction h generalizing k with
    | nil => exact .nil
    | cons ht _ ih => exact .cons ⟨ht, rfl⟩ (ih (k + 1))
  refine Mirrors.bind_result (mirrorsResult_foldlM (S := List.Forall₂ (Item.Mirrors σ))
    (hzip 0 ht) .nil ?_) fun stack stack' hstack => ?_
  · rintro stack stack' ⟨t, i⟩ ⟨t', i'⟩ hstack ⟨ht, rfl⟩
    exact mirrors_step hσ hf hsite hb hstack _ ht
  · match hstack with
    | .nil => exact mirrorsResult_throw _
    | .cons hitem .nil => exact mirrorsResult_pure hitem.toOperand
    | .cons _ (.cons _ hrest) =>
      simp only [List.length_cons, hrest.length_eq]
      exact mirrorsResult_throw _

omit hb in
/-- Names may refer to names, and mirror each other likewise. -/
theorem mirrors_withLevels (levels : Nat) :
    BodyMirrors σ site site' (withLevels functions site levels)
      (withLevels functions site' levels) := by
  induction levels with
  | zero =>
    have hname : BodyMirrors σ site site' (fun _ => return .error .name)
        (fun _ => return .error .name) := fun _ _ _ => mirrorsResult_pure (.value _)
    exact fun _ _ ht => mirrors_run hσ hf hsite hname ht
  | succ levels ih => exact fun _ _ ht => mirrors_run hσ hf hsite ih ht

end

end Evaluate

/-- **Formulas that mirror each other come to the same value**, or fail alike, if the values of the
cells that they ask for are the same. -/
theorem mirrors_evaluate {functions : Dispatcher} (hσ : Function.Injective σ)
    (hf : functions.Mirrors σ) (hsite : site.Mirrors σ site') {tokens tokens' : List Token}
    (ht : List.Forall₂ (Token.Mirrors σ site site') tokens tokens') :
    MirrorsResult σ Eq (evaluate functions site tokens) (evaluate functions site' tokens') := by
  unfold evaluate evaluateOperand
  rw [hsite.settings]
  exact Mirrors.bind_result (Evaluate.mirrors_withLevels hσ hf hsite _ _ _ ht) fun _ _ ho =>
    mirrorsResult_lift ((ho.scalarValue _ _).map_eq Value.first)

end Spreadsheet
