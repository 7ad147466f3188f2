import Spreadsheet.Proofs.ExpressionTree

/-!
Formulas that spell trees.

The depth of the stack tells how the tokens of a formula group: each joins the latest trees to one.
So a formula that has a result, whatever its names stand for, is a tree in postfix order with notes
between the tokens.
-/

namespace Spreadsheet

open Query

namespace Expr

variable {t : Token} {s : Surroundings} {scan : List Token → Except EvalError Unit}

lemma exists_branches {n : Nat} {es : List Expr} (h : n = es.length) :
    ∃ args : Fin n → Expr, (List.finRange n).flatMap (fun i => (args i).tokens) =
      es.flatMap Expr.tokens := by
  subst h
  refine ⟨es.get, ?_⟩
  rw [← List.flatMap_map, List.map_get_finRange]

/-- A token that pushes a result joins the trees of its operands to one. -/
lemma exists_join {es : List Expr} {index : Nat} (hcount : t.operandCount? = some es.length)
    (hpushes : t.pushes index = .ok true) :
    ∃ e : Expr, e.tokens = es.flatMap Expr.tokens ++ [t] := by
  have hleaf : ∀ e : Expr, e.tokens = [t] → some 0 = some es.length →
      ∃ e : Expr, e.tokens = es.flatMap Expr.tokens ++ [t] := by
    intro e he hzero
    obtain rfl := List.length_eq_zero_iff.mp (Option.some.inj hzero).symm
    exact ⟨e, he⟩
  cases t with
  | exp | table | paren | memory => cases hpushes
  | attr a =>
    cases a with
    | sum data =>
      obtain ⟨e, rfl⟩ := List.length_eq_one_iff.mp (Option.some.inj hcount).symm
      exact ⟨.sum data e, by simp [tokens]⟩
    | _ => cases hpushes
  | missing => exact hleaf (.literal .missing) rfl hcount
  | text x => exact hleaf (.literal (.text x)) rfl hcount
  | error x => exact hleaf (.literal (.error x)) rfl hcount
  | bool x => exact hleaf (.literal (.bool x)) rfl hcount
  | int x => exact hleaf (.literal (.int x)) rfl hcount
  | num x => exact hleaf (.literal (.num x)) rfl hcount
  | array cls reserved x => exact hleaf (.literal (.array cls reserved x)) rfl hcount
  | name cls i reserved => exact hleaf (.name (.defined cls i reserved)) rfl hcount
  | nameX cls link i reserved => exact hleaf (.name (.linked cls link i reserved)) rfl hcount
  | unary op =>
    obtain ⟨e, rfl⟩ := List.length_eq_one_iff.mp (Option.some.inj hcount).symm
    exact ⟨.unary op e, by simp [tokens]⟩
  | binary op =>
    obtain ⟨l, r, rfl⟩ := List.length_eq_two.mp (Option.some.inj hcount).symm
    exact ⟨.binary op l r, by simp [tokens]⟩
  | func cls id =>
    obtain ⟨args, hargs⟩ := exists_branches (rfl : es.length = es.length)
    exact ⟨.call cls id es.length hcount args, congrArg (· ++ [_]) hargs⟩
  | funcVar cls argc prompt id command =>
    obtain ⟨args, hargs⟩ := exists_branches (Option.some.inj hcount)
    exact ⟨.callWith cls argc prompt id command args, congrArg (· ++ [_]) hargs⟩
  | ref cls | area cls | refErr cls | areaErr cls | refN cls | areaN cls | ref3d cls | area3d cls
  | refErr3d cls | areaErr3d cls => exact hleaf (.reference ⟨_, cls, rfl, rfl, rfl⟩) rfl hcount

/-- A token that finds its operands takes the latest trees, or none if it is a note. -/
lemma exists_of_depthAfter {es : List Expr} {index depth : Nat}
    (h : t.depthAfter index es.length = .ok depth) :
    ∃ es' : List Expr, es'.length = depth ∧
      es'.flatMap Expr.tokens = es.flatMap Expr.tokens ++ [t].filter (!·.isControl) := by
  rcases hn : t.operandCount? with _ | n
  · cases t with
    | func =>
      unfold Token.depthAfter at h
      rw [hn] at h
      cases h
    | attr a => cases a <;> cases hn
    | _ => cases hn
  rw [Token.depthAfter_of_operandCount? hn] at h
  split_ifs at h with hlt
  rcases hp : t.pushes index with e | pushed
  · rw [hp] at h
    cases h
  rw [hp] at h
  obtain rfl : es.length - n + pushed.toNat = depth := Except.ok.inj h
  have hpushed : pushed = !t.isControl := by
    cases t with
    | exp | table => cases hp
    | _ => exact (Except.ok.inj hp).symm
  cases hcontrol : t.isControl with
  | true =>
    have hzero : n = 0 := by
      cases t with
      | attr a => cases a <;> first | exact (Option.some.inj hn).symm | cases hcontrol
      | paren | memory => exact (Option.some.inj hn).symm
      | _ => cases hcontrol
    exact ⟨es, by simp [hpushed, hcontrol, hzero], by simp [hcontrol]⟩
  | false =>
    have hlast : t.operandCount? = some (es.drop (es.length - n)).length := by
      rw [hn, List.length_drop]
      exact congrArg some (by omega)
    obtain ⟨e, he⟩ := exists_join hlast (hp.trans (by rw [hpushed, hcontrol]; rfl))
    refine ⟨es.take (es.length - n) ++ [e], ?_, ?_⟩
    · simp [hpushed, hcontrol]
    · have hes : es.flatMap Expr.tokens = (es.take (es.length - n)).flatMap Expr.tokens ++
          (es.drop (es.length - n)).flatMap Expr.tokens := by
        rw [← List.flatMap_append, List.take_append_drop]
      simp [he, hes, hcontrol]

/-- Each tree that the scan of the stack counts stands in the formula. -/
lemma exists_of_scan {tokens : List Token} {es : List Expr} {index depth : Nat}
    (h : (tokens.zipIdx index).foldlM (scanStep scan s) es.length = .ok depth) :
    ∃ es' : List Expr, es'.length = depth ∧
      es'.flatMap Expr.tokens = es.flatMap Expr.tokens ++ tokens.filter (!·.isControl) := by
  -- The trees that lie on the stack vary: each token joins the last of them.
  induction tokens generalizing es index with
  | nil => exact ⟨es, Except.ok.inj h, (List.append_nil _).symm⟩
  | cons t tokens ih =>
    rw [List.zipIdx_cons, List.foldlM_cons, scanStep] at h
    rcases hname : scanName scan s t with e | _
    · rw [hname] at h
      cases h
    rcases hd : t.depthAfter index es.length with e | d
    · rw [hname, hd] at h
      cases h
    rw [hname, hd] at h
    obtain ⟨joined, rfl, hjoined⟩ := exists_of_depthAfter hd
    obtain ⟨es', hlength, hes'⟩ := ih h
    refine ⟨es', hlength, ?_⟩
    rw [hes', hjoined, List.append_assoc, ← List.filter_append, List.singleton_append]

lemma exists_of_scanLevels {levels : Nat} {tokens : List Token}
    (h : scanLevels s levels tokens = .ok ()) :
    ∃ e : Expr, tokens.filter (!·.isControl) = e.tokens := by
  have hwith : ∃ scan, scanLevels s levels = scanWith scan s := by
    cases levels <;> exact ⟨_, rfl⟩
  obtain ⟨scan, hscan⟩ := hwith
  rw [hscan, scanWith] at h
  rcases hd : tokens.zipIdx.foldlM (scanStep scan s) 0 with e | depth
  · rw [hd] at h
    cases h
  rw [hd] at h
  have hone : depth = 1 := by
    by_contra hne
    have hleft : checkLeft depth = .ok () := h
    rw [checkLeft, if_neg hne] at hleft
    cases hleft
  obtain ⟨es, hlength, hes⟩ : ∃ es : List Expr, es.length = depth ∧
      es.flatMap Expr.tokens = ([] : List Expr).flatMap Expr.tokens ++
        tokens.filter (!·.isControl) := exists_of_scan hd
  obtain ⟨e, rfl⟩ := List.length_eq_one_iff.mp (hlength.trans hone)
  exact ⟨e, by simpa using hes.symm⟩

/-- **A formula that has a result spells a tree.** -/
theorem exists_of_evaluateOperand {functions : Dispatcher} {site : CallSite} {tokens : List Token}
    {values : Place → Value} {o : Operand}
    (h : (evaluateOperand functions site tokens).run.eval values = .ok o) :
    Succeeds (evaluateOperand functions site tokens) ∧
      ∃ e : Expr, tokens.filter (!·.isControl) = e.tokens := by
  have hcomes : ComesOutAs (fun _ => ())
      (scanLevels site.surroundings site.settings.maxNameDepth tokens)
      (evaluateOperand functions site tokens) :=
    Evaluate.comesOutAs_withLevels site.settings.maxNameDepth tokens
  have hscan : .ok () = scanLevels site.surroundings site.settings.maxNameDepth tokens := by
    have heval : ((evaluateOperand functions site tokens).run.eval values).map (fun _ => ()) =
        scanLevels site.surroundings site.settings.maxNameDepth tokens :=
      Ensures.eval hcomes fun _ _ => trivial
    rw [← heval, h]
    rfl
  rw [← hscan] at hcomes
  exact ⟨hcomes, exists_of_scanLevels hscan.symm⟩

end Expr

end Spreadsheet
