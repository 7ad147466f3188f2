import Spreadsheet.Proofs.Anchors
import Spreadsheet.Proofs.EditValues
import Spreadsheet.Proofs.LinkRenumbering

/-!
References to a removed sheet.

No operation changes the link that a token names, whether it moves the token or breaks it, and no
operation gives a removed sheet back to a link. So a reference through the link of a removed sheet
stays broken for as long as its formula or its name is stored, in its first form or as an error.
-/

namespace Spreadsheet

/-! ### The links that tokens name -/

/-- The link that a reference into another sheet names, which it keeps when it is broken. -/
def Token.namedLink? : Token → Option UInt16
  | ref3d _ link _ | area3d _ link _ | refErr3d _ link _ | areaErr3d _ link _ => some link
  | _ => none

section
variable {t : Token} {link : UInt16}

lemma Token.namedLink?_of_link? (h : t.link? = some link) : t.namedLink? = some link := by
  cases t with
  | ref3d | area3d => exact h
  | _ => cases h

lemma Token.namedLink?_broken? (t : Token) : (t.broken?.getD t).namedLink? = t.namedLink? := by
  cases t <;> rfl

lemma Token.namedLink?_bindTo (anchor cell : Cell) (limits : Limits) (t : Token) :
    (t.bindTo anchor cell limits).namedLink? = t.namedLink? := by
  cases t with
  | ref3d | area3d =>
    simp only [bindTo]
    split <;> rfl
  | _ => rfl

lemma GridEdit.namedLink?_moveToken (e : GridEdit) (t : Token) :
    (e.moveToken t).namedLink? = t.namedLink? := by
  cases t with
  | ref | area | ref3d | area3d =>
    simp only [moveToken]
    split <;> rfl
  | _ => rfl

lemma GridEdit.namedLink?_scanToken (e : GridEdit) (links : SheetLinks) (own : Nat) (t : Token) :
    (e.scanToken links own t).namedLink? = t.namedLink? := by
  unfold scanToken
  split_ifs
  · exact e.namedLink?_moveToken t
  · rfl

end

namespace FormulaRecord

def namedLinks (r : FormulaRecord) : List (Option UInt16) := r.tokens.map Token.namedLink?

lemma namedLinks_mapTokens {f : Nat → Token → Token}
    (h : ∀ i t, (f i t).namedLink? = t.namedLink?) (r : FormulaRecord) :
    (r.mapTokens f).namedLinks = r.namedLinks := by
  refine List.ext_getElem? fun i => ?_
  simp [namedLinks, h, Function.comp_def]

/-- A placeholder names no link, wherever it points. -/
lemma namedLinks_moveRecord (e : GridEdit) (r : FormulaRecord) :
    (e.moveRecord r).namedLinks = r.namedLinks := by
  obtain ⟨sheet, body⟩ := r
  cases body with
  | cell c tokens =>
    show (e.movePlaceholder tokens).map Token.namedLink? = tokens.map Token.namedLink?
    unfold GridEdit.movePlaceholder
    split
    · split <;> rfl
    · rfl
  | shared | array => rfl

end FormulaRecord

/-! ### What becomes of stored formulas -/

namespace FormulaStore

/-- A formula of `s'` whose number was given in `s` is the formula of `s` with that number, with
tokens that name the same links. -/
structure Inherits (s s' : FormulaStore) : Prop where
  size_le : s.records.size ≤ s'.records.size
  get? : ∀ k r', k < s.records.size → s'.get? k = some r' →
    ∃ r, s.get? k = some r ∧ r'.namedLinks = r.namedLinks

variable {s s' s'' : FormulaStore} {links : SheetLinks}

lemma Inherits.refl (s : FormulaStore) : s.Inherits s :=
  ⟨Nat.le_refl _, fun _ r _ hr => ⟨r, hr, rfl⟩⟩

lemma Inherits.trans (h : s.Inherits s') (h' : s'.Inherits s'') : s.Inherits s'' := by
  refine ⟨Nat.le_trans h.size_le h'.size_le, fun k r'' hk hr'' => ?_⟩
  obtain ⟨r', hr', hlinks'⟩ := h'.get? k r'' (Nat.lt_of_lt_of_le hk h.size_le) hr''
  obtain ⟨r, hr, hlinks⟩ := h.get? k r' hk hr'
  exact ⟨r, hr, hlinks'.trans hlinks⟩

lemma inherits_remove (hs : s.Coherent) (id : Nat) : s.Inherits (s.remove id) := by
  refine ⟨Nat.le_of_eq (size_remove id).symm, fun k r' _ hr' => ⟨r', ?_, rfl⟩⟩
  rw [(drop_remove hs id).get?] at hr'
  split_ifs at hr'
  exact hr'

lemma inherits_insert (hs : s.Coherent) (links : SheetLinks) (r : FormulaRecord) :
    s.Inherits (s.insert links r).2 := by
  refine ⟨by rw [size_insert]; exact Nat.le_succ _, fun k r' hk hr' => ⟨r', ?_, rfl⟩⟩
  rw [(put_insert links r hs).get?, if_neg (Nat.ne_of_lt hk)] at hr'
  exact (Option.filter_eq_some_iff.mp hr').1

lemma Replaced.namedLinks {rule : Nat → Token → Option Token} {p : Handle → Prop}
    [DecidablePred p] (h : Replaced s s' rule p)
    (hrule : ∀ own t, ((rule own t).getD t).namedLink? = t.namedLink?) {k : Nat}
    {r' : FormulaRecord} (hr' : s'.get? k = some r') :
    ∃ r, s.get? k = some r ∧ r'.namedLinks = r.namedLinks := by
  rw [h.get?] at hr'
  obtain ⟨r, hr, rfl⟩ := Option.map_eq_some_iff.mp hr'
  refine ⟨r, hr, FormulaRecord.namedLinks_mapTokens (fun i t => ?_) r⟩
  split_ifs
  · exact hrule r.sheet t
  · rfl

lemma namedLink?_observedRule (links : SheetLinks) (e : GridEdit) (own : Nat) (t : Token) :
    ((observedRule links e own t).getD t).namedLink? = t.namedLink? := by
  rw [observedRule_getD]
  exact e.namedLink?_scanToken links own t

lemma namedLink?_wholeRule (limits : Limits) (links : SheetLinks) (e : GridEdit) (own : Nat)
    (t : Token) : ((wholeRule limits links e own t).getD t).namedLink? = t.namedLink? := by
  rw [wholeRule_getD]
  split_ifs
  · exact e.namedLink?_scanToken links own t
  · rfl

lemma inherits_edit (hs : s.Coherent) (links : SheetLinks) (e : GridEdit) :
    s.Inherits (s.edit links e) := by
  refine ⟨Nat.le_of_eq (size_edit e).symm, fun k r' _ hr' => ?_⟩
  have hobserved := replaced_moveObserved hs links e
  have hwhole := replaced_moveWholeAreas hobserved.coherent links e
  obtain ⟨d, hd, rfl⟩ := of_get?_foldl_update (coherent_prepared hs links e)
    (nodup_movingOrder _ e) links hr'
  rw [prepared, get?_dropDeleted hwhole.coherent] at hd
  obtain ⟨hd, -⟩ := Option.filter_eq_some_iff.mp hd
  obtain ⟨d', hd', hlinks'⟩ := hwhole.namedLinks (namedLink?_wholeRule _ links e) hd
  obtain ⟨r, hr, hlinks⟩ := hobserved.namedLinks (namedLink?_observedRule links e) hd'
  refine ⟨r, hr, Eq.trans ?_ (hlinks'.trans hlinks)⟩
  split_ifs
  · exact d.namedLinks_moveRecord e
  · rfl

lemma size_breakObservers (s : FormulaStore) (links : SheetLinks) (sheet : Nat) :
    (s.breakObservers links sheet).records.size = s.records.size := by
  refine List.foldlRecOn (motive := fun t : FormulaStore => t.records.size = s.records.size) _ _ rfl
    fun t ht h _ => ?_
  split
  · exact (size_replaceToken h _).trans ht
  · exact ht

lemma size_withoutSheet (s : FormulaStore) (links : SheetLinks) (removed : Nat) :
    (s.withoutSheet links removed).records.size = s.records.size := by
  refine List.foldlRecOn (motive := fun t : FormulaStore => t.records.size = s.records.size) _ _ rfl
    fun t ht id _ => ?_
  split_ifs
  · exact (size_remove id).trans ht
  · exact (size_update id _).trans ht

end FormulaStore

namespace Workbook

variable {w : Workbook}

lemma inherits_insertRecord (hw : w.formulas.Coherent) (r : FormulaRecord) :
    w.formulas.Inherits (w.insertRecord r).2.formulas :=
  FormulaStore.inherits_insert hw w.links r

lemma inherits_fillPlaceholders (hw : w.formulas.Coherent) (sheet : Nat) (range : CellRange) :
    (w.fillPlaceholders sheet range).formulas.Coherent ∧
      w.formulas.Inherits (w.fillPlaceholders sheet range).formulas :=
  fillPlaceholders_induction (P := fun v => w.formulas.Inherits v.formulas) hw (.refl _)
    fun _ hv hinherits _ _ => hinherits.trans (inherits_insertRecord hv _)

lemma inherits_deleteSheet (hw : w.formulas.Coherent) (sheet : Nat) :
    w.formulas.Inherits (w.deleteSheet sheet).formulas := by
  by_cases hs : sheet < w.sheets.size
  · refine ⟨Nat.le_of_eq ?_, fun k r' _ hr' => ?_⟩
    · unfold deleteSheet
      rw [Array.getElem?_eq_getElem hs]
      exact ((FormulaStore.size_withoutSheet _ _ _).trans
        (FormulaStore.size_breakObservers _ _ _)).symm
    · rw [get?_deleteSheet hw hs] at hr'
      obtain ⟨r, hr, hr'⟩ := Option.bind_eq_some_iff.mp hr'
      split_ifs at hr'
      cases hr'
      refine ⟨r, hr, r.namedLinks_mapTokens fun i t => ?_⟩
      unfold breaking
      split_ifs
      · exact t.namedLink?_broken?
      · rfl
  · unfold deleteSheet
    rw [Array.getElem?_eq_none (Nat.le_of_not_lt hs)]
    exact .refl _

/-- No operation changes the links that the tokens of a formula name. -/
theorem Reachable.inherits_apply (hw : w.Reachable) (op : Operation) :
    w.formulas.Inherits (w.apply op).formulas := by
  have hcoherent := hw.coherent
  cases op with
  | addSheet | addLink | addName | addLinkedName | recalculate => exact .refl _
  | setValue p v =>
    show w.formulas.Inherits (w.setValue p v).formulas
    rw [formulas_setValue]
    split
    · exact FormulaStore.inherits_remove hcoherent _
    · exact .refl _
  | setFormula p tokens => exact inherits_insertRecord hcoherent _
  | setShared sheet range body | setArray sheet range body =>
    obtain ⟨hfilled, hinherits⟩ := inherits_fillPlaceholders hcoherent sheet range
    exact hinherits.trans (inherits_insertRecord hfilled _)
  | edit sheet axis change start count =>
    show w.formulas.Inherits (w.edit _).formulas
    unfold Workbook.edit
    split_ifs
    · exact .refl _
    · exact FormulaStore.inherits_edit hcoherent w.links _
  | deleteSheet sheet => exact inherits_deleteSheet hcoherent sheet

theorem Reachable.inherits_run (hw : w.Reachable) (ops : List Operation) :
    w.formulas.Inherits (w.run ops).formulas := by
  induction ops generalizing w with
  | nil => exact .refl _
  | cons op ops ih => exact (hw.inherits_apply op).trans (ih (hw.apply op))

/-! ### What becomes of links and names -/

lemma links_names_fillPlaceholders (sheet : Nat) (range : CellRange) :
    (w.fillPlaceholders sheet range).links = w.links ∧
      (w.fillPlaceholders sheet range).names = w.names :=
  List.foldlRecOn (motive := fun v : Workbook => v.links = w.links ∧ v.names = w.names) _ _
    ⟨rfl, rfl⟩ fun _ hv _ _ => hv

/-- The link of a removed sheet stays one. -/
lemma deleted_apply {i : Nat} {name : String} (h : w.links[i]? = some (.deleted (some name)))
    (op : Operation) : (w.apply op).links[i]? = some (.deleted (some name)) := by
  cases op with
  | addSheet | addName | addLinkedName | setFormula | recalculate => exact h
  | addLink link =>
    show (w.links.push link)[i]? = _
    have hlt : i < w.links.size := (Array.getElem?_eq_some_iff.mp h).1
    rw [Array.getElem?_push, if_neg (Nat.ne_of_lt hlt), h]
  | setValue p v =>
    show (w.setValue p v).links[i]? = _
    rw [links_setValue, h]
  | setShared sheet range body | setArray sheet range body =>
    show (w.fillPlaceholders sheet range).links[i]? = _
    rw [(links_names_fillPlaceholders sheet range).1, h]
  | edit sheet axis change start count =>
    show (w.edit _).links[i]? = _
    rw [links_edit, h]
  | deleteSheet sheet =>
    show (w.deleteSheet sheet).links[i]? = _
    unfold Workbook.deleteSheet
    split
    · exact h
    · show (w.links.map _)[i]? = _
      rw [Array.getElem?_map, h]
      rfl

lemma deleted_run {i : Nat} {name : String} (h : w.links[i]? = some (.deleted (some name)))
    (ops : List Operation) : (w.run ops).links[i]? = some (.deleted (some name)) :=
  List.foldlRecOn (motive := fun v : Workbook => v.links[i]? = some (.deleted (some name))) ops _ h
    fun _ hv op _ => deleted_apply hv op

end Workbook

/-- The tokens of the name `n'` name the same links as those of `n`, or `n` belonged to a sheet that
was removed and `n'` stands for an error. -/
def DefinedName.Inherits (n n' : DefinedName) : Prop :=
  n'.body.map Token.namedLink? = n.body.map Token.namedLink? ∧
      (n'.scope.isSome → n.scope.isSome) ∨
    n.scope.isSome ∧ n'.scope = none ∧ n'.body = [.error .reference]

namespace DefinedName

variable {n n' : DefinedName}

lemma Inherits.refl (n : DefinedName) : n.Inherits n := Or.inl ⟨rfl, id⟩

lemma Inherits.edit (h : n.Inherits n') (links : SheetLinks) (e : GridEdit) :
    n.Inherits (n'.edit links e) := by
  rw [e.scanName_eq]
  rcases h with ⟨hbody, hscope⟩ | ⟨hn, hscope, hbody⟩
  · refine Or.inl ⟨Eq.trans ?_ hbody, hscope⟩
    rw [GridEdit.scanName, List.map_map]
    refine List.map_congr_left fun t _ => ?_
    rw [Function.comp_apply]
    split_ifs
    · exact e.namedLink?_moveToken t
    · rfl
  · refine Or.inr ⟨hn, hscope, ?_⟩
    rw [GridEdit.scanName, hbody]
    rfl

lemma Inherits.withoutSheet (h : n.Inherits n') (removed : Nat) :
    n.Inherits (n'.withoutSheet removed) := by
  unfold DefinedName.withoutSheet
  rcases hs : n'.scope with _ | scope
  · exact h
  · rcases h with ⟨hbody, hscope⟩ | ⟨-, hscope, -⟩
    · have hn : n.scope.isSome := hscope (by rw [hs]; rfl)
      dsimp only
      split_ifs
      · exact Or.inr ⟨hn, rfl, rfl⟩
      · exact Or.inl ⟨hbody, fun _ => hn⟩
      · exact Or.inl ⟨hbody, fun _ => hn⟩
    · rw [hs] at hscope
      cases hscope

end DefinedName

namespace Workbook

variable {w : Workbook}

lemma name_apply {k : Nat} {n n' : DefinedName} (h : n.Inherits n') (hk : w.names[k]? = some n')
    (op : Operation) : ∃ n', (w.apply op).names[k]? = some n' ∧ n.Inherits n' := by
  cases op with
  | addSheet | addLink | addLinkedName | setFormula | recalculate => exact ⟨n', hk, h⟩
  | addName name =>
    refine ⟨n', ?_, h⟩
    show (w.names.push name)[k]? = _
    have hlt : k < w.names.size := (Array.getElem?_eq_some_iff.mp hk).1
    rw [Array.getElem?_push, if_neg (Nat.ne_of_lt hlt), hk]
  | setValue p v =>
    refine ⟨n', ?_, h⟩
    show (w.setValue p v).names[k]? = _
    rw [names_setValue, hk]
  | setShared sheet range body | setArray sheet range body =>
    refine ⟨n', ?_, h⟩
    show (w.fillPlaceholders sheet range).names[k]? = _
    rw [(links_names_fillPlaceholders sheet range).2, hk]
  | edit sheet axis change start count =>
    show ∃ n', (w.edit _).names[k]? = some n' ∧ _
    unfold Workbook.edit
    split_ifs
    · exact ⟨n', hk, h⟩
    · refine ⟨_, ?_, h.edit w.links (.ofLimits sheet axis change start count w.limits)⟩
      show (w.names.map _)[k]? = _
      rw [Array.getElem?_map, hk]
      rfl
  | deleteSheet sheet =>
    show ∃ n', (w.deleteSheet sheet).names[k]? = some n' ∧ _
    unfold Workbook.deleteSheet
    split
    · exact ⟨n', hk, h⟩
    · refine ⟨_, ?_, h.withoutSheet sheet⟩
      show (w.names.map _)[k]? = _
      rw [Array.getElem?_map, hk]
      rfl

/-- Names keep their numbers, and their tokens the links that they name. -/
theorem name_run {k : Nat} {n : DefinedName} (hk : w.names[k]? = some n) (ops : List Operation) :
    ∃ n', (w.run ops).names[k]? = some n' ∧ n.Inherits n' :=
  List.foldlRecOn (motive := fun v : Workbook => ∃ n', v.names[k]? = some n' ∧ n.Inherits n') ops _
    ⟨n, hk, .refl n⟩ fun _ ⟨_, hk, h⟩ op _ => name_apply h hk op

end Workbook

/-! ### Broken references -/

/-- Wherever the token stands, it is evaluated to an error, and written as one behind the name of
the sheet that it referred to. -/
structure Token.Dangles (w : Workbook) (name : String) (t : Token) : Prop where
  evaluates : ∀ functions body p stack i, Evaluate.step functions body (w.site p) stack i t =
    pure (.ofValue (.error .reference) :: stack)
  renders : ∀ origin st i, Render.step (w.surroundings.names w.limits) origin st i t =
    .ok ⟨(st.lead ++ (SheetName.written name.toList ++ "!#REF!".toList)) :: st.stack, none⟩

lemma Token.dangles_of_deleted {w : Workbook} {link : UInt16} {name : String} {t : Token}
    (hlink : w.links[link.toNat]? = some (.deleted (some name))) (ht : t.namedLink? = some link) :
    t.Dangles w name := by
  have hlink' : w.surroundings.link link = some (.deleted (some name)) := hlink
  have hsheets : w.surroundings.sheetsOf link = .error .reference := by
    unfold Surroundings.sheetsOf
    rw [hlink']
  have hlabel : (w.surroundings.names w.limits).sheetLabel link = .deleted (some name) := by
    show w.surroundings.sheetLabel link = _
    unfold Surroundings.sheetLabel
    rw [hlink']
  constructor
  · intro functions body p stack i
    have hresolve : (w.site p).surroundings.resolve? (w.site p).settings.limits (w.site p).here t =
        some (.error .reference) := by
      show w.surroundings.resolve? _ _ t = _
      cases t with
      | ref3d | area3d =>
        cases ht
        simp only [Surroundings.resolve?, Surroundings.onSheetsOf, hsheets]
        rfl
      | refErr3d | areaErr3d => rfl
      | _ => cases ht
    cases t with
    | ref3d | area3d | refErr3d | areaErr3d =>
      simp only [Evaluate.step, Token.operandCount?, Evaluate.tokenResult, hresolve]
      rfl
    | _ => cases ht
  · intro origin st i
    cases t with
    | ref3d | area3d | refErr3d | areaErr3d =>
      cases ht
      simp only [Render.step, Render.step.push, Render.needed, Token.operandCount?,
        Render.tokenText, Render.qualified, Render.broken, hlabel]
      rfl
    | _ => cases ht

/-- The tokens of a formula as a cell of its group has them. -/
def FormulaRecord.tokensIn (r : FormulaRecord) (limits : Limits) (c : Cell) : List Token :=
  match r.body with
  | .shared f => bindShared f.tokens f.anchor c limits
  | _ => r.tokens

lemma FormulaRecord.namedLinks_tokensIn (r : FormulaRecord) (limits : Limits) (c : Cell) :
    (r.tokensIn limits c).map Token.namedLink? = r.namedLinks := by
  obtain ⟨sheet, body⟩ := r
  cases body with
  | cell | array => rfl
  | shared f =>
    show (bindShared f.tokens f.anchor c limits).map Token.namedLink? = _
    rw [bindShared, List.map_map]
    exact List.map_congr_left fun t _ => t.namedLink?_bindTo f.anchor c limits

namespace Workbook

variable {w : Workbook}

/-- The token at a position of a formula is a broken reference. -/
def DanglesAt (w : Workbook) (name : String) (tokens : List Token) (i : Nat) : Prop :=
  ∃ t, tokens[i]? = some t ∧ t.Dangles w name

lemma danglesAt_of_namedLink {link : UInt16} {name : String} {tokens tokens' : List Token} {i : Nat}
    {t : Token} (hlink : w.links[link.toNat]? = some (.deleted (some name)))
    (ht : t.link? = some link) (hi : tokens[i]? = some t)
    (h : tokens'.map Token.namedLink? = tokens.map Token.namedLink?) :
    w.DanglesAt name tokens' i := by
  have hnamed : tokens'[i]?.map Token.namedLink? = some (some link) := by
    rw [← List.getElem?_map, h, List.getElem?_map, hi, Option.map_some,
      Token.namedLink?_of_link? ht]
  obtain ⟨t', hi', ht'⟩ := Option.map_eq_some_iff.mp hnamed
  exact ⟨t', hi', Token.dangles_of_deleted hlink ht'⟩

/-- **References to a removed sheet stay broken.** A cell or an area on the sheet that is referred
to through its link, in a formula or in a name, is an error for as long as the formula is stored,
whatever is done to the workbook, and is written behind the name that the sheet had. So it is in
every cell of a group. A name of a removed sheet may have become an error as a whole. -/
theorem deleteSheet_breaks_references (hw : w.Reachable) {sheet : Nat} {removed : Sheet}
    (hs : w.sheets[sheet]? = some removed) {link : UInt16}
    (hlink : w.links[link.toNat]? = some (.span sheet sheet)) {t : Token}
    (ht : t.link? = some link) (ops : List Operation) :
    let w' := (w.deleteSheet sheet).run ops
    (∀ (id i : Nat) (r r' : FormulaRecord), w.formulas.get? id = some r → r.tokens[i]? = some t →
      w'.formulas.get? id = some r' → w'.DanglesAt removed.name r'.tokens i ∧
        ∀ c, w'.DanglesAt removed.name (r'.tokensIn w'.limits c) i) ∧
    ∀ (k i : Nat) (n : DefinedName), w.names[k]? = some n → n.body[i]? = some t →
      ∃ n' : DefinedName, w'.names[k]? = some n' ∧
        (n.scope.isSome ∧ n'.scope = none ∧ n'.body = [.error .reference] ∨
          w'.DanglesAt removed.name n'.body i) := by
  intro w'
  have hdeleted : w'.links[link.toNat]? = some (.deleted (some removed.name)) := by
    refine deleted_run ?_ ops
    obtain ⟨hlt, rfl⟩ := Array.getElem?_eq_some_iff.mp hs
    refine (link_deleteSheet hlt link).trans ?_
    show w.links[link.toNat]?.map _ = _
    rw [hlink, Option.map_some, SheetLink.withoutSheet_span, if_pos ⟨rfl, rfl⟩]
  constructor
  · intro id i r r' hr hi hr'
    have hinherits := hw.inherits_run (.deleteSheet sheet :: ops)
    obtain ⟨r₀, hr₀, hlinks⟩ := hinherits.get? id r' (FormulaStore.get?_lt hr) hr'
    obtain rfl := Option.some.inj (hr.symm.trans hr₀)
    exact ⟨danglesAt_of_namedLink hdeleted ht hi hlinks, fun c => danglesAt_of_namedLink hdeleted ht
      hi ((r'.namedLinks_tokensIn w'.limits c).trans hlinks)⟩
  · intro k i n hn hi
    obtain ⟨n', hn', ⟨hbody, -⟩ | herror⟩ := name_run hn (.deleteSheet sheet :: ops)
    · exact ⟨n', hn', Or.inr (danglesAt_of_namedLink hdeleted ht hi hbody)⟩
    · exact ⟨n', hn', Or.inl herror⟩

/-- The first formula of all is displaced by none. -/
lemma get?_first_deleteSheet (hw : w.Reachable) {sheet : Nat} (hs : sheet < w.sheets.size)
    {r : FormulaRecord} (hr : w.formulas.get? 0 = some r) (hsheet : r.sheet ≠ sheet) :
    ∃ r', (w.deleteSheet sheet).formulas.get? 0 = some r' := by
  have hd : w.formulas.displaced sheet 0 = false := by
    rw [FormulaStore.displaced_eq hr, Bool.eq_false_iff, ne_eq, FormulaStore.taken_iff]
    rintro ⟨-, b, -, hlt, -⟩
    exact Nat.not_lt_zero b hlt
  rw [get?_deleteSheet hw.coherent hs, hr, Option.bind_some, if_neg (by simp [hsheet, hd])]
  exact ⟨_, rfl⟩

/-- A formula that outlives the sheet that it refers to. -/
theorem deleteSheet_breaks_references_kept :
    let t : Token := .ref3d .value 0 ⟨4, 0, true, true⟩
    let w := (empty {}).run [.addSheet "Old data", .addSheet "Kept", .addLink (.span 0 0),
      .setFormula ⟨1, ⟨0, 0⟩⟩ [t]]
    let w' := (w.deleteSheet 0).run [.addSheet "New"]
    w.Reachable ∧ w.sheets[0]? = some ⟨"Old data", ∅⟩ ∧
      w.links[(0 : UInt16).toNat]? = some (.span 0 0) ∧ t.link? = some 0 ∧
      ∃ r', w'.formulas.get? 0 = some r' ∧ w'.DanglesAt "Old data" r'.tokens 0 := by
  intro t w w'
  have hw : w.Reachable := ⟨_, _, rfl⟩
  have hs : w.sheets[0]? = some ⟨"Old data", ∅⟩ := rfl
  have hlink : w.links[(0 : UInt16).toNat]? = some (.span 0 0) := rfl
  have hr : w.formulas.get? 0 = some ⟨1, .cell ⟨0, 0⟩ [t]⟩ :=
    ((FormulaStore.put_insert #[.span 0 0] ⟨1, .cell ⟨0, 0⟩ [t]⟩
      (FormulaStore.coherent_empty {})).get? 0).trans (if_pos rfl)
  have hlt : 0 < w.sheets.size := (Array.getElem?_eq_some_iff.mp hs).1
  have hnew : ∀ v : Workbook, (v.run [.addSheet "New"]).formulas = v.formulas := fun _ => rfl
  obtain ⟨r', hr'⟩ := get?_first_deleteSheet hw hlt hr (by decide)
  rw [← hnew] at hr'
  exact ⟨hw, hs, hlink, rfl, r', hr',
    ((deleteSheet_breaks_references hw hs hlink rfl _).1 0 0 _ r' hr rfl hr').1⟩

end Workbook

end Spreadsheet
