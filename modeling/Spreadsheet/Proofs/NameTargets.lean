import Spreadsheet.Proofs.EditComposition
import Spreadsheet.Proofs.EditValues
import Spreadsheet.Proofs.ExpressionTree

/-!
Insertions and the cells that names stand for.

A name whose formula is a reference to one cell gives that cell wherever it is used. An insertion
moves the references in the formulas of defined names, as it does those in cells. The formulas of
names behind links it leaves as they are, so that such a name goes on giving the place where its
cell was.
-/

namespace Spreadsheet

/-! ### One cell as an operand -/

namespace TokenClass

/-- A cell in the form that a token of a class asks for: the reference itself, or the value. -/
def cellOperand (cls : TokenClass) (q : Place) : Query Operand :=
  match cls with
  | .array => Operand.value <$> Query.cell q
  | .reference | .value => return .reference (.ofArea (.single q))

/-- The form that is left of a cell, first in one form and then in another. A value stays one. -/
def within (inner outer : TokenClass) : TokenClass := if inner = .array then .array else outer

lemma applyClass_single (site : CallSite) (cls : TokenClass) (q : Place) :
    Evaluate.applyClass site cls (.reference (.ofArea (.single q))) = cls.cellOperand q := by
  cases cls with
  | reference => rfl
  | value =>
    unfold Evaluate.applyClass
    dsimp only
    rw [Reference.intersectionCell?_single]
    rfl
  | array =>
    show ((Reference.ofArea (.single q)).toArray site.settings.maxArrayCells >>= fun v =>
      return Operand.value v) = _
    rw [Reference.toArray_single]
    rfl

lemma cellOperand_bind_applyClass (site : CallSite) (inner outer : TokenClass) (q : Place) :
    (inner.cellOperand q >>= fun o => Evaluate.applyClass site outer o) =
      (inner.within outer).cellOperand q := by
  cases inner with
  | array => rfl
  | reference | value => exact applyClass_single site outer q

/-- The form of a cell tells which cell it is. -/
lemma cellOperand_inj {cls : TokenClass} {q q' : Place}
    (h : (ExceptT.lift (cls.cellOperand q) : ExceptT EvalError Query Operand) =
      ExceptT.lift (cls.cellOperand q')) : q = q' := by
  have hsingle : Operand.reference (.ofArea (.single q)) = .reference (.ofArea (.single q')) →
      q = q' := by
    intro hop
    have hcell := congrArg (fun r => r.intersectionCell? q) (Operand.reference.inj hop)
    rw [Reference.intersectionCell?_single, Reference.intersectionCell?_single] at hcell
    exact Option.some.inj hcell
  cases cls with
  | array => exact (Query.ask.inj h).1
  | reference | value => exact hsingle (Except.ok.inj (Query.answer.inj h))

end TokenClass

/-! ### What names stand for -/

/-- A name that is reached through a link. -/
def NameUse.isLinked : NameUse → Bool
  | defined .. => false
  | linked .. => true

namespace Workbook

variable {w : Workbook} {e : GridEdit} {n : NameUse} {inner : TokenClass} {link : UInt16}
  {a : Address} {k : Nat} {q q' : Place}

/-- Wherever the name is used, it gives a cell in the form that its token asks for, or as a value if
the token of its formula, of class `inner`, asks for one. If no names may be followed, it is
unknown. -/
def StandsFor (w : Workbook) (n : NameUse) (inner : TokenClass) (q : Place) : Prop :=
  ∀ functions p, evaluateOperand functions (w.site p) [n.token] =
    if w.settings.maxNameDepth = 0 then return .error .name
    else ExceptT.lift ((inner.within n.cls).cellOperand q)

lemma StandsFor.unique (h : w.StandsFor n inner q) (h' : w.StandsFor n inner q')
    (hdepth : w.settings.maxNameDepth ≠ 0) : q = q' := by
  have heq := (h (fun _ _ _ => return none) ⟨0, ⟨0, 0⟩⟩).symm.trans (h' _ _)
  rw [if_neg hdepth, if_neg hdepth] at heq
  exact TokenClass.cellOperand_inj heq

/-- A name is evaluated to what its formula is, one level deeper. -/
lemma evaluateOperand_name (functions : Dispatcher) {p : Place} {tokens : List Token}
    (hn : n.meaning w.surroundings = .formula tokens) :
    evaluateOperand functions (w.site p) [n.token] = (do
      let o ← Evaluate.nameEvaluator functions (w.site p) w.settings.maxNameDepth tokens
      ExceptT.lift (Evaluate.applyClass (w.site p) n.cls o)) := by
  have htokens : [n.token].filter (!·.isControl) = (Expr.name n).tokens := by
    cases n <;> rfl
  have hn' : n.meaning (w.site p).surroundings = .formula tokens := hn
  rw [evaluateOperand, Evaluate.withLevels_eq_run, Expr.run_eq_eval htokens, Expr.eval,
    NameUse.eval, hn']
  rfl

/-- A reference through a link to one sheet is that sheet's cell. -/
lemma withLevels_ref3d (functions : Dispatcher) (p : Place) (levels : Nat)
    (hlink : w.surroundings.link link = some (.span k k)) (hk : k < w.sheets.size) :
    Evaluate.withLevels functions (w.site p) levels [.ref3d inner link a] =
      ExceptT.lift (inner.cellOperand ⟨k, a.cell⟩) := by
  have hsheets : w.surroundings.sheetsOf link = .ok [k] := by
    have hcount : ¬w.surroundings.sheetCount ≤ k := Nat.not_le.mpr hk
    rw [Surroundings.sheetsOf_single hlink, if_neg hcount]
  let r : CellReference := ⟨.ref3d inner link a, inner, rfl, rfl, rfl⟩
  have hoperand : r.operand (w.site p) = .reference (.ofArea (.single ⟨k, a.cell⟩)) := by
    unfold CellReference.operand
    refine Option.get_of_eq_some _ ?_
    show some (Surroundings.resolve?.operand (w.surroundings.onSheetsOf link _)) = _
    rw [Surroundings.onSheetsOf, hsheets]
    rfl
  rw [Evaluate.withLevels_eq_run, Expr.run_eq_eval (e := .reference r) rfl, Expr.eval, hoperand,
    TokenClass.applyClass_single]

/-- A name with such a reference for a formula stands for the cell. -/
lemma standsFor_of_meaning (hn : n.meaning w.surroundings = .formula [.ref3d inner link a])
    (hlink : w.surroundings.link link = some (.span k k)) (hk : k < w.sheets.size) :
    w.StandsFor n inner ⟨k, a.cell⟩ := by
  intro functions p
  rw [evaluateOperand_name functions hn]
  rcases hdepth : w.settings.maxNameDepth with _ | levels
  · rfl
  · rw [if_neg (Nat.succ_ne_zero levels), Evaluate.nameEvaluator,
      withLevels_ref3d functions p levels hlink hk,
      ← TokenClass.cellOperand_bind_applyClass (w.site p)]
    exact (monadLift_bind (m := Query) (n := ExceptT EvalError Query) _ _).symm

/-! ### Names after an insertion -/

/-- The formula of a defined name after an edit. -/
lemma definedMeaning_edit (hs : e.sheet < w.sheets.size) (hc : 1 ≤ e.count) {index : UInt16}
    {tokens : List Token} (h : w.surroundings.definedMeaning index = .formula tokens) :
    (w.edit e).surroundings.definedMeaning index =
      .formula (tokens.map (e.moveLinked w.links)) := by
  have hnumbered : (w.edit e).surroundings.definedName index =
      (w.surroundings.definedName index).map (e.scanName w.links) := by
    show numbered (w.edit e).names index = (numbered w.names index).map _
    unfold numbered
    rw [names_edit hs hc]
    split_ifs
    · rfl
    · exact Array.getElem?_map
  unfold Surroundings.definedMeaning at h ⊢
  rw [hnumbered]
  rcases hname : w.surroundings.definedName index with _ | n <;> rw [hname] at h
  · cases h
  · dsimp only [Option.map_some] at h ⊢
    rw [GridEdit.scanName_eq_map, List.isEmpty_map]
    split_ifs at h ⊢
    cases h
    rfl

lemma linkedMeaning_edit (link index : UInt16) :
    (w.edit e).surroundings.linkedMeaning link index = w.surroundings.linkedMeaning link index := by
  have hname : (w.edit e).surroundings.linkedName link index =
      w.surroundings.linkedName link index := by
    show ((w.edit e).linkedNames[link]?).bind _ = _
    rw [linkedNames_edit]
    rfl
  rw [Surroundings.linkedMeaning, hname]
  rfl

lemma moveLinked_ref3d (hins : e.change = .insert) (hs : e.sheet < w.sheets.size)
    (hlink : w.surroundings.link link = some (.span k k)) (hkeeps : k = e.sheet → e.Keeps a.cell) :
    e.moveLinked w.links (.ref3d inner link a) =
      .ref3d inner link (a.withCell (w.pushedPlace e ⟨k, a.cell⟩).cell) := by
  have hlocal : w.links.localSheet? link = some k := by
    refine Option.bind_eq_some_iff.mpr ⟨_, hlink, ?_⟩
    exact if_pos rfl
  unfold GridEdit.moveLinked
  rw [Token.link?, Option.bind_some, hlocal]
  by_cases hsheet : k = e.sheet
  · subst hsheet
    rw [if_pos rfl, GridEdit.moveToken, (hkeeps rfl).address? hins, pushedPlace_of_eq hs]
  · rw [if_neg fun h => hsheet (Option.some.inj h), pushedPlace_of_ne hsheet]
    rfl

/-- What the name of a cell stands for after an insertion. -/
lemma standsFor_edit (hins : e.change = .insert)
    (hn : n.meaning w.surroundings = .formula [.ref3d inner link a])
    (hlink : w.surroundings.link link = some (.span k k)) (hk : k < w.sheets.size)
    (hkeeps : k = e.sheet → e.Keeps a.cell) :
    (w.edit e).StandsFor n inner
      (if n.isLinked then ⟨k, a.cell⟩ else w.pushedPlace e ⟨k, a.cell⟩) := by
  by_cases hidle : e.count = 0 ∨ w.sheets.size ≤ e.sheet
  · rw [edit_of_idle hidle, pushedPlace_of_idle hidle, ite_self]
    exact standsFor_of_meaning hn hlink hk
  obtain ⟨hcount, hs⟩ := not_or.mp hidle
  have hlink' : (w.edit e).surroundings.link link = some (.span k k) := by
    show (w.edit e).links[link.toNat]? = _
    rw [links_edit]
    exact hlink
  have hk' : k < (w.edit e).sheets.size := by rwa [size_sheets_edit]
  cases n with
  | defined cls index reserved =>
    have hn' : (NameUse.defined cls index reserved).meaning (w.edit e).surroundings = _ :=
      definedMeaning_edit (Nat.not_le.mp hs) (Nat.pos_of_ne_zero hcount) hn
    rw [List.map_singleton, moveLinked_ref3d hins (Nat.not_le.mp hs) hlink hkeeps] at hn'
    have hafter : (w.edit e).StandsFor (.defined cls index reserved) inner
        ⟨k, (w.pushedPlace e ⟨k, a.cell⟩).cell⟩ := standsFor_of_meaning hn' hlink' hk'
    have hplace : (⟨k, (w.pushedPlace e ⟨k, a.cell⟩).cell⟩ : Place) = w.pushedPlace e ⟨k, a.cell⟩ :=
      congrArg (Place.mk · _) (sheet_pushedPlace w e ⟨k, a.cell⟩).symm
    rwa [hplace] at hafter
  | linked cls link' index reserved =>
    exact standsFor_of_meaning ((linkedMeaning_edit link' index).trans hn) hlink' hk'

/-- **Names and inserted rows and columns.** After an insertion by which its cell is not taken off
the grid, the name of a cell stands for the place where the cell is now, if it is a name of the
workbook itself. A name behind a link does so if and only if the cell has stayed where it was, or
if no names may be followed at all. -/
theorem standsFor_pushedPlace_iff (hins : e.change = .insert)
    (hn : n.meaning w.surroundings = .formula [.ref3d inner link a])
    (hlink : w.surroundings.link link = some (.span k k)) (hk : k < w.sheets.size)
    (hkeeps : k = e.sheet → e.Keeps a.cell) :
    (w.edit e).StandsFor n inner (w.pushedPlace e ⟨k, a.cell⟩) ↔
      (n.isLinked → w.pushedPlace e ⟨k, a.cell⟩ = ⟨k, a.cell⟩ ∨ w.settings.maxNameDepth = 0) := by
  have hafter := standsFor_edit hins hn hlink hk hkeeps
  by_cases hlinked : n.isLinked
  swap
  · rw [if_neg hlinked] at hafter
    exact iff_of_true hafter fun h => absurd h hlinked
  rw [if_pos hlinked] at hafter
  constructor
  · intro h _
    refine or_iff_not_imp_right.mpr fun hdepth => ?_
    exact h.unique hafter (by rwa [settings_edit])
  · intro h
    rcases h hlinked with hstays | hdepth
    · rwa [hstays]
    · intro functions p
      have hunknown := hafter functions p
      rw [settings_edit] at hunknown ⊢
      rw [hunknown, if_pos hdepth, if_pos hdepth]

/-- The cell A5 of the only sheet under two names, one of the workbook and one behind a link. -/
def twiceNamed : Workbook :=
  let body : List Token := [.ref3d .reference 0 ⟨4, 0, true, true⟩]
  (empty {}).run [.addSheet "Data", .addLink (.span 0 0), .addName ⟨"Here", none, body⟩,
    .addLinkedName 0 ⟨"There", some body⟩]

lemma linkedMeaning_twiceNamed : twiceNamed.surroundings.linkedMeaning 0 1 =
    .formula [.ref3d .reference 0 ⟨4, 0, true, true⟩] := by
  have hnames : twiceNamed.linkedNames[(0 : UInt16)]? =
      some #[⟨"There", some [.ref3d .reference 0 ⟨4, 0, true, true⟩]⟩] := by
    show ((∅ : Std.HashMap UInt16 (Array LinkedName)).insert 0
      (((∅ : Std.HashMap UInt16 (Array LinkedName)).getD 0 #[]).push _))[(0 : UInt16)]? = _
    rw [Std.HashMap.getElem?_insert_self, Std.HashMap.getD_empty]
    rfl
  have hname : twiceNamed.surroundings.linkedName 0 1 =
      some ⟨"There", some [.ref3d .reference 0 ⟨4, 0, true, true⟩]⟩ := by
    show twiceNamed.linkedNames[(0 : UInt16)]?.bind _ = _
    rw [hnames]
    rfl
  rw [Surroundings.linkedMeaning, hname]

/-- The name of the workbook follows the cell behind two new rows. -/
theorem standsFor_pushedPlace_defined :
    let e : GridEdit := .ofLimits 0 .rows .insert 0 2 twiceNamed.limits
    let n : NameUse := .defined .value 1 0
    n.meaning twiceNamed.surroundings = .formula [.ref3d .reference 0 ⟨4, 0, true, true⟩] ∧
      twiceNamed.surroundings.link 0 = some (.span 0 0) ∧ 0 < twiceNamed.sheets.size ∧
      e.Keeps ⟨4, 0⟩ ∧ (twiceNamed.edit e).StandsFor n .reference ⟨0, ⟨6, 0⟩⟩ := by
  intro e n
  have hn : n.meaning twiceNamed.surroundings = .formula [.ref3d .reference 0 ⟨4, 0, true, true⟩] :=
    rfl
  have hlink : twiceNamed.surroundings.link 0 = some (.span 0 0) := rfl
  have hk : 0 < twiceNamed.sheets.size := by decide
  have hkeeps : e.Keeps ⟨4, 0⟩ := by decide
  have hplace : twiceNamed.pushedPlace e ⟨0, ⟨4, 0⟩⟩ = ⟨0, ⟨6, 0⟩⟩ := by decide
  have hafter := (standsFor_pushedPlace_iff rfl hn hlink hk fun _ => hkeeps).mpr nofun
  exact ⟨hn, hlink, hk, hkeeps, hplace ▸ hafter⟩

/-- The name behind the link gives the cell at the old place. -/
theorem not_standsFor_pushedPlace_linked :
    let e : GridEdit := .ofLimits 0 .rows .insert 0 2 twiceNamed.limits
    let n : NameUse := .linked .value 0 1 0
    e.cell? ⟨4, 0⟩ = some ⟨6, 0⟩ ∧ twiceNamed.StandsFor n .reference ⟨0, ⟨4, 0⟩⟩ ∧
      (twiceNamed.edit e).StandsFor n .reference ⟨0, ⟨4, 0⟩⟩ ∧
      ¬(twiceNamed.edit e).StandsFor n .reference ⟨0, ⟨6, 0⟩⟩ := by
  intro e n
  have hn : n.meaning twiceNamed.surroundings = .formula [.ref3d .reference 0 ⟨4, 0, true, true⟩] :=
    linkedMeaning_twiceNamed
  have hlink : twiceNamed.surroundings.link 0 = some (.span 0 0) := rfl
  have hk : 0 < twiceNamed.sheets.size := by decide
  have hkeeps : e.Keeps ⟨4, 0⟩ := by decide
  have hdepth : (twiceNamed.edit e).settings.maxNameDepth ≠ 0 := by
    rw [settings_edit]
    decide
  have hafter : (twiceNamed.edit e).StandsFor n .reference ⟨0, ⟨4, 0⟩⟩ :=
    standsFor_edit rfl hn hlink hk fun _ => hkeeps
  refine ⟨by decide, standsFor_of_meaning hn hlink hk, hafter, fun h => ?_⟩
  exact absurd (h.unique hafter hdepth) (by decide)

end Workbook

end Spreadsheet
