import Mathlib.Data.List.Forall2
import Spreadsheet.Formula.Function
import Spreadsheet.Proofs.Questions

/-!
Queries whose cells are at other places.

A map of places takes every cell somewhere else. A query mirrors another one if it asks for the
images of the same cells, in the same order, and goes on alike with whatever values it gets. So if
the values at the images are the ones of before, then the answers are.

Of references only those to single cells have an image: the image of an area need not be one.
-/

namespace Spreadsheet

variable {α β α' β' ε : Type} {σ : Place → Place}

/-! ### Queries -/

namespace Query

/-- The second query asks for the images of the cells that the first asks for, and the answers are
related. -/
inductive Mirrors (σ : Place → Place) (R : α → α' → Prop) : Query α → Query α' → Prop
  | answer {a : α} {a' : α'} (h : R a a') : Mirrors σ R (answer a) (answer a')
  | ask {p : Place} {next : Value → Query α} {next' : Value → Query α'}
    (h : ∀ v, Mirrors σ R (next v) (next' v)) : Mirrors σ R (ask p next) (ask (σ p) next')

variable {R : α → α' → Prop} {S : β → β' → Prop} {q : Query α} {q' : Query α'}

lemma mirrors_cell (σ : Place → Place) (p : Place) : (cell p).Mirrors σ Eq (cell (σ p)) :=
  .ask fun _ => .answer rfl

lemma Mirrors.bind {f : α → Query β} {f' : α' → Query β'} (h : q.Mirrors σ R q')
    (hf : ∀ a a', R a a' → (f a).Mirrors σ S (f' a')) : (q >>= f).Mirrors σ S (q' >>= f') := by
  induction h with
  | answer h => exact hf _ _ h
  | ask _ ih => exact .ask ih

lemma Mirrors.map {f : α → β} {f' : α' → β'} (h : q.Mirrors σ R q')
    (hf : ∀ a a', R a a' → S (f a) (f' a')) : (f <$> q).Mirrors σ S (f' <$> q') := by
  rw [← bind_pure_comp, ← bind_pure_comp]
  exact h.bind fun a a' ha => .answer (hf a a' ha)

/-- The same is done with the same answers. -/
lemma Mirrors.bind_eq {q q' : Query α} {f : α → Query β} {f' : α → Query β'}
    (h : q.Mirrors σ Eq q') (hf : ∀ a, (f a).Mirrors σ S (f' a)) :
    (q >>= f).Mirrors σ S (q' >>= f') :=
  h.bind fun a _ ha => ha ▸ hf a

lemma Mirrors.map_eq {q q' : Query α} (h : q.Mirrors σ Eq q') (f : α → β) :
    (f <$> q).Mirrors σ Eq (f <$> q') :=
  h.map fun _ _ ha => congrArg f ha

lemma mirrors_mapM {as : List α} {as' : List α'} {f : α → Query β} {f' : α' → Query β'}
    (h : List.Forall₂ (fun a a' => (f a).Mirrors σ S (f' a')) as as') :
    (as.mapM f).Mirrors σ (List.Forall₂ S) (as'.mapM f') := by
  induction h with
  | nil => exact .answer .nil
  | cons h _ ih =>
    rw [List.mapM_cons, List.mapM_cons]
    exact h.bind fun b b' hb => ih.bind fun bs bs' hbs => .answer (.cons hb hbs)

lemma mirrors_cells (σ : Place → Place) (ps : List Place) :
    (ps.mapM cell).Mirrors σ Eq ((ps.map σ).mapM cell) := by
  rw [← List.forall₂_eq_eq_eq]
  refine mirrors_mapM (List.forall₂_map_right_iff.mpr (List.forall₂_same.mpr fun p _ => ?_))
  exact mirrors_cell σ p

/-- Readers that give the same values of cells and of their images give related answers. -/
lemma Mirrors.runWith {τ : Type} {read read' : Place → StateM τ Value} {I : τ → τ → Prop}
    {s s' : τ} (h : q.Mirrors σ R q') (hs : I s s')
    (hread : ∀ p s s', I s s' → (read' (σ p) s').1 = (read p s).1 ∧
      I (read p s).2 (read' (σ p) s').2) :
    R (q.runWith read s).1 (q'.runWith read' s').1 ∧
      I (q.runWith read s).2 (q'.runWith read' s').2 := by
  induction h generalizing s s' with
  | answer h => exact ⟨h, hs⟩
  | @ask p _ _ _ ih =>
    obtain ⟨hv, hI⟩ := hread p s s' hs
    rw [runWith_ask, runWith_ask, hv]
    exact ih _ hI

/-! ### Queries that may fail -/

/-- The same failure, or related results. -/
inductive Alike (R : α → α' → Prop) : Except ε α → Except ε α' → Prop
  | ok {a : α} {a' : α'} (h : R a a') : Alike R (.ok a) (.ok a')
  | error (e : ε) : Alike R (.error e) (.error e)

lemma alike_eq {r r' : Except ε α} : Alike Eq r r' ↔ r = r' := by
  constructor
  · rintro (rfl | _) <;> rfl
  · rintro rfl
    cases r with
    | ok a => exact .ok rfl
    | error e => exact .error e

/-- The second computation asks for the images of the cells that the first asks for, and ends with
the same failure or with a related result. -/
abbrev MirrorsResult (σ : Place → Place) (R : α → α' → Prop) (x : ExceptT ε Query α)
    (x' : ExceptT ε Query α') : Prop :=
  x.run.Mirrors σ (Alike R) x'.run

variable {x : ExceptT ε Query α} {x' : ExceptT ε Query α'}

lemma mirrorsResult_pure {a : α} {a' : α'} (h : R a a') :
    MirrorsResult σ R (pure a : ExceptT ε Query α) (pure a') := .answer (.ok h)

lemma mirrorsResult_throw (e : ε) :
    MirrorsResult σ R (throw e : ExceptT ε Query α) (throw e) := .answer (.error e)

/-- A computation that asks for nothing. -/
lemma mirrorsResult_except (r : Except ε α) :
    MirrorsResult σ Eq (liftM r : ExceptT ε Query α) (liftM r) := .answer (alike_eq.mpr rfl)

lemma mirrorsResult_lift (h : q.Mirrors σ R q') :
    MirrorsResult σ R (ExceptT.lift q : ExceptT ε Query α) (ExceptT.lift q') :=
  h.map fun _ _ => .ok

lemma Mirrors.bind_result {f : α → ExceptT ε Query β} {f' : α' → ExceptT ε Query β'}
    (h : MirrorsResult σ R x x') (hf : ∀ a a', R a a' → MirrorsResult σ S (f a) (f' a')) :
    MirrorsResult σ S (x >>= f) (x' >>= f') := by
  refine Mirrors.bind h fun r r' hr => ?_
  cases hr with
  | ok h => exact hf _ _ h
  | error e => exact .answer (.error e)

lemma Mirrors.bind_result_eq {x x' : ExceptT ε Query α} {f : α → ExceptT ε Query β}
    {f' : α → ExceptT ε Query β'} (h : MirrorsResult σ Eq x x')
    (hf : ∀ a, MirrorsResult σ S (f a) (f' a)) : MirrorsResult σ S (x >>= f) (x' >>= f') :=
  Mirrors.bind_result h fun a _ ha => ha ▸ hf a

lemma mirrorsResult_foldlM {T : α → α' → Prop} {as : List α} {as' : List α'}
    {f : β → α → ExceptT ε Query β} {f' : β' → α' → ExceptT ε Query β'} {b : β} {b' : β'}
    (h : List.Forall₂ T as as') (hb : S b b')
    (hf : ∀ b b' a a', S b b' → T a a' → MirrorsResult σ S (f b a) (f' b' a')) :
    MirrorsResult σ S (as.foldlM f b) (as'.foldlM f' b') := by
  induction h generalizing b b' with
  | nil => exact mirrorsResult_pure hb
  | cons ha _ ih =>
    rw [List.foldlM_cons, List.foldlM_cons]
    exact Mirrors.bind_result (hf b b' _ _ hb ha) fun _ _ hc => ih hc

end Query

open Query

/-! ### References to single cells -/

namespace Reference

/-- The reference to some cells, one by one. -/
def ofCells (ps : List Place) (h : ps ≠ []) : Reference := ⟨ps.map Area.single, by simpa using h⟩

variable {ps qs : List Place} (hps : ps ≠ []) (hqs : qs ≠ [])

lemma cells_single (p : Place) : (Area.single p).cells = [p] := by
  obtain ⟨sheet, row, col⟩ := p
  simp [Area.cells, Area.single, CellRange.cells, CellRange.cellCount, CellRange.width,
    CellRange.height, CellRange.single, CellRange.nth]

lemma cells_ofCells : (ofCells ps hps).cells = ps := by
  simp [cells, ofCells, List.flatMap_map, cells_single]

lemma union_ofCells : (ofCells ps hps).union (ofCells qs hqs) =
    ofCells (ps ++ qs) (by simp [hps]) := by
  simp [union, ofCells]

lemma intersect?_single (p q : Place) :
    (if q.sheet = p.sheet then
      ((CellRange.single p.cell).intersect? (.single q.cell)).map (Area.mk p.sheet)
    else none) = if q = p then some (.single p) else none := by
  obtain ⟨sheet, row, col⟩ := p
  obtain ⟨sheet', row', col'⟩ := q
  unfold CellRange.intersect? CellRange.single
  dsimp only
  split_ifs with hsheet hmeet hsame hsame hsame
  · obtain rfl : row' = row := by omega
    obtain rfl : col' = col := by omega
    simp [Area.single, CellRange.single]
  · simp only [Place.mk.injEq, Cell.mk.injEq, not_and] at hsame
    omega
  · cases hsame
    omega
  · rfl
  · cases hsame
    exact absurd rfl hsheet
  · rfl

/-- The cells that are listed in both. -/
def commonCells (ps qs : List Place) : List Place :=
  ps.flatMap fun p => qs.filterMap fun q => if q = p then some p else none

lemma commonCells_map (hσ : Function.Injective σ) (ps qs : List Place) :
    commonCells (ps.map σ) (qs.map σ) = (commonCells ps qs).map σ := by
  unfold commonCells
  rw [List.flatMap_map, List.map_flatMap]
  refine List.flatMap_congr fun p _ => ?_
  rw [List.filterMap_map, List.map_filterMap]
  refine List.filterMap_congr fun q _ => ?_
  simp only [Function.comp_apply, hσ.eq_iff]
  split_ifs <;> rfl

lemma intersect_ofCells : (ofCells ps hps).intersect (ofCells qs hqs) =
    if h : commonCells ps qs ≠ [] then .ok (ofCells _ h) else .error .null := by
  have hcommon : ((ps.map Area.single).flatMap fun a => (qs.map Area.single).filterMap fun b =>
      if b.sheet = a.sheet then (a.range.intersect? b.range).map (Area.mk a.sheet) else none) =
      (commonCells ps qs).map Area.single := by
    unfold commonCells
    rw [List.flatMap_map, List.map_flatMap]
    refine List.flatMap_congr fun p _ => ?_
    rw [List.filterMap_map, List.map_filterMap]
    refine List.filterMap_congr fun q _ => (intersect?_single p q).trans ?_
    split_ifs <;> rfl
  unfold intersect ofCells ofAreas?
  dsimp only
  rw [hcommon]
  by_cases h : commonCells ps qs = [] <;> simp [h]

lemma intersectionCell?_cell (p here : Place) :
    (ofCells [p] (List.cons_ne_nil p [])).intersectionCell? here = some p :=
  intersectionCell?_single p here

lemma toArray_cell (p : Place) (maxCells : Nat) :
    (ofCells [p] (List.cons_ne_nil p [])).toArray maxCells = Query.cell p :=
  toArray_single p maxCells

end Reference

/-! ### Operands -/

/-- The same value, or references to cells and to their images. -/
inductive Operand.Mirrors (σ : Place → Place) : Operand → Operand → Prop
  | value (v : Value) : Mirrors σ (.value v) (.value v)
  | cells {ps : List Place} (h : ps ≠ []) :
    Mirrors σ (.reference (.ofCells ps h)) (.reference (.ofCells (ps.map σ) (by simpa using h)))
  | missing : Mirrors σ .missing .missing

namespace Operand

variable {o o' : Operand}

lemma Mirrors.cell (σ : Place → Place) (p : Place) :
    Mirrors σ (.reference (.ofArea (.single p))) (.reference (.ofArea (.single (σ p)))) :=
  .cells (List.cons_ne_nil p [])

lemma Mirrors.scalarValue (h : o.Mirrors σ o') (here here' : Place) :
    (o.scalarValue here).Mirrors σ Eq (o'.scalarValue here') := by
  cases h with
  | value | missing => exact .answer rfl
  | @cells ps h =>
    match ps with
    | [p] =>
      simp only [Operand.scalarValue, Reference.implicitIntersection, List.map_cons, List.map_nil,
        Reference.intersectionCell?_cell]
      exact mirrors_cell σ p
    | _ :: _ :: _ => exact .answer rfl

lemma Mirrors.arrayValue (h : o.Mirrors σ o') (maxCells : Nat) :
    (o.arrayValue maxCells).Mirrors σ Eq (o'.arrayValue maxCells) := by
  cases h with
  | value | missing => exact .answer rfl
  | @cells ps h =>
    match ps with
    | [p] =>
      simp only [Operand.arrayValue, List.map_cons, List.map_nil, Reference.toArray_cell]
      exact mirrors_cell σ p
    | _ :: _ :: _ => exact .answer rfl

end Operand

end Spreadsheet
