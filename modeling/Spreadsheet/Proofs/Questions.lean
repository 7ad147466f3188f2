import Mathlib.Tactic.Common
import Spreadsheet.Formula.Query

/-!
What a query asks, and what its answer rests on.

Answered from given values, a query asks a list of cells, and nothing but the values of these
decides its answer. Answered with effects, it asks each cell in some state; what the answers keep of
the state, the whole query keeps. And a query may ensure something of its answer, provided that all
values which it reads have a property; this property may depend on the cell that is read.
-/

namespace Spreadsheet.Query

variable {α β σ : Type}

/-! ### Given values -/

/-- The cells that are asked for, in order, when the answers are given values. -/
def asked (values : Place → Value) : Query α → List Place
  | answer _ => []
  | ask p next => p :: (next (values p)).asked values

/-- Values that agree on the cells asked for from both lead to the same questions and the same
answer. -/
lemma eval_congr {values values' : Place → Value} {q : Query α}
    (h : ∀ p ∈ q.asked values, p ∈ q.asked values' → values' p = values p) :
    q.asked values' = q.asked values ∧ q.eval values' = q.eval values := by
  induction q with
  | answer a => exact ⟨rfl, rfl⟩
  | ask p next ih =>
    have hp : values' p = values p := h p List.mem_cons_self List.mem_cons_self
    simp only [asked, hp] at h
    obtain ⟨hasked, heval⟩ := ih (values p) fun q hq hq' =>
      h q (List.mem_cons_of_mem p hq) (List.mem_cons_of_mem p hq')
    simp only [asked, eval, hp]
    exact ⟨congrArg (p :: ·) hasked, heval⟩

/-! ### Answers with effects -/

variable {read read' : Place → StateM σ Value} {I : σ → Prop}

/-- A query that starts in one state asks for a cell in another. -/
inductive Asks (read : Place → StateM σ Value) : Query α → σ → Place → σ → Prop
  | here {p : Place} {next : Value → Query α} {s : σ} : Asks read (ask p next) s p s
  | later {p q : Place} {next : Value → Query α} {s t : σ}
      (h : Asks read (next (read p s).1) (read p s).2 q t) : Asks read (ask p next) s q t

lemma runWith_ask (p : Place) (next : Value → Query α) (s : σ) :
    (ask p next).runWith read s = (next (read p s).1).runWith read (read p s).2 := rfl

/-- What the answers to its questions keep holds whenever a query asks for a cell. -/
lemma Asks.inv {q : Query α} {s t : σ} {p : Place} (h : Asks read q s p t) (hs : I s)
    (hread : ∀ p t, Asks read q s p t → I t → I (read p t).2) : I t := by
  induction h with
  | here => exact hs
  | later _ ih => exact ih (hread _ _ .here hs) fun p t h => hread p t h.later

/-- What the answers to its questions keep, a query keeps. -/
lemma runWith_inv {q : Query α} {s : σ} (hs : I s)
    (hread : ∀ p t, Asks read q s p t → I t → I (read p t).2) : I (q.runWith read s).2 := by
  induction q generalizing s with
  | answer a => exact hs
  | ask p next ih =>
    exact ih _ (hread p s .here hs) fun p t h => hread p t h.later

/-- Readers that agree wherever a query asks give it the same answer. -/
lemma runWith_congr {q : Query α} {s : σ} (hs : I s)
    (hread : ∀ p s, I s → read' p s = read p s ∧ I (read p s).2) :
    q.runWith read' s = q.runWith read s := by
  induction q generalizing s with
  | answer a => rfl
  | ask p next ih =>
    obtain ⟨he, hI⟩ := hread p s hs
    rw [runWith_ask, runWith_ask, he]
    exact ih _ hI

/-- A reader that gives the right value of every cell asked for gives the right answer. -/
lemma runWith_eq_eval {values : Place → Value} {q : Query α} {s : σ} (hs : I s)
    (hread : ∀ p ∈ q.asked values, ∀ s, I s → (read p s).1 = values p ∧ I (read p s).2) :
    (q.runWith read s).1 = q.eval values ∧ I (q.runWith read s).2 := by
  induction q generalizing s with
  | answer a => exact ⟨rfl, hs⟩
  | ask p next ih =>
    rw [asked, List.forall_mem_cons] at hread
    obtain ⟨hv, hI⟩ := hread.1 s hs
    rw [runWith_ask, hv]
    exact ih _ hI hread.2

/-! ### Values with a property -/

/-- If each value that a query reads has the property `G` for its cell, then its answer has `P`. -/
def EnsuresAt (G : Place → Value → Prop) (P : α → Prop) : Query α → Prop
  | answer a => P a
  | ask p next => ∀ v, G p v → (next v).EnsuresAt G P

section At
variable {G : Place → Value → Prop} {P P' : α → Prop} {Q : β → Prop}

@[simp] lemma ensuresAt_answer {a : α} : (answer a).EnsuresAt G P ↔ P a := Iff.rfl

@[simp] lemma ensuresAt_cell {P : Value → Prop} {p : Place} :
    (cell p).EnsuresAt G P ↔ ∀ v, G p v → P v := Iff.rfl

@[simp] lemma ensuresAt_bind {q : Query α} {f : α → Query β} :
    (q >>= f).EnsuresAt G Q ↔ q.EnsuresAt G fun a => (f a).EnsuresAt G Q := by
  induction q with
  | answer a => exact Iff.rfl
  | ask p next ih => exact forall_congr' fun v => imp_congr_right fun _ => ih v

@[simp] lemma ensuresAt_map {q : Query α} {f : α → β} :
    (f <$> q).EnsuresAt G Q ↔ q.EnsuresAt G fun a => Q (f a) := by
  rw [← bind_pure_comp, ensuresAt_bind]
  exact Iff.rfl

lemma EnsuresAt.mono {q : Query α} (h : q.EnsuresAt G P) (hP : ∀ a, P a → P' a) :
    q.EnsuresAt G P' := by
  induction q with
  | answer a => exact hP a h
  | ask p next ih => exact fun v hv => ih v (h v hv)

lemma EnsuresAt.and {q : Query α} (h : q.EnsuresAt G P) (h' : q.EnsuresAt G P') :
    q.EnsuresAt G fun a => P a ∧ P' a := by
  induction q with
  | answer a => exact ⟨h, h'⟩
  | ask p next ih => exact fun v hv => ih v (h v hv) (h' v hv)

lemma ensuresAt_imp {A : Prop} {q : Query α} (h : A → q.EnsuresAt G P) :
    q.EnsuresAt G fun a => A → P a := by
  induction q with
  | answer a => exact h
  | ask p next ih => exact fun v hv => ih v fun hA => h hA v hv

/-- A query keeps what the answers to its questions keep, and its own answer is as ensured. -/
lemma EnsuresAt.runWith {q : Query α} {s : σ} (h : q.EnsuresAt G P) (hs : I s)
    (hread : ∀ p t, Asks read q s p t → I t → G p (read p t).1 ∧ I (read p t).2) :
    P (q.runWith read s).1 ∧ I (q.runWith read s).2 := by
  induction q generalizing s with
  | answer a => exact ⟨h, hs⟩
  | ask p next ih =>
    obtain ⟨hG, hI⟩ := hread p s .here hs
    exact ih _ (h _ hG) hI fun p t hask => hread p t hask.later

end At

/-- If all values that a query reads have the property `G`, then its answer has `P`. -/
def Ensures (G : Value → Prop) (P : α → Prop) : Query α → Prop
  | answer a => P a
  | ask _ next => ∀ v, G v → (next v).Ensures G P

variable {G : Value → Prop} {P P' : α → Prop} {Q : β → Prop}

lemma ensures_iff {q : Query α} : q.Ensures G P ↔ q.EnsuresAt (fun _ => G) P := by
  induction q with
  | answer a => exact Iff.rfl
  | ask p next ih => exact forall_congr' fun v => imp_congr_right fun _ => ih v

@[simp] lemma ensures_answer {a : α} : (answer a).Ensures G P ↔ P a := Iff.rfl

@[simp] lemma ensures_cell {P : Value → Prop} {p : Place} :
    (cell p).Ensures G P ↔ ∀ v, G v → P v := Iff.rfl

@[simp] lemma ensures_bind {q : Query α} {f : α → Query β} :
    (q >>= f).Ensures G Q ↔ q.Ensures G fun a => (f a).Ensures G Q := by
  simp only [ensures_iff, ensuresAt_bind]

@[simp] lemma ensures_map {q : Query α} {f : α → β} :
    (f <$> q).Ensures G Q ↔ q.Ensures G fun a => Q (f a) := by
  simp only [ensures_iff, ensuresAt_map]

lemma ensures_of_forall (h : ∀ a, P a) (q : Query α) : q.Ensures G P := by
  induction q with
  | answer a => exact h a
  | ask p next ih => exact fun v _ => ih v

lemma Ensures.mono {q : Query α} (h : q.Ensures G P) (hP : ∀ a, P a → P' a) :
    q.Ensures G P' :=
  ensures_iff.mpr ((ensures_iff.mp h).mono hP)

lemma Ensures.eval {q : Query α} {values : Place → Value} (h : q.Ensures G P)
    (hG : ∀ p ∈ q.asked values, G (values p)) : P (q.eval values) := by
  induction q with
  | answer a => exact h
  | ask p next ih =>
    rw [asked, List.forall_mem_cons] at hG
    exact ih _ (h _ hG.1) hG.2

lemma Ensures.and {q : Query α} (h : q.Ensures G P) (h' : q.Ensures G P') :
    q.Ensures G fun a => P a ∧ P' a :=
  ensures_iff.mpr ((ensures_iff.mp h).and (ensures_iff.mp h'))

/-- What is ensured whatever is read holds for one answer at least. -/
lemma Ensures.exists {q : Query α} (h : q.Ensures (fun _ => True) P) : ∃ a, P a :=
  ⟨q.eval default, h.eval fun _ _ => trivial⟩

lemma ensures_mapM {as : List α} {f : α → Query β} (h : ∀ a ∈ as, (f a).Ensures G Q) :
    (as.mapM f).Ensures G fun bs => ∀ b ∈ bs, Q b := by
  induction as with
  | nil => exact fun b hb => absurd hb List.not_mem_nil
  | cons a as ih =>
    rw [List.forall_mem_cons] at h
    rw [List.mapM_cons]
    simp only [ensures_bind, pure_eq, ensures_answer, List.forall_mem_cons]
    exact h.1.mono fun b hb => (ih h.2).mono fun bs hbs => ⟨hb, hbs⟩

/-! ### Two queries -/

/-- The queries ask for the same cells and come to the same answer, which has `P`, as long as all
values that they read have the property `G`. -/
def Agree (G : Value → Prop) (P : α → Prop) : Query α → Query α → Prop
  | answer a, answer b => a = b ∧ P a
  | ask p next, ask q next' => p = q ∧ ∀ v, G v → (next v).Agree G P (next' v)
  | _, _ => False

section
variable {q q' : Query α}

@[simp] lemma agree_self : q.Agree G P q ↔ q.Ensures G P := by
  induction q with
  | answer a => exact and_iff_right rfl
  | ask p next ih =>
    exact (and_iff_right rfl).trans (forall_congr' fun v => imp_congr_right fun _ => ih v)

lemma Agree.ensures (h : q.Agree G P q') : q.Ensures G P := by
  induction q generalizing q' with
  | answer a =>
    cases q' with
    | answer b => exact h.2
    | ask => cases h
  | ask p next ih =>
    cases q' with
    | answer => cases h
    | ask _ next' => exact fun v hv => ih v (h.2 v hv)

/-- Answered with the same effects, queries that agree end in the same way. -/
lemma Agree.runWith {I : σ → Prop} {read read' : Place → StateM σ Value} {s : σ}
    (h : q.Agree G P q') (hs : I s)
    (hread : ∀ p t, Asks read q s p t → I t →
      read' p t = read p t ∧ G (read p t).1 ∧ I (read p t).2) :
    q'.runWith read' s = q.runWith read s := by
  induction q generalizing q' s with
  | answer a =>
    cases q' with
    | answer b =>
      obtain ⟨rfl, -⟩ := h
      rfl
    | ask => cases h
  | ask p next ih =>
    cases q' with
    | answer => cases h
    | ask _ next' =>
      obtain ⟨rfl, hnext⟩ := h
      obtain ⟨he, hG, hI⟩ := hread p s .here hs
      rw [runWith_ask, runWith_ask, he]
      exact ih _ (hnext _ hG) hI fun p t hask => hread p t hask.later

lemma Agree.bind {f f' : α → Query β} (h : q.Agree G P q')
    (hf : ∀ a, P a → (f a).Agree G Q (f' a)) : (q >>= f).Agree G Q (q' >>= f') := by
  induction q generalizing q' with
  | answer a =>
    cases q' with
    | answer b =>
      obtain ⟨rfl, ha⟩ := h
      exact hf a ha
    | ask => cases h
  | ask p next ih =>
    cases q' with
    | answer => cases h
    | ask _ next' => exact ⟨h.1, fun v hv => ih v (h.2 v hv)⟩

lemma Agree.map {f : α → β} (h : q.Agree G P q') (hf : ∀ a, P a → Q (f a)) :
    (f <$> q).Agree G Q (f <$> q') :=
  h.bind fun a ha => ⟨rfl, hf a ha⟩

end

/-! ### Queries that may fail -/

variable {ε : Type} {E : ε → Prop}

/-- A result with `P`, or an error with `E`. -/
def Outcome (E : ε → Prop) (P : α → Prop) : Except ε α → Prop
  | .ok a => P a
  | .error e => E e

lemma Outcome.bind {y : Except ε α} {f : α → Except ε β} (hy : Outcome E P y)
    (hf : ∀ a, P a → Outcome E Q (f a)) : Outcome E Q (y >>= f) := by
  cases y with
  | ok a => exact hf a hy
  | error e => exact hy

lemma Outcome.map {y : Except ε α} {f : α → β} (hy : Outcome E P y) (hf : ∀ a, P a → Q (f a)) :
    Outcome E Q (y.map f) := by
  cases y with
  | ok a => exact hf a hy
  | error e => exact hy

/-- If each value that is read has the property `G` for its cell, then the outcome is a result with
`P` or an error with `E`. -/
def ReachesAt (G : Place → Value → Prop) (E : ε → Prop) (P : α → Prop)
    (x : ExceptT ε Query α) : Prop :=
  x.run.EnsuresAt G (Outcome E P)

section At
variable {G : Place → Value → Prop} {x : ExceptT ε Query α} {f : α → ExceptT ε Query β}

lemma reachesAt_pure {a : α} (h : P a) : ReachesAt G E P (pure a : ExceptT ε Query α) := h

lemma reachesAt_throw {e : ε} (h : E e) : ReachesAt G E P (throw e : ExceptT ε Query α) := h

lemma reachesAt_lift {q : Query α} (h : q.EnsuresAt G P) :
    ReachesAt G E P (ExceptT.lift q : ExceptT ε Query α) :=
  ensuresAt_map.mpr h

lemma ReachesAt.mono (h : ReachesAt G E P x) (hP : ∀ a, P a → P' a) : ReachesAt G E P' x :=
  EnsuresAt.mono h fun r hr => by
    cases r with
    | ok a => exact hP a hr
    | error e => exact hr

lemma ReachesAt.bind (h : ReachesAt G E P x) (hf : ∀ a, P a → ReachesAt G E Q (f a)) :
    ReachesAt G E Q (x >>= f) := by
  refine ensuresAt_bind.mpr (EnsuresAt.mono h fun r hr => ?_)
  cases r with
  | ok a => exact hf a hr
  | error e => exact hr

lemma reachesAt_foldlM {as : List α} {f : β → α → ExceptT ε Query β} {b : β} (hb : Q b)
    (h : ∀ b, Q b → ∀ a ∈ as, ReachesAt G E Q (f b a)) : ReachesAt G E Q (as.foldlM f b) := by
  induction as generalizing b with
  | nil => exact reachesAt_pure hb
  | cons a as ih =>
    rw [List.foldlM_cons]
    exact (h b hb a List.mem_cons_self).bind fun c hc =>
      ih hc fun b hb a ha => h b hb a (List.mem_cons_of_mem _ ha)

end At

/-- If all values that are read have the property `G`, then the outcome is a result with `P` or an
error with `E`. -/
def Reaches (G : Value → Prop) (E : ε → Prop) (P : α → Prop) (x : ExceptT ε Query α) : Prop :=
  x.run.Ensures G (Outcome E P)

variable {x : ExceptT ε Query α} {f : α → ExceptT ε Query β}

lemma reaches_iff : Reaches G E P x ↔ ReachesAt (fun _ => G) E P x := ensures_iff

lemma reaches_pure {a : α} (h : P a) : Reaches G E P (pure a : ExceptT ε Query α) := h

lemma reaches_lift {q : Query α} (h : q.Ensures G P) :
    Reaches G E P (ExceptT.lift q : ExceptT ε Query α) :=
  ensures_map.mpr h

lemma reaches_except {y : Except ε α} (h : Outcome E P y) :
    Reaches G E P (liftM y : ExceptT ε Query α) := h

lemma Reaches.bind (h : Reaches G E P x) (hf : ∀ a, P a → Reaches G E Q (f a)) :
    Reaches G E Q (x >>= f) :=
  reaches_iff.mpr ((reaches_iff.mp h).bind fun a ha => reaches_iff.mp (hf a ha))

lemma reaches_foldlM {as : List α} {f : β → α → ExceptT ε Query β} {b : β} (hb : Q b)
    (h : ∀ b, Q b → ∀ a ∈ as, Reaches G E Q (f b a)) : Reaches G E Q (as.foldlM f b) :=
  reaches_iff.mpr (reachesAt_foldlM hb fun b hb a ha => reaches_iff.mp (h b hb a ha))

/-- The two computations ask for the same cells and come to the same outcome, a result with `P` or
an error with `E`, as long as all values that they read have the property `G`. -/
def ReachBoth (G : Value → Prop) (E : ε → Prop) (P : α → Prop) (x y : ExceptT ε Query α) : Prop :=
  x.run.Agree G (Outcome E P) y.run

section
variable {x y : ExceptT ε Query α}

lemma reachBoth_self : ReachBoth G E P x x ↔ Reaches G E P x := agree_self

lemma reachBoth_pure {a : α} (h : P a) : ReachBoth G E P (pure a : ExceptT ε Query α) (pure a) :=
  ⟨rfl, h⟩

lemma reachBoth_throw {e : ε} (h : E e) :
    ReachBoth G E P (throw e : ExceptT ε Query α) (throw e) :=
  ⟨rfl, h⟩

lemma reachBoth_lift {q q' : Query α} (h : q.Agree G P q') :
    ReachBoth G E P (ExceptT.lift q : ExceptT ε Query α) (ExceptT.lift q') :=
  h.map fun _ ha => ha

lemma ReachBoth.bind {f f' : α → ExceptT ε Query β} (h : ReachBoth G E P x y)
    (hf : ∀ a, P a → ReachBoth G E Q (f a) (f' a)) : ReachBoth G E Q (x >>= f) (y >>= f') := by
  refine Agree.bind h fun r hr => ?_
  cases r with
  | ok a => exact hf a hr
  | error e => exact ⟨rfl, hr⟩

lemma reachBoth_foldlM {as : List α} {f f' : β → α → ExceptT ε Query β} {b : β} (hb : Q b)
    (h : ∀ b, Q b → ∀ a ∈ as, ReachBoth G E Q (f b a) (f' b a)) :
    ReachBoth G E Q (as.foldlM f b) (as.foldlM f' b) := by
  induction as generalizing b with
  | nil => exact reachBoth_pure hb
  | cons a as ih =>
    rw [List.foldlM_cons, List.foldlM_cons]
    exact (h b hb a List.mem_cons_self).bind fun c hc =>
      ih hc fun b hb a ha => h b hb a (List.mem_cons_of_mem _ ha)

end

end Spreadsheet.Query
