import Spreadsheet.Proofs.ErrorPrecedence
import Spreadsheet.Proofs.FiniteFloats
import Spreadsheet.Proofs.FloatOrder
import Spreadsheet.Proofs.Questions

/-!
Computations in double precision.

Numbers are computed in double precision, where a product may be too large and a root may not exist.
No formula ever sees this. An operator or a function shows `#NUM!` where its result is infinite or
no number, and some refuse operands before they compute, as a division does a divisor of zero. An
operand that has no number shows the error of its reading. Signs and percentages alone are not
checked, because they keep finite numbers finite.

Each operator and each function is told by the computation that it stands for: what comes out in
double precision, and which operands are refused with which error.
-/

namespace Spreadsheet

/-- Something that is computed in double precision, unless the operands are refused. -/
structure Calculation (α : Type) where
  result : α → Float
  Refuses : α → CellError → Prop

namespace Calculation

variable {α : Type} {c : Calculation α} {a : α} {e : CellError}

/-- A computation that refuses nothing. -/
def total (f : α → Float) : Calculation α := ⟨f, fun _ _ => False⟩

/-- What is shown for operands. -/
structure Shows (c : Calculation α) (a : α) (v : Value) : Prop where
  refused : ∀ e, c.Refuses a e → v = .error e
  overflow : (∀ e, ¬ c.Refuses a e) → ¬ (c.result a).isFinite → v = .error .number
  finite : (∀ e, ¬ c.Refuses a e) → (c.result a).isFinite → v = .number (c.result a)

/-- What is shown for operands, or for the error in their place. -/
def Answers (c : Calculation α) : Except CellError α → Value → Prop
  | .ok a, v => c.Shows a v
  | .error e, v => v = .error e

lemma Shows.of_takes (h : ∀ e, ¬ c.Refuses a e) : c.Shows a (.ofResult (c.result a)) where
  refused e he := absurd he (h e)
  overflow _ hx := if_neg hx
  finite _ hx := if_pos hx

lemma Shows.of_refuses (h : c.Refuses a e) (hunique : ∀ e', c.Refuses a e' → e' = e) :
    c.Shows a (.error e) where
  refused e' he' := by rw [hunique e' he']
  overflow hno := absurd h (hno e)
  finite hno := absurd h (hno e)

lemma shows_total (f : α → Float) (a : α) : (total f).Shows a (.ofResult (f a)) :=
  .of_takes (c := total f) fun _ => id

/-- A result that is finite needs no check. -/
lemma Shows.of_isFinite (h : ∀ e, ¬ c.Refuses a e) (hx : (c.result a).isFinite) :
    c.Shows a (.number (c.result a)) := by
  have hshows := Shows.of_takes h
  rwa [Value.ofResult, if_pos hx] at hshows

lemma answers_ofExcept {f : α → Value} (h : ∀ a, c.Shows a (f a)) (x : Except CellError α) :
    c.Answers x (Value.ofExcept (x.map f)) := by
  cases x with
  | ok a => exact h a
  | error e => exact rfl

end Calculation

/-! ### Operators -/

/-- Arithmetic in double precision. -/
def BinaryOp.onFloats? : BinaryOp → Option (Float → Float → Float)
  | add => some (· + ·)
  | sub => some (· - ·)
  | mul => some (· * ·)
  | div => some (· / ·)
  | power => some Float.pow
  | _ => none

/-- The numbers that an operator does not take: zero as a divisor, and the powers of zero whose
exponent is zero or negative. -/
inductive BinaryOp.Refuses : BinaryOp → Float → Float → CellError → Prop
  | div {x y : Float} (h : y == 0) : Refuses .div x y .divisionByZero
  | power_zero {x y : Float} (hx : x == 0) (hy : y == 0) : Refuses .power x y .number
  | power_negative {x y : Float} (hx : x == 0) (hy : y < 0) : Refuses .power x y .divisionByZero

def BinaryOp.calculation (op : BinaryOp) (f : Float → Float → Float) :
    Calculation (Float × Float) where
  result p := f p.1 p.2
  Refuses p := op.Refuses p.1 p.2

/-- The signs minus and percent. -/
def UnaryOp.calculation (op : UnaryOp) : Calculation Float :=
  .total fun x => if op = .minus then -x else x / 100

/-- The numbers of two values, the left one first. -/
def Value.toNumbers (v w : Value) : Except CellError (Float × Float) := do
  return (← v.toNumber, ← w.toNumber)

namespace Binary64

lemma beq_iff {x y : Float} :
    x == y ↔ x.toModel.unpack.compare y.toModel.unpack = some .eq := by
  change (x.toModel.beq y.toModel) = true ↔ _
  exact beq_iff_eq

lemma not_lt_of_beq {x y : Float} (h : x == y) : ¬ x < y := by
  rw [lt_iff, beq_iff.mp h]
  nofun

end Binary64

namespace Evaluate

lemma shows_arithmetic {op : BinaryOp} {f : Float → Float → Float} (h : op.onFloats? = some f)
    (x y : Float) : (op.calculation f).Shows (x, y) (arithmetic op x y) := by
  cases op with
  | add | sub | mul =>
    cases h
    exact .of_takes nofun
  | div =>
    cases h
    by_cases hy : y == 0
    · rw [arithmetic, if_pos hy]
      exact .of_refuses (.div hy) fun e he => by cases he; rfl
    · rw [arithmetic, if_neg hy]
      exact .of_takes fun e he => by cases he with | div h => exact hy h
  | power =>
    cases h
    by_cases hzero : x == 0 && y == 0
    · rw [arithmetic, if_pos hzero]
      obtain ⟨hx, hy⟩ := Bool.and_eq_true_iff.mp hzero
      refine .of_refuses (.power_zero hx hy) fun e he => ?_
      cases he with
      | power_zero => rfl
      | power_negative _ hneg => exact absurd hneg (Binary64.not_lt_of_beq hy)
    by_cases hnegative : x == 0 && y < 0
    · rw [arithmetic, if_neg hzero, if_pos hnegative]
      obtain ⟨hx, hy⟩ := Bool.and_eq_true_iff.mp hnegative
      refine .of_refuses (.power_negative hx (of_decide_eq_true hy)) fun e he => ?_
      cases he with
      | power_zero _ hy' => exact absurd (of_decide_eq_true hy) (Binary64.not_lt_of_beq hy')
      | power_negative => rfl
    · rw [arithmetic, if_neg hzero, if_neg hnegative]
      refine .of_takes fun e he => ?_
      cases he with
      | power_zero hx hy => exact hzero (Bool.and_eq_true_iff.mpr ⟨hx, hy⟩)
      | power_negative hx hy =>
        exact hnegative (Bool.and_eq_true_iff.mpr ⟨hx, decide_eq_true hy⟩)
  | _ => cases h

lemma isArithmetic_of_onFloats? {op : BinaryOp} {f : Float → Float → Float}
    (h : op.onFloats? = some f) : op.isArithmetic := by
  cases op <;> first | rfl | cases h

lemma answers_binaryElement {op : BinaryOp} {f : Float → Float → Float}
    (h : op.onFloats? = some f) (epsilon : Float) (v w : Value) :
    (op.calculation f).Answers (v.toNumbers w) (binaryElement op epsilon v w) := by
  rw [binaryElement_of_isArithmetic (isArithmetic_of_onFloats? h), Value.toNumbers]
  cases v.toNumber with
  | error e => exact rfl
  | ok x => cases w.toNumber with
    | error e => exact rfl
    | ok y => exact shows_arithmetic h x y

end Evaluate

lemma answers_unaryElement (op : UnaryOp) {v : Value}
    (h : ∀ x, v.toNumber = .ok x → x.isFinite) :
    op.calculation.Answers v.toNumber (Evaluate.unaryElement op v) := by
  unfold Evaluate.unaryElement
  cases hv : v.toNumber with
  | error e => exact rfl
  | ok x =>
    have hx := h x hv
    refine Calculation.Shows.of_isFinite (c := op.calculation) (fun _ => id) ?_
    change (if op = .minus then -x else x / 100).isFinite
    split_ifs
    · exact Binary64.isFinite_neg hx
    · exact Binary64.isFinite_div_hundred hx

/-! ### Functions -/

namespace Library

/-- What a function is to the evaluator. -/
abbrev Function : Type := CallSite → List Operand → Query Operand

/-- The numbers of two operands. The second one is not read if the first has none. -/
def numbersOf (site : CallSite) (a b : Operand) : ExceptT CellError Query (Float × Float) := do
  let x ← (← site.scalar a).toNumber
  let y ← (← site.scalar b).toNumber
  return (x, y)

/-- The function calculates with the numbers of all its operands. -/
def Aggregates (c : Calculation (List Float)) (f : Function) : Prop :=
  ∃ g : Except CellError (List Float) → Value, (∀ x, c.Answers x (g x)) ∧
    ∀ site args, f site args = do return .value (g (← (numbers args).run))

/-- The function does the same with each element of its only operand. -/
def Elementwise (R : Value → Value → Prop) (f : Function) : Prop :=
  ∃ g : Value → Value, (∀ v, R v (g v)) ∧
    (∀ site arg, f site [arg] = do return .value ((← site.array arg).mapElements g)) ∧
    ∀ site args, args.length ≠ 1 → f site args = return .error .value

/-- The function calculates with what it reads in each element of its only operand. -/
def Maps {α : Type} (read : Value → Except CellError α) (c : Calculation α) (f : Function) :
    Prop :=
  Elementwise (fun v => c.Answers (read v)) f

/-- The function calculates with the numbers of its two operands. -/
def Joins (c : Calculation (Float × Float)) (f : Function) : Prop :=
  ∃ g : Except CellError (Float × Float) → Value, (∀ x, c.Answers x (g x)) ∧
    (∀ site a b, f site [a, b] = do return .value (g (← (numbersOf site a b).run))) ∧
    ∀ site args, args.length ≠ 2 → f site args = return .error .value

/-- The function calculates with its only operand, which it does not read. -/
def Measures (c : Calculation Operand) (f : Function) : Prop :=
  ∃ g : Operand → Value, (∀ o, c.Shows o (g o)) ∧
    (∀ site o, f site [o] = return .value (g o)) ∧
    ∀ site args, args.length ≠ 1 → f site args = return .error .value

/-- The function answers any operands with a finite number. -/
def Counts (f : Function) : Prop :=
  ∀ site args, (f site args).Ensures (fun _ => True) fun o =>
    ∃ x : Float, x.isFinite ∧ o = .value (.number x)

/-- The mean of numbers, of which there must be one. -/
def mean : Calculation (List Float) where
  result xs := sumOf xs / ofCount xs.length
  Refuses xs e := xs = [] ∧ e = .divisionByZero

/-- The first number combined with the others. Of no numbers it is zero. -/
def chosenOf (f : Float → Float → Float) : Calculation (List Float) :=
  .total fun
    | [] => 0
    | x :: xs => xs.foldl f x

/-- The root of a number, which must not be negative. -/
def root : Calculation Float where
  result := Float.sqrt
  Refuses x e := x < 0 ∧ e = .number

def rounded : Calculation (Float × Float) :=
  .total fun p =>
    let factor := powerOfTen p.2.toInt32.toInt
    (p.1 * factor).round / factor

/-- The remainder of a division, whose divisor must not be zero. -/
def remainder : Calculation (Float × Float) where
  result p := p.1 - p.2 * (p.1 / p.2).floor
  Refuses p e := p.2 == 0 ∧ e = .divisionByZero

/-- The number of an error, which the value must be. -/
def errorType : Calculation Value where
  result
    | .error e => ofCount (errorNumber e)
    | _ => 0
  Refuses v e := v.isError = false ∧ e = .notAvailable

/-- The rows or the columns of an operand, which must not be an error or have several areas. -/
def sides (rows : Bool) : Calculation Operand where
  result
    | .reference r => r.singleArea?.elim 0 fun a =>
      ofCount (if rows then a.range.height else a.range.width)
    | .value (.array r c _) => ofCount (if rows then r else c)
    | _ => 1
  Refuses
    | .reference r, e => r.singleArea? = none ∧ e = .reference
    | .value v, e => v = .error e
    | .missing, _ => False

lemma shows_average (xs : List Float) : mean.Shows xs (average xs) := by
  unfold average
  split_ifs with hempty
  · exact .of_refuses ⟨List.isEmpty_iff.mp hempty, rfl⟩ fun e he => he.2
  · exact .of_takes fun e he => hempty (List.isEmpty_iff.mpr he.1)

lemma shows_reduced (f : Float → Float → Float) (xs : List Float) :
    (chosenOf f).Shows xs (reduced f xs) := by
  cases xs <;> exact .of_takes (c := chosenOf f) fun _ => id

lemma shows_modulo (x y : Float) : remainder.Shows (x, y) (modulo x y) := by
  unfold modulo
  split_ifs with hzero
  · exact .of_refuses ⟨hzero, rfl⟩ fun e he => he.2
  · exact .of_takes (c := remainder) fun e he => hzero he.1

lemma shows_squareRoot (x : Float) : root.Shows x (.ofResult (squareRoot x)) := by
  unfold squareRoot
  split_ifs with hnegative
  · have hnone : Value.ofResult (0 / 0) = .error .number := if_neg (by decide)
    rw [hnone]
    exact .of_refuses ⟨hnegative, rfl⟩ fun e he => he.2
  · exact .of_takes (c := root) fun e he => hnegative he.1

lemma answers_onNumber {c : Calculation Float} {f : Float → Float}
    (h : ∀ x, c.Shows x (.ofResult (f x))) (v : Value) :
    c.Answers v.toNumber (onNumber f v) := by
  unfold onNumber
  cases v.toNumber with
  | ok x => exact h x
  | error e => exact rfl

lemma answers_length (v : Value) : (Calculation.total fun s => ofCount s.length).Answers v.toText
    (onText (fun s => .number (ofCount s.length)) v) := by
  unfold onText
  cases v.toText with
  | ok s => exact .of_isFinite (fun _ => id) (Binary64.isFinite_toFloat _)
  | error e => exact rfl

lemma shows_errorType (v : Value) : errorType.Shows v (match v with
    | .error e => .number (ofCount (errorNumber e))
    | _ => .error .notAvailable) := by
  have hother (h : v.isError = false) : errorType.Shows v (.error .notAvailable) :=
    .of_refuses ⟨h, rfl⟩ fun e he => he.2
  cases v with
  | array => exact hother rfl
  | scalar s => cases s with
    | error e =>
      exact .of_isFinite (c := errorType) (fun _ he => nomatch he.1) (Binary64.isFinite_toFloat _)
    | _ => exact hother rfl

lemma shows_dimension (rows : Bool) (o : Operand) : (sides rows).Shows o (dimension rows [o]) := by
  have hcount (n : Nat) : (ofCount n).isFinite := Binary64.isFinite_toFloat _
  have hone : (1 : Float).isFinite := by decide
  cases o with
  | missing => exact .of_isFinite (c := sides rows) (fun _ => id) hone
  | reference r =>
    unfold dimension
    dsimp only
    cases hr : r.singleArea? with
    | none => exact .of_refuses ⟨hr, rfl⟩ fun e he => he.2
    | some a =>
      have hresult : (sides rows).result (.reference r) =
          ofCount (if rows then a.range.height else a.range.width) := by
        simp only [sides, hr, Option.elim_some]
      dsimp only
      rw [← hresult]
      refine .of_isFinite (fun e he => ?_) (hresult ▸ hcount _)
      exact nomatch hr.symm.trans he.1
  | value v => cases v with
    | array => exact .of_isFinite (c := sides rows) (fun _ he => nomatch he) (hcount _)
    | scalar s => cases s with
      | error e => exact .of_refuses rfl fun e he => by cases he; rfl
      | _ => exact .of_isFinite (c := sides rows) (fun _ he => nomatch he) hone

lemma aggregates {c : Calculation (List Float)} {f : Aggregate} (h : ∀ xs, c.Shows xs (f xs)) :
    Aggregates c fun _ args => do return .value (← aggregate f args) := by
  refine ⟨fun x => Value.ofExcept (x.map f), Calculation.answers_ofExcept h, fun site args => ?_⟩
  unfold aggregate
  simp only [bind_assoc]
  refine bind_congr fun (x : Except CellError (List Float)) => ?_
  cases x <;> rfl

lemma elementwise {R : Value → Value → Prop} {g : Value → Value} (h : ∀ v, R v (g v)) :
    Elementwise R fun site args => do return .value (← unary g site args) := by
  refine ⟨g, h, fun site arg => ?_, fun site args hlength => ?_⟩
  · unfold unary
    simp only [bind_assoc]
    rfl
  · unfold unary
    dsimp only
    split
    · exact absurd rfl hlength
    · rfl

lemma run_numbersOf (site : CallSite) (a b : Operand) : (numbersOf site a b).run = do
    match (← site.scalar a).toNumber with
    | .error e => return .error e
    | .ok x => return (← site.scalar b).toNumber.map (x, ·) := by
  unfold numbersOf
  simp only [ExceptT.run_bind, ExceptT.run_monadLift, bind_map_left]
  refine bind_congr fun v => ?_
  cases v.toNumber with
  | error e => rfl
  | ok x =>
    show site.scalar b >>= _ = site.scalar b >>= _
    refine bind_congr fun w => ?_
    cases w.toNumber <;> rfl

lemma joins {c : Calculation (Float × Float)} {f : Float → Float → Value}
    (h : ∀ x y, c.Shows (x, y) (f x y)) :
    Joins c fun site args => do return .value (← binary f site args) := by
  refine ⟨fun p => Value.ofExcept (p.map fun p => f p.1 p.2),
    Calculation.answers_ofExcept fun p => h p.1 p.2, fun site a b => ?_, fun site args hlength => ?_⟩
  · rw [run_numbersOf]
    unfold binary
    simp only [bind_assoc]
    refine bind_congr fun v => ?_
    cases v.toNumber with
    | error e => rfl
    | ok x =>
      simp only [bind_assoc]
      refine bind_congr fun w => ?_
      cases w.toNumber <;> rfl
  · unfold binary
    dsimp only
    split
    · exact absurd rfl hlength
    · rfl

lemma measures (rows : Bool) :
    Measures (sides rows) fun _ args => do return .value (← pure (dimension rows args)) := by
  refine ⟨fun o => dimension rows [o], shows_dimension rows, fun site o => rfl,
    fun site args hlength => ?_⟩
  dsimp only
  unfold dimension
  split <;> first | rfl | exact absurd rfl hlength

lemma counts (element single : Value → Bool) :
    Counts fun _ args => do return .value (← count element single args) := by
  refine fun site args => ?_
  unfold count
  refine Query.ensures_bind.mpr (Query.ensures_bind.mpr ?_)
  exact Query.ensures_of_forall (fun n => ⟨_, Binary64.isFinite_toFloat _, rfl⟩) _

end Library

end Spreadsheet
