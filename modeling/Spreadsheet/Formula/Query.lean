import Spreadsheet.Formula.Reference

/-!
Computations that ask for the values of cells.

A query is finished, or it asks for one cell and goes on with its value. Between two questions it
depends on nothing else. So one and the same query can be answered from values that are stored,
and by a recalculation that computes each cell when it is asked for.
-/

namespace Spreadsheet

inductive Query (α : Type)
  | answer (a : α)
  | ask (p : Place) (next : Value → Query α)

namespace Query

def bind : Query α → (α → Query β) → Query β
  | answer a, f => f a
  | ask p next, f => ask p fun v => (next v).bind f

instance : Monad Query where
  pure := answer
  bind := bind

@[simp] theorem pure_eq (a : α) : (pure a : Query α) = answer a := rfl

@[simp] theorem answer_bind (a : α) (f : α → Query β) : answer a >>= f = f a := rfl

@[simp] theorem ask_bind (p : Place) (next : Value → Query α) (f : α → Query β) :
    ask p next >>= f = ask p fun v => next v >>= f := rfl

theorem bind_answer (q : Query α) : q >>= answer = q := by
  induction q with
  | answer a => rfl
  | ask p next ih => simp [ih]

theorem bind_assoc (q : Query α) (f : α → Query β) (g : β → Query γ) :
    q >>= f >>= g = q >>= fun a => f a >>= g := by
  induction q with
  | answer a => rfl
  | ask p next ih => simp [ih]

instance : LawfulMonad Query :=
  .mk' Query (fun q => bind_answer q) (fun _ _ => rfl) bind_assoc

/-- The value of a cell. -/
def cell (p : Place) : Query Value := ask p answer

/-- Answers a query with an effect for each cell that it asks for. -/
def runWith [Monad m] (read : Place → m Value) : Query α → m α
  | answer a => pure a
  | ask p next => do (next (← read p)).runWith read

/-- Answers a query from given values. -/
def eval (values : Place → Value) : Query α → α
  | answer a => a
  | ask p next => (next (values p)).eval values

@[simp] theorem eval_answer (values : Place → Value) (a : α) : (answer a).eval values = a := rfl

@[simp] theorem eval_bind (values : Place → Value) (q : Query α) (f : α → Query β) :
    (q >>= f).eval values = (f (q.eval values)).eval values := by
  induction q with
  | answer a => rfl
  | ask p next ih => exact ih (values p)

@[simp] theorem eval_cell (values : Place → Value) (p : Place) : (cell p).eval values = values p :=
  rfl

end Query

end Spreadsheet
