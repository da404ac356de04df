/-!
Programs that ask their surroundings.

A program either is done or asks a question and goes on with the answer, so one text of a program
can be run against a store in memory, against recorded answers, or with other writers at work
between the questions.

* `Program.run`: answers the questions from a changing state.
* `Program.trace`: the questions of a run with their answers, in order.
* `Program.run_bind`: a sequence of two programs runs one after the other.
-/

namespace LinkKeeper

/-- A program with questions `Q`, answers `A q` to the question `q`, and result `α`. -/
inductive Program (Q : Type) (A : Q → Type) (α : Type) : Type where
  | done (result : α)
  | ask (question : Q) (next : A question → Program Q A α)

namespace Program

variable {Q : Type} {A : Q → Type} {α β σ : Type}

/-- The program that goes on with the result of another. -/
def bind : Program Q A α → (α → Program Q A β) → Program Q A β
  | done a, f => f a
  | ask q next, f => ask q fun answer => (next answer).bind f

instance : Monad (Program Q A) where
  pure := done
  bind := bind

/-- The program that asks one question and returns the answer. -/
def query (q : Q) : Program Q A (A q) := ask q done

/-- Runs a program; `answer` gives the answer to a question and the state after it. -/
def run (answer : (q : Q) → σ → A q × σ) : Program Q A α → σ → α × σ
  | done a, s => (a, s)
  | ask q next, s =>
    let (reply, s) := answer q s
    (next reply).run answer s

/-- The questions that a run asks, each with its answer, in order. -/
def trace (answer : (q : Q) → σ → A q × σ) : Program Q A α → σ → List ((q : Q) × A q)
  | done _, _ => []
  | ask q next, s =>
    let (reply, s) := answer q s
    ⟨q, reply⟩ :: (next reply).trace answer s

@[simp] theorem run_done (answer : (q : Q) → σ → A q × σ) (a : α) (s : σ) :
    (done a : Program Q A α).run answer s = (a, s) := rfl

@[simp] theorem run_ask (answer : (q : Q) → σ → A q × σ) (q : Q) (next : A q → Program Q A α) (s : σ) :
    (ask q next).run answer s = (next (answer q s).1).run answer (answer q s).2 := rfl

@[simp] theorem run_query (answer : (q : Q) → σ → A q × σ) (q : Q) (s : σ) :
    (query q : Program Q A (A q)).run answer s = answer q s := rfl

theorem run_bind (answer : (q : Q) → σ → A q × σ) (p : Program Q A α) (f : α → Program Q A β) (s : σ) :
    (p.bind f).run answer s = (f (p.run answer s).1).run answer (p.run answer s).2 := by
  induction p generalizing s with
  | done a => rfl
  | ask q next ih => exact ih _ _

theorem trace_bind (answer : (q : Q) → σ → A q × σ) (p : Program Q A α) (f : α → Program Q A β) (s : σ) :
    (p.bind f).trace answer s =
      p.trace answer s ++ (f (p.run answer s).1).trace answer (p.run answer s).2 := by
  induction p generalizing s with
  | done a => rfl
  | ask q next ih => exact congrArg _ (ih _ _)

end Program

end LinkKeeper
