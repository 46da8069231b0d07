/-!
# Programs that ask

A program is a finished result, or a request together with what the program does with each answer.
What it asks and in which order is then a matter of the program alone, and every environment that
answers requests, however it fails or interferes, gives one run of it.
-/
namespace FleetSync

/-- A program whose request `q` is answered by a value of `R q`. -/
inductive Program (Q : Type) (R : Q → Type) (α : Type) where
  | done (result : α)
  | ask (request : Q) (next : R request → Program Q R α)

namespace Program

variable {Q : Type} {R : Q → Type} {α β γ σ : Type}

def bind : Program Q R α → (α → Program Q R β) → Program Q R β
  | done a, f => f a
  | ask q next, f => ask q fun r => (next r).bind f

instance : Monad (Program Q R) where
  pure := done
  bind := bind

/-- The program that asks one thing and ends with the answer. -/
def send (q : Q) : Program Q R (R q) := ask q done

/-- The result in an environment that answers by its state and changes it. -/
def run (answer : (q : Q) → σ → R q × σ) : Program Q R α → σ → α × σ
  | done a, s => (a, s)
  | ask q next, s => (next (answer q s).1).run answer (answer q s).2

@[simp] theorem pure_eq_done (a : α) : (pure a : Program Q R α) = done a := rfl

@[simp] theorem done_bind (a : α) (f : α → Program Q R β) : (done a >>= f) = f a := rfl

@[simp] theorem ask_bind (q : Q) (next : R q → Program Q R α) (f : α → Program Q R β) :
    (ask q next >>= f) = ask q fun r => next r >>= f := rfl

@[simp] theorem run_done (answer : (q : Q) → σ → R q × σ) (a : α) (s : σ) :
    (done a : Program Q R α).run answer s = (a, s) := rfl

@[simp] theorem run_ask (answer : (q : Q) → σ → R q × σ) (q : Q) (next : R q → Program Q R α)
    (s : σ) : (ask q next).run answer s = (next (answer q s).1).run answer (answer q s).2 := rfl

theorem run_bind (answer : (q : Q) → σ → R q × σ) (p : Program Q R α)
    (f : α → Program Q R β) (s : σ) :
    (p >>= f).run answer s = (f (p.run answer s).1).run answer (p.run answer s).2 := by
  induction p generalizing s with
  | done a => rfl
  | ask q next ih => exact ih _ _

theorem id_map' (p : Program Q R α) : id <$> p = p := by
  induction p with
  | done a => rfl
  | ask q next ih => exact congrArg (ask q) (funext ih)

theorem bind_assoc' (p : Program Q R α) (f : α → Program Q R β) (g : β → Program Q R γ) :
    p >>= f >>= g = p >>= fun a => f a >>= g := by
  induction p with
  | done a => rfl
  | ask q next ih => exact congrArg (ask q) (funext ih)

instance : LawfulMonad (Program Q R) :=
  LawfulMonad.mk' _ id_map' (fun _ _ => rfl) bind_assoc'

end Program

end FleetSync
