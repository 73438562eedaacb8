/-!
# Programs over requests

A computation that makes requests of its surroundings, as a tree: every request of the family `R`
is followed by one continuation for each possible reply. What the surroundings do is fixed only when
the tree is run (`eval`), so the same computation can be run alone, beside others or under failures.
`Program.bind_assoc` and `Program.eval_bind` say that sequences of programs may be regrouped and are
run one after the other.
-/

namespace FiscalGateway

universe u v w

/-- A computation that makes requests; the reply to each decides how it goes on. -/
inductive Program (R : Type → Type u) (α : Type) where
  | done (a : α)
  | ask {β : Type} (request : R β) (next : β → Program R α)

namespace Program

variable {R : Type → Type u} {S : Type → Type v} {α β γ : Type}

/-- Goes on with another program. -/
def bind : Program R α → (α → Program R β) → Program R β
  | done a, f => f a
  | ask r next, f => ask r fun b => (next b).bind f

instance : Monad (Program R) where
  pure := done
  bind := bind

@[simp] theorem pure_eq (a : α) : (pure a : Program R α) = done a := rfl

@[simp] theorem done_bind (a : α) (f : α → Program R β) : done a >>= f = f a := rfl

@[simp] theorem ask_bind (r : R γ) (next : γ → Program R α) (f : α → Program R β) :
    ask r next >>= f = ask r fun c => next c >>= f := rfl

/-- A program that makes a request is not at its end. -/
@[simp] theorem ask_ne_done (r : R γ) (next : γ → Program R α) (a : α) :
    ask r next ≠ done a := by
  intro h
  cases h

@[simp] theorem bind_done (p : Program R α) : p >>= done = p := by
  induction p with
  | done a => rfl
  | ask r next ih => simpa using funext ih

/-- Sequences may be regrouped. -/
theorem bind_assoc (p : Program R α) (f : α → Program R β) (g : β → Program R γ) :
    p >>= f >>= g = p >>= fun a => f a >>= g := by
  induction p with
  | done a => rfl
  | ask r next ih => simpa using funext ih

/-- The program of a single request. -/
def request (r : R α) : Program R α := ask r done

/-- The same program over a larger family of requests. -/
def lift (f : {γ : Type} → R γ → S γ) : Program R α → Program S α
  | done a => done a
  | ask r next => ask (f r) fun b => (next b).lift f

/-- Runs a program where `answer` tells what each request does. -/
def eval {m : Type → Type w} [Monad m] (answer : {γ : Type} → R γ → m γ) : Program R α → m α
  | done a => pure a
  | ask r next => answer r >>= fun b => (next b).eval answer

/-- Programs in sequence are run in sequence. -/
theorem eval_bind {m : Type → Type w} [Monad m] [LawfulMonad m] (answer : {γ : Type} → R γ → m γ)
    (p : Program R α) (f : α → Program R β) :
    (p >>= f).eval answer = p.eval answer >>= fun a => (f a).eval answer := by
  induction p with
  | done a => simp [eval]
  | ask r next ih => simp [eval, ih]

end Program
end FiscalGateway
