set_option autoImplicit false

/-! # Programs

A program is what an operation does as seen from the things it uses: it asks for one thing after the
other, and what it asks next depends on the answers. Each request is answered at once and as a
whole, so the requests are the points at which other programs can come in between. A handler that
keeps a state runs a program to its end. -/

namespace Latchkey

/-- A computation that asks requests of type `R`, where `A r` is the type of answers to `r`. -/
inductive Program (R : Type) (A : R → Type) (α : Type) : Type
  | done (result : α)
  | ask (request : R) (next : A request → Program R A α)

namespace Program

variable {R : Type} {A : R → Type} {α β : Type}

/-- Goes on with the result of a program. -/
def bind : Program R A α → (α → Program R A β) → Program R A β
  | .done a, f => f a
  | .ask r next, f => .ask r fun answer => bind (next answer) f

instance : Monad (Program R A) where
  pure := .done
  bind := bind

/-- The program that asks one request and returns its answer. -/
def request (r : R) : Program R A (A r) :=
  .ask r .done

@[simp] theorem pure_eq (a : α) : (pure a : Program R A α) = .done a := rfl

@[simp] theorem bind_eq (p : Program R A α) (f : α → Program R A β) : p >>= f = p.bind f := rfl

@[simp] theorem done_bind (a : α) (f : α → Program R A β) : (done a).bind f = f a := rfl

@[simp] theorem ask_bind (r : R) (next : A r → Program R A α) (f : α → Program R A β) :
    (ask r next).bind f = .ask r fun answer => (next answer).bind f := rfl

/-! ## Running -/

/-- How requests are answered in a state. -/
abbrev Handler (R : Type) (A : R → Type) (σ : Type) := (r : R) → σ → A r × σ

/-- Runs a program to its end. -/
def run {σ : Type} (handler : Handler R A σ) : Program R A α → σ → α × σ
  | .done a, s => (a, s)
  | .ask r next, s =>
    let (answer, s) := handler r s
    run handler (next answer) s

theorem run_bind {σ : Type} (handler : Handler R A σ) (p : Program R A α)
    (f : α → Program R A β) (s : σ) :
    (p.bind f).run handler s
      = (f (p.run handler s).1).run handler (p.run handler s).2 := by
  induction p generalizing s with
  | done a => rfl
  | ask r next ih => exact ih _ _

end Program

end Latchkey
