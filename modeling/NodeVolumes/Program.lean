/-! # Programs that talk to a cluster

A program is a tree: at each node it makes a call, waits, asks whether it has been cancelled or tells
something, and goes on by the answer. What answers is left open, so one program runs in a simulation
and can be reasoned about under any answers.

* `Program` is a monad, and a lawful one.
* `World.run` runs a program in a world with a state.
* `Program.substitute` replaces every call by a program of other calls. -/

namespace NodeVolumes

/-- How grave a message of the log is. -/
inductive Severity where
  | warning
  | error
  deriving DecidableEq, Repr

/-- A program that makes calls and ends in a result. -/
inductive Program (Call : Type) (Reply : Call → Type) (Note α : Type) where
  | done (result : α)
  | call (c : Call) (next : Reply c → Program Call Reply Note α)
  /-- A wait, which a cancellation cuts short; the rest learns whether it did. -/
  | sleep (ms : Nat) (next : Bool → Program Call Reply Note α)
  /-- A look whether the program has been cancelled. -/
  | poll (next : Bool → Program Call Reply Note α)
  /-- Something that the program tells; nothing answers. -/
  | note (n : Note) (next : Program Call Reply Note α)

namespace Program

variable {Call : Type} {Reply : Call → Type} {Note α β γ : Type}

/-- The first program, then the program that its result gives. -/
def bind (p : Program Call Reply Note α) (f : α → Program Call Reply Note β) :
    Program Call Reply Note β :=
  match p with
  | done a => f a
  | call c next => call c fun r => (next r).bind f
  | sleep ms next => sleep ms fun b => (next b).bind f
  | poll next => poll fun b => (next b).bind f
  | note n next => note n (next.bind f)

instance : Monad (Program Call Reply Note) where
  pure := done
  bind := bind

/-! ### Computation rules -/

@[simp] theorem pure_eq (a : α) : (pure a : Program Call Reply Note α) = done a := rfl

@[simp] theorem done_bind (a : α) (f : α → Program Call Reply Note β) : done a >>= f = f a := rfl

@[simp] theorem call_bind (c : Call) (next : Reply c → Program Call Reply Note α)
    (f : α → Program Call Reply Note β) : call c next >>= f = call c fun r => next r >>= f := rfl

@[simp] theorem sleep_bind (ms : Nat) (next : Bool → Program Call Reply Note α)
    (f : α → Program Call Reply Note β) : sleep ms next >>= f = sleep ms fun b => next b >>= f := rfl

@[simp] theorem poll_bind (next : Bool → Program Call Reply Note α)
    (f : α → Program Call Reply Note β) : poll next >>= f = poll fun b => next b >>= f := rfl

@[simp] theorem note_bind (n : Note) (next : Program Call Reply Note α)
    (f : α → Program Call Reply Note β) : note n next >>= f = note n (next >>= f) := rfl

theorem bind_done (p : Program Call Reply Note α) : p >>= done = p := by
  induction p with
  | done a => rfl
  | call c next ih => exact congrArg (call c) (funext ih)
  | sleep ms next ih => exact congrArg (sleep ms) (funext ih)
  | poll next ih => exact congrArg poll (funext ih)
  | note n next ih => exact congrArg (note n) ih

theorem bind_bind (p : Program Call Reply Note α) (f : α → Program Call Reply Note β)
    (g : β → Program Call Reply Note γ) : p >>= f >>= g = p >>= fun a => f a >>= g := by
  induction p with
  | done a => rfl
  | call c next ih => exact congrArg (call c) (funext ih)
  | sleep ms next ih => exact congrArg (sleep ms) (funext ih)
  | poll next ih => exact congrArg poll (funext ih)
  | note n next ih => exact congrArg (note n) ih

instance : LawfulMonad (Program Call Reply Note) :=
  LawfulMonad.mk' _ bind_done (fun _ _ => rfl) bind_bind

/-! ### Steps -/

/-- The program of a single call. -/
def ask (c : Call) : Program Call Reply Note (Reply c) := call c done

/-- The program of a single wait; its result tells whether it was cut short. -/
def wait (ms : Nat) : Program Call Reply Note Bool := sleep ms done

/-- The program that looks once whether it has been cancelled. -/
def isCancelled : Program Call Reply Note Bool := poll done

/-- The program that tells one thing. -/
def tell (n : Note) : Program Call Reply Note Unit := note n (done ())

/-! ### Answering calls by programs -/

/-- A program with every call replaced by a program that answers it. -/
def substitute {Call' : Type} {Reply' : Call' → Type}
    (f : (c : Call) → Program Call' Reply' Note (Reply c)) :
    Program Call Reply Note α → Program Call' Reply' Note α
  | done a => done a
  | call c next => f c >>= fun r => substitute f (next r)
  | sleep ms next => sleep ms fun b => substitute f (next b)
  | poll next => poll fun b => substitute f (next b)
  | note n next => note n (substitute f next)

end Program

/-! ### Worlds -/

/-- What programs run in: it answers their calls, lets time pass and hears what they tell. -/
structure World (Call : Type) (Reply : Call → Type) (Note σ : Type) where
  answer : (c : Call) → σ → Reply c × σ
  isCancelled : σ → Bool
  pass : Nat → σ → σ
  hear : Note → σ → σ

namespace World

variable {Call : Type} {Reply : Call → Type} {Note σ α β : Type}

/-- Runs a program from a state. -/
def run (w : World Call Reply Note σ) : Program Call Reply Note α → σ → α × σ
  | .done a, s => (a, s)
  | .call c next, s => w.run (next (w.answer c s).1) (w.answer c s).2
  | .sleep ms next, s =>
    if w.isCancelled s then w.run (next true) s else w.run (next false) (w.pass ms s)
  | .poll next, s => w.run (next (w.isCancelled s)) s
  | .note n next, s => w.run next (w.hear n s)

theorem run_bind (w : World Call Reply Note σ) (p : Program Call Reply Note α)
    (f : α → Program Call Reply Note β) (s : σ) :
    w.run (p >>= f) s = w.run (f (w.run p s).1) (w.run p s).2 := by
  induction p generalizing s with
  | done a => rfl
  | call c next ih => simp [run, ih]
  | sleep ms next ih =>
    simp only [Program.sleep_bind, run]
    split <;> simp [ih]
  | poll next ih => simp [run, ih]
  | note n next ih => simp [run, ih]

end World
end NodeVolumes
