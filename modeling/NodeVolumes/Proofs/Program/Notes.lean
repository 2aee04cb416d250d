import NodeVolumes.Proofs.Program.Path

/-! # What programs tell

A program tells things on its way, and nothing answers. What it may tell can be read off its tree, whatever its
calls are answered.

* `Program.Event.notes`: what is told in a list of events.
* `Program.OnlyTells p x`: all that `x` may tell has the property `p`. It is preserved by `OnlyTells.bind`, and
  `OnlyTells.of_path` says that it holds of what is told on every path. -/

namespace NodeVolumes.Program

variable {Call : Type} {Reply : Call → Type} {Note α β : Type}

namespace Event

/-- What an event tells, if it tells something. -/
def note? : Event Call Reply Note → Option Note
  | told n => some n
  | _ => none

/-- What is told in a list of events, in order. -/
def notes (t : List (Event Call Reply Note)) : List Note := t.filterMap note?

@[simp] theorem notes_nil : notes ([] : List (Event Call Reply Note)) = [] := rfl

@[simp] theorem notes_called_cons (c : Call) (r : Reply c) (t : List (Event Call Reply Note)) :
    notes (called c r :: t) = notes t := rfl

@[simp] theorem notes_slept_cons (ms : Nat) (cut : Bool) (t : List (Event Call Reply Note)) :
    notes (slept ms cut :: t) = notes t := rfl

@[simp] theorem notes_polled_cons (b : Bool) (t : List (Event Call Reply Note)) :
    notes (polled b :: t) = notes t := rfl

@[simp] theorem notes_told_cons (n : Note) (t : List (Event Call Reply Note)) :
    notes (told n :: t) = n :: notes t := rfl

@[simp] theorem notes_append (t u : List (Event Call Reply Note)) :
    notes (t ++ u) = notes t ++ notes u := List.filterMap_append

end Event

/-- All that a program may tell has a property. -/
def OnlyTells (p : Note → Prop) : Program Call Reply Note α → Prop
  | done _ => True
  | call _ next => ∀ r, (next r).OnlyTells p
  | sleep _ next => ∀ cut, (next cut).OnlyTells p
  | poll next => ∀ cancelled, (next cancelled).OnlyTells p
  | note n next => p n ∧ next.OnlyTells p

variable {p : Note → Prop} {x : Program Call Reply Note α}

theorem OnlyTells.bind {f : α → Program Call Reply Note β} (h : x.OnlyTells p)
    (hf : ∀ a, (f a).OnlyTells p) : (x >>= f).OnlyTells p := by
  induction x with
  | done a => exact hf a
  | call c next ih => exact fun r => ih r (h r)
  | sleep ms next ih => exact fun cut => ih cut (h cut)
  | poll next ih => exact fun cancelled => ih cancelled (h cancelled)
  | note n next ih => exact ⟨h.1, ih h.2⟩

/-- What is told on a path is what the program may tell. -/
theorem OnlyTells.of_path {t : List (Event Call Reply Note)} {a : α} (h : x.OnlyTells p)
    (hpath : x.Path t a) : ∀ n ∈ Event.notes t, p n := by
  induction hpath with
  | done a => simp
  | call _ ih =>
    rw [Event.notes_called_cons]
    exact ih (h _)
  | sleep _ ih =>
    rw [Event.notes_slept_cons]
    exact ih (h _)
  | poll _ ih =>
    rw [Event.notes_polled_cons]
    exact ih (h _)
  | note _ ih =>
    rw [Event.notes_told_cons]
    exact List.forall_mem_cons.2 ⟨h.1, ih h.2⟩

end NodeVolumes.Program
