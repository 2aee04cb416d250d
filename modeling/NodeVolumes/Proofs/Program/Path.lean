import Mathlib.Data.Sigma.Basic
import Mathlib.Logic.Function.Basic
import NodeVolumes.Program

/-! # Paths of programs

A path of a program is a list of everything that happens while it runs to its end, with the answers that
it was given. All answers are possible on paths: a call may give anything, and a cancellation may cut
any wait short. What holds of every path holds wherever the program runs.

* `Program.Path p t a`: the events `t` may happen while `p` runs, and then its result is `a`.
* `Program.path_bind_iff`: a path of two programs in turn is a path of the first and one of the second.
* `Program.Path.result_unique`: the events decide the result.
* `Program.Path.answered_otherwise`: any call of a path might have been given any other answer.
* `World.path_run`: what happens in a world is a path. -/

namespace NodeVolumes
namespace Program

/-- Something that happens while a program runs, with the answer to it. -/
inductive Event (Call : Type) (Reply : Call → Type) (Note : Type) where
  | called (c : Call) (r : Reply c)
  /-- A wait, and whether it was cut short. -/
  | slept (ms : Nat) (cut : Bool)
  /-- A look whether the program has been cancelled. -/
  | polled (cancelled : Bool)
  | told (n : Note)

namespace Event

variable {Call : Type} {Reply : Call → Type} {Note : Type}

/-- An event as a member of a sum of types. -/
def toSum : Event Call Reply Note → ((c : Call) × Reply c) ⊕ (Nat × Bool) ⊕ Bool ⊕ Note
  | called c r => .inl ⟨c, r⟩
  | slept ms cut => .inr (.inl (ms, cut))
  | polled b => .inr (.inr (.inl b))
  | told n => .inr (.inr (.inr n))

theorem toSum_injective :
    Function.Injective (toSum : Event Call Reply Note → _ ⊕ _ ⊕ _ ⊕ _) := by
  intro e e' h
  cases e <;> cases e' <;> simp_all [toSum]

instance [DecidableEq Call] [∀ c, DecidableEq (Reply c)] [DecidableEq Note] :
    DecidableEq (Event Call Reply Note) := toSum_injective.decidableEq

/-- The call of an event, if it is one. -/
def call? : Event Call Reply Note → Option Call
  | called c _ => some c
  | _ => none

/-- The calls among events, in order. -/
def calls (t : List (Event Call Reply Note)) : List Call := t.filterMap call?

@[simp] theorem call?_called (c : Call) (r : Reply c) :
    (called c r : Event Call Reply Note).call? = some c := rfl

@[simp] theorem call?_slept (ms : Nat) (cut : Bool) :
    (slept ms cut : Event Call Reply Note).call? = none := rfl

@[simp] theorem call?_polled (b : Bool) : (polled b : Event Call Reply Note).call? = none := rfl

@[simp] theorem call?_told (n : Note) : (told n : Event Call Reply Note).call? = none := rfl

@[simp] theorem calls_nil : calls ([] : List (Event Call Reply Note)) = [] := rfl

@[simp] theorem calls_called_cons (c : Call) (r : Reply c) (t : List (Event Call Reply Note)) :
    calls (called c r :: t) = c :: calls t := rfl

@[simp] theorem calls_slept_cons (ms : Nat) (cut : Bool) (t : List (Event Call Reply Note)) :
    calls (slept ms cut :: t) = calls t := rfl

@[simp] theorem calls_polled_cons (b : Bool) (t : List (Event Call Reply Note)) :
    calls (polled b :: t) = calls t := rfl

@[simp] theorem calls_told_cons (n : Note) (t : List (Event Call Reply Note)) :
    calls (told n :: t) = calls t := rfl

@[simp] theorem calls_append (t u : List (Event Call Reply Note)) :
    calls (t ++ u) = calls t ++ calls u := List.filterMap_append

theorem forall_mem_calls_cons {e : Event Call Reply Note} {t : List (Event Call Reply Note)}
    {p : Call → Prop} :
    (∀ c ∈ calls (e :: t), p c) ↔ (∀ c, e.call? = some c → p c) ∧ ∀ c ∈ calls t, p c := by
  cases e <;> simp

theorem forall_mem_calls_singleton (p : Call → Prop) {c : Call} (h : p c) (r : Reply c) :
    ∀ d ∈ calls [(called c r : Event Call Reply Note)], p d := by
  intro d hd
  rw [List.mem_singleton.1 hd]
  exact h

theorem mem_calls_of_mem {t : List (Event Call Reply Note)} {c : Call} {r : Reply c}
    (h : called c r ∈ t) : c ∈ calls t := List.mem_filterMap.2 ⟨_, h, rfl⟩

theorem exists_mem_of_mem_calls {t : List (Event Call Reply Note)} {c : Call} (h : c ∈ calls t) :
    ∃ r, called c r ∈ t := by
  obtain ⟨e, he, hc⟩ := List.mem_filterMap.1 h
  cases e with
  | called d r =>
    cases hc
    exact ⟨r, he⟩
  | slept ms cut => cases hc
  | polled b => cases hc
  | told n => cases hc

/-- The length of an event that is a wait, and whether it was cut short. -/
def wait? : Event Call Reply Note → Option (Nat × Bool)
  | slept ms cut => some (ms, cut)
  | _ => none

/-- The waits among events, in order. -/
def waits (t : List (Event Call Reply Note)) : List (Nat × Bool) := t.filterMap wait?

@[simp] theorem waits_nil : waits ([] : List (Event Call Reply Note)) = [] := rfl

@[simp] theorem waits_called_cons (c : Call) (r : Reply c) (t : List (Event Call Reply Note)) :
    waits (called c r :: t) = waits t := rfl

@[simp] theorem waits_slept_cons (ms : Nat) (cut : Bool) (t : List (Event Call Reply Note)) :
    waits (slept ms cut :: t) = (ms, cut) :: waits t := rfl

@[simp] theorem waits_polled_cons (b : Bool) (t : List (Event Call Reply Note)) :
    waits (polled b :: t) = waits t := rfl

@[simp] theorem waits_told_cons (n : Note) (t : List (Event Call Reply Note)) :
    waits (told n :: t) = waits t := rfl

@[simp] theorem waits_append (t u : List (Event Call Reply Note)) :
    waits (t ++ u) = waits t ++ waits u := List.filterMap_append

end Event

theorem append_eq_append_cons {α : Type} {u t pre post : List α} {a : α}
    (h : u ++ t = pre ++ a :: post) :
    (∃ v, u = pre ++ a :: v ∧ post = v ++ t) ∨ ∃ v, pre = u ++ v ∧ t = v ++ a :: post := by
  rcases List.append_eq_append_iff.1 h with ⟨v, hpre, ht⟩ | ⟨v, hu, hv⟩
  · exact .inr ⟨v, hpre, ht⟩
  · cases v with
    | nil => exact .inr ⟨[], by simpa using hu.symm, by simpa using hv.symm⟩
    | cons b v =>
      obtain ⟨rfl, hpost⟩ := List.cons.inj (hv.trans (List.cons_append ..))
      exact .inl ⟨v, hu, hpost⟩

theorem append_eq_of_not_mem {α : Type} {u t pre post : List α} {a : α}
    (h : u ++ t = pre ++ a :: post) (ha : a ∉ u) : ∃ v, pre = u ++ v ∧ t = v ++ a :: post := by
  rcases append_eq_append_cons h with ⟨v, rfl, -⟩ | hbehind
  · exact absurd (List.mem_append_right _ (List.mem_cons_self ..)) ha
  · exact hbehind

theorem cons_eq_of_ne {α : Type} {b a : α} {t pre post : List α} (h : b :: t = pre ++ a :: post)
    (hne : b ≠ a) : ∃ v, pre = b :: v ∧ t = v ++ a :: post :=
  append_eq_of_not_mem (show [b] ++ t = pre ++ a :: post from h)
    fun hmem => hne (List.mem_singleton.1 hmem).symm

variable {Call : Type} {Reply : Call → Type} {Note α β : Type}

/-- `Path p t a`: the events `t` may happen while `p` runs to its end, and then its result is `a`. -/
inductive Path : Program Call Reply Note α → List (Event Call Reply Note) → α → Prop where
  | done (a : α) : Path (done a) [] a
  | call {c : Call} {next : Reply c → Program Call Reply Note α} {r : Reply c}
      {t : List (Event Call Reply Note)} {a : α} :
      Path (next r) t a → Path (call c next) (.called c r :: t) a
  | sleep {ms : Nat} {next : Bool → Program Call Reply Note α} {cut : Bool}
      {t : List (Event Call Reply Note)} {a : α} :
      Path (next cut) t a → Path (sleep ms next) (.slept ms cut :: t) a
  | poll {next : Bool → Program Call Reply Note α} {cancelled : Bool}
      {t : List (Event Call Reply Note)} {a : α} :
      Path (next cancelled) t a → Path (poll next) (.polled cancelled :: t) a
  | note {n : Note} {next : Program Call Reply Note α} {t : List (Event Call Reply Note)} {a : α} :
      Path next t a → Path (note n next) (.told n :: t) a

/-! ### The paths of each step -/

theorem path_done_iff {a b : α} {t : List (Event Call Reply Note)} :
    (done a : Program Call Reply Note α).Path t b ↔ t = [] ∧ b = a := by
  constructor
  · intro h
    cases h
    exact ⟨rfl, rfl⟩
  · rintro ⟨rfl, rfl⟩
    exact .done _

theorem path_call_iff {c : Call} {next : Reply c → Program Call Reply Note α}
    {t : List (Event Call Reply Note)} {a : α} :
    (call c next).Path t a ↔ ∃ r u, t = .called c r :: u ∧ (next r).Path u a := by
  constructor
  · intro h
    cases h with
    | call h => exact ⟨_, _, rfl, h⟩
  · rintro ⟨r, u, rfl, h⟩
    exact .call h

theorem path_sleep_iff {ms : Nat} {next : Bool → Program Call Reply Note α}
    {t : List (Event Call Reply Note)} {a : α} :
    (sleep ms next).Path t a ↔ ∃ cut u, t = .slept ms cut :: u ∧ (next cut).Path u a := by
  constructor
  · intro h
    cases h with
    | sleep h => exact ⟨_, _, rfl, h⟩
  · rintro ⟨cut, u, rfl, h⟩
    exact .sleep h

theorem path_note_iff {n : Note} {next : Program Call Reply Note α}
    {t : List (Event Call Reply Note)} {a : α} :
    (note n next).Path t a ↔ ∃ u, t = .told n :: u ∧ next.Path u a := by
  constructor
  · intro h
    cases h with
    | note h => exact ⟨_, rfl, h⟩
  · rintro ⟨u, rfl, h⟩
    exact .note h

/-! ### Programs in turn -/

theorem Path.bind {p : Program Call Reply Note α} {f : α → Program Call Reply Note β}
    {t u : List (Event Call Reply Note)} {a : α} {b : β} (h : p.Path t a) (h' : (f a).Path u b) :
    (p >>= f).Path (t ++ u) b := by
  induction h with
  | done a => exact h'
  | call _ ih => exact .call (ih h')
  | sleep _ ih => exact .sleep (ih h')
  | poll _ ih => exact .poll (ih h')
  | note _ ih => exact .note (ih h')

theorem Path.of_bind {p : Program Call Reply Note α} {f : α → Program Call Reply Note β}
    {t : List (Event Call Reply Note)} {b : β} (h : (p >>= f).Path t b) :
    ∃ u v a, t = u ++ v ∧ p.Path u a ∧ (f a).Path v b := by
  induction p generalizing t with
  | done a => exact ⟨[], t, a, rfl, .done a, h⟩
  | call c next ih =>
    obtain ⟨r, w, rfl, hw⟩ := path_call_iff.1 h
    obtain ⟨u, v, a, rfl, hu, hv⟩ := ih r hw
    exact ⟨.called c r :: u, v, a, rfl, .call hu, hv⟩
  | sleep ms next ih =>
    obtain ⟨cut, w, rfl, hw⟩ := path_sleep_iff.1 h
    obtain ⟨u, v, a, rfl, hu, hv⟩ := ih cut hw
    exact ⟨.slept ms cut :: u, v, a, rfl, .sleep hu, hv⟩
  | poll next ih =>
    cases h with
    | poll h =>
      obtain ⟨u, v, a, rfl, hu, hv⟩ := ih _ h
      exact ⟨.polled _ :: u, v, a, rfl, .poll hu, hv⟩
  | note n next ih =>
    obtain ⟨w, rfl, hw⟩ := path_note_iff.1 h
    obtain ⟨u, v, a, rfl, hu, hv⟩ := ih hw
    exact ⟨.told n :: u, v, a, rfl, .note hu, hv⟩

/-- A path of two programs in turn is a path of the first followed by one of the second. -/
theorem path_bind_iff {p : Program Call Reply Note α} {f : α → Program Call Reply Note β}
    {t : List (Event Call Reply Note)} {b : β} :
    (p >>= f).Path t b ↔ ∃ u v a, t = u ++ v ∧ p.Path u a ∧ (f a).Path v b := by
  refine ⟨Path.of_bind, ?_⟩
  rintro ⟨u, v, a, rfl, hu, hv⟩
  exact hu.bind hv

/-- What happens decides the result. -/
theorem Path.result_unique {p : Program Call Reply Note α} {t : List (Event Call Reply Note)} {a b : α}
    (h : p.Path t a) (h' : p.Path t b) : a = b := by
  induction h with
  | done a => exact (path_done_iff.1 h').2.symm
  | call _ ih => cases h' with | call h' => exact ih h'
  | sleep _ ih => cases h' with | sleep h' => exact ih h'
  | poll _ ih => cases h' with | poll h' => exact ih h'
  | note _ ih => cases h' with | note h' => exact ih h'

/-! ### Other answers -/

theorem exists_path [∀ c, Nonempty (Reply c)] (p : Program Call Reply Note α) : ∃ t a, p.Path t a := by
  induction p with
  | done a => exact ⟨[], a, .done a⟩
  | call c next ih =>
    obtain ⟨r⟩ := (inferInstance : Nonempty (Reply c))
    obtain ⟨t, a, h⟩ := ih r
    exact ⟨_, a, .call h⟩
  | sleep ms next ih =>
    obtain ⟨t, a, h⟩ := ih false
    exact ⟨_, a, .sleep h⟩
  | poll next ih =>
    obtain ⟨t, a, h⟩ := ih false
    exact ⟨_, a, .poll h⟩
  | note n next ih =>
    obtain ⟨t, a, h⟩ := ih
    exact ⟨_, a, .note h⟩

/-- A call on a path might have been given another answer. -/
theorem Path.answered_otherwise [∀ c, Nonempty (Reply c)] {p : Program Call Reply Note α}
    {t u : List (Event Call Reply Note)} {c : Call} {r : Reply c} {a : α}
    (h : p.Path (t ++ .called c r :: u) a) (r' : Reply c) : ∃ v b, p.Path (t ++ .called c r' :: v) b := by
  induction t generalizing p with
  | nil =>
    cases h with
    | @call _ next _ _ _ h =>
      obtain ⟨v, b, hv⟩ := exists_path (next r')
      exact ⟨v, b, .call hv⟩
  | cons e t ih =>
    cases h with
    | call h =>
      obtain ⟨v, b, hv⟩ := ih h
      exact ⟨v, b, .call hv⟩
    | sleep h =>
      obtain ⟨v, b, hv⟩ := ih h
      exact ⟨v, b, .sleep hv⟩
    | poll h =>
      obtain ⟨v, b, hv⟩ := ih h
      exact ⟨v, b, .poll hv⟩
    | note h =>
      obtain ⟨v, b, hv⟩ := ih h
      exact ⟨v, b, .note hv⟩

end Program

/-! ### Paths in a world -/

namespace World

variable {Call : Type} {Reply : Call → Type} {Note σ α β : Type}

/-- What happens while a program runs in a world. -/
def trace (w : World Call Reply Note σ) :
    Program Call Reply Note α → σ → List (Program.Event Call Reply Note)
  | .done _, _ => []
  | .call c next, s => .called c (w.answer c s).1 :: w.trace (next (w.answer c s).1) (w.answer c s).2
  | .sleep ms next, s =>
    if w.isCancelled s then .slept ms true :: w.trace (next true) s
    else .slept ms false :: w.trace (next false) (w.pass ms s)
  | .poll next, s => .polled (w.isCancelled s) :: w.trace (next (w.isCancelled s)) s
  | .note n next, s => .told n :: w.trace next (w.hear n s)

/-- What happens in a world is a path, with the result of the run. -/
theorem path_run (w : World Call Reply Note σ) (p : Program Call Reply Note α) (s : σ) :
    p.Path (w.trace p s) (w.run p s).1 := by
  induction p generalizing s with
  | done a => exact .done a
  | call c next ih => exact .call (ih _ _)
  | sleep ms next ih =>
    simp only [trace, run]
    split
    · exact .sleep (ih _ _)
    · exact .sleep (ih _ _)
  | poll next ih => exact .poll (ih _ _)
  | note n next ih => exact .note (ih _)

theorem path_of_run {w : World Call Reply Note σ} {p : Program Call Reply Note α} {s : σ} {a : α}
    (h : (w.run p s).1 = a) : p.Path (w.trace p s) a := by
  rw [← h]
  exact w.path_run p s

end World
end NodeVolumes
