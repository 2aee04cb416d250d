import NodeVolumes.Proofs.Program.Path

/-! # Programs in time

Calls and waits take time, and a cancellation comes at a point in time and is never taken back. It cuts short
the wait into which it falls and every wait that begins after it; a call that has begun is answered.

* `TimedWorld`: a world with a clock; `TimedWorld.run` and `TimedWorld.trace` run programs in it.
* `TimedWorld.Goes s now t s' now'`: the events `t` are those of the world from the state `s` at the time `now`.
* `TimedWorld.path_run`: what happens in time is a path.
* `TimedWorld.run_untimed`: while no cancellation is to come, programs run as in a world without a clock. -/

namespace NodeVolumes

/-- What programs run in when time matters. -/
structure TimedWorld (Call : Type) (Reply : Call → Type) (σ : Type) where
  answer : (c : Call) → σ → Reply c × σ
  /-- How long it takes to answer a call. -/
  takes : Call → σ → Nat
  /-- How long a wait lasts that is not cut short. -/
  lasts : Nat → Nat
  /-- When programs are cancelled, if ever. -/
  fires : Option Nat

namespace TimedWorld

variable {Call : Type} {Reply : Call → Type} {Note σ α : Type}

/-- Tells whether programs have been cancelled before a time. -/
def firedBefore (w : TimedWorld Call Reply σ) (time : Nat) : Bool := w.fires.any (· < time)

/-- When a wait is over that begins at a time, be it cut short or not. -/
def wakesAt (w : TimedWorld Call Reply σ) (ms now : Nat) : Nat :=
  w.fires.elim (now + w.lasts ms) fun fired => max now (min fired (now + w.lasts ms))

theorem wakesAt_of_not_fired {w : TimedWorld Call Reply σ} {ms now : Nat}
    (h : w.firedBefore (now + w.lasts ms) = false) : w.wakesAt ms now = now + w.lasts ms := by
  unfold firedBefore at h
  unfold wakesAt
  cases hfires : w.fires with
  | none => rfl
  | some fired =>
    rw [hfires, Option.any_some, decide_eq_false_iff_not, Nat.not_lt] at h
    rw [Option.elim_some, Nat.min_eq_right h]
    exact Nat.max_eq_right (Nat.le_add_right now _)

/-- Runs a program from a state and a time, and gives the state and the time at its end. -/
def run (w : TimedWorld Call Reply σ) : Program Call Reply Note α → σ → Nat → α × σ × Nat
  | .done a, s, now => (a, s, now)
  | .call c next, s, now => w.run (next (w.answer c s).1) (w.answer c s).2 (now + w.takes c s)
  | .sleep ms next, s, now => w.run (next (w.firedBefore (now + w.lasts ms))) s (w.wakesAt ms now)
  | .poll next, s, now => w.run (next (w.fires.any (· ≤ now))) s now
  | .note _ next, s, now => w.run next s now

/-- What happens while a program runs. -/
def trace (w : TimedWorld Call Reply σ) :
    Program Call Reply Note α → σ → Nat → List (Program.Event Call Reply Note)
  | .done _, _, _ => []
  | .call c next, s, now =>
    .called c (w.answer c s).1 :: w.trace (next (w.answer c s).1) (w.answer c s).2 (now + w.takes c s)
  | .sleep ms next, s, now =>
    .slept ms (w.firedBefore (now + w.lasts ms)) ::
      w.trace (next (w.firedBefore (now + w.lasts ms))) s (w.wakesAt ms now)
  | .poll next, s, now =>
    .polled (w.fires.any (· ≤ now)) :: w.trace (next (w.fires.any (· ≤ now))) s now
  | .note n next, s, now => .told n :: w.trace next s now

/-- What happens in time is a path, with the result of the run. -/
theorem path_run (w : TimedWorld Call Reply σ) (p : Program Call Reply Note α) (s : σ) (now : Nat) :
    p.Path (w.trace p s now) (w.run p s now).1 := by
  induction p generalizing s now with
  | done a => exact .done a
  | call c next ih => exact .call (ih _ _ _)
  | sleep ms next ih => exact .sleep (ih _ _ _)
  | poll next ih => exact .poll (ih _ _ _)
  | note n next ih => exact .note (ih _ _)

/-- Events with the answers and at the times of a world. -/
inductive Goes (w : TimedWorld Call Reply σ) :
    σ → Nat → List (Program.Event Call Reply Note) → σ → Nat → Prop
  | done {s : σ} {now : Nat} : Goes w s now [] s now
  | called {c : Call} {s s' : σ} {now now' : Nat} {t : List (Program.Event Call Reply Note)} :
      Goes w (w.answer c s).2 (now + w.takes c s) t s' now' →
      Goes w s now (.called c (w.answer c s).1 :: t) s' now'
  | slept {ms : Nat} {s s' : σ} {now now' : Nat} {t : List (Program.Event Call Reply Note)} :
      Goes w s (w.wakesAt ms now) t s' now' →
      Goes w s now (.slept ms (w.firedBefore (now + w.lasts ms)) :: t) s' now'
  | polled {s s' : σ} {now now' : Nat} {t : List (Program.Event Call Reply Note)} :
      Goes w s now t s' now' → Goes w s now (.polled (w.fires.any (· ≤ now)) :: t) s' now'
  | told {n : Note} {s s' : σ} {now now' : Nat} {t : List (Program.Event Call Reply Note)} :
      Goes w s now t s' now' → Goes w s now (.told n :: t) s' now'

variable {w : TimedWorld Call Reply σ} {s s' : σ} {now now' : Nat} {t u : List (Program.Event Call Reply Note)}

theorem Goes.of_called {c : Call} {r : Reply c} (h : w.Goes s now (.called c r :: t) s' now') :
    r = (w.answer c s).1 ∧ w.Goes (w.answer c s).2 (now + w.takes c s) t s' now' := by
  cases h with
  | called hrest => exact ⟨rfl, hrest⟩

theorem Goes.of_slept {ms : Nat} {cut : Bool} (h : w.Goes s now (.slept ms cut :: t) s' now') :
    cut = w.firedBefore (now + w.lasts ms) ∧ w.Goes s (w.wakesAt ms now) t s' now' := by
  cases h with
  | slept hrest => exact ⟨rfl, hrest⟩

theorem Goes.of_append (h : w.Goes s now (t ++ u) s' now') :
    ∃ s₁ now₁, w.Goes s now t s₁ now₁ ∧ w.Goes s₁ now₁ u s' now' := by
  induction t generalizing s now with
  | nil => exact ⟨s, now, .done, h⟩
  | cons e t ih =>
    cases h with
    | called hrest =>
      obtain ⟨s₁, now₁, ht, hu⟩ := ih hrest
      exact ⟨s₁, now₁, .called ht, hu⟩
    | slept hrest =>
      obtain ⟨s₁, now₁, ht, hu⟩ := ih hrest
      exact ⟨s₁, now₁, .slept ht, hu⟩
    | polled hrest =>
      obtain ⟨s₁, now₁, ht, hu⟩ := ih hrest
      exact ⟨s₁, now₁, .polled ht, hu⟩
    | told hrest =>
      obtain ⟨s₁, now₁, ht, hu⟩ := ih hrest
      exact ⟨s₁, now₁, .told ht, hu⟩

theorem goes_trace (w : TimedWorld Call Reply σ) (p : Program Call Reply Note α) (s : σ) (now : Nat) :
    w.Goes s now (w.trace p s now) (w.run p s now).2.1 (w.run p s now).2.2 := by
  induction p generalizing s now with
  | done a => exact .done
  | call c next ih => exact .called (ih _ _ _)
  | sleep ms next ih => exact .slept (ih _ _ _)
  | poll next ih => exact .polled (ih _ _ _)
  | note n next ih => exact .told (ih _ _)

/-! ### Worlds without a clock -/

/-- The world in which a wait is only cut short when programs have been cancelled before it begins. -/
def untimed (w : TimedWorld Call Reply σ) (Note : Type) : World Call Reply Note (σ × Nat) where
  answer c s := ((w.answer c s.1).1, (w.answer c s.1).2, s.2 + w.takes c s.1)
  isCancelled s := w.fires.any (· ≤ s.2)
  pass ms s := (s.1, s.2 + w.lasts ms)
  hear _ s := s

/-- When no cancellation is still to come, the clock makes no difference. -/
theorem run_untimed (hfires : ∀ fired, w.fires = some fired → fired ≤ now) (hlasts : ∀ ms, 0 < w.lasts ms)
    (p : Program Call Reply Note α) : (w.untimed Note).run p (s, now) = w.run p s now := by
  induction p generalizing s now with
  | done a => rfl
  | call c next ih => exact ih _ fun fired h => Nat.le_trans (hfires fired h) (Nat.le_add_right now _)
  | sleep ms next ih =>
    cases h : w.fires with
    | none =>
      have hcut : w.firedBefore (now + w.lasts ms) = false := by simp [firedBefore, h]
      have hnot : (w.untimed Note).isCancelled (s, now) = false := by simp [untimed, h]
      rw [World.run, if_neg (by simp [hnot]), run, hcut, wakesAt_of_not_fired hcut]
      exact ih _ fun fired hfired => Nat.le_trans (hfires fired hfired) (Nat.le_add_right now _)
    | some fired =>
      have hle := hfires fired h
      have hpositive := hlasts ms
      have hcut : w.firedBefore (now + w.lasts ms) = true := by
        simp only [firedBefore, h, Option.any_some, decide_eq_true_eq]
        omega
      have hwakes : w.wakesAt ms now = now := by
        simp only [wakesAt, h, Option.elim_some]
        omega
      have hnow : (w.untimed Note).isCancelled (s, now) = true := by simp [untimed, h, hle]
      rw [World.run, if_pos hnow, run, hcut, hwakes]
      exact ih _ hfires
  | poll next ih => exact ih _ hfires
  | note n next ih => exact ih hfires

end TimedWorld
end NodeVolumes
