/-! # Outcomes in turn

Checks are put together so that the first one to fail decides the outcome.

* `except_bind_eq_ok_iff`: two checks in turn pass when both do.
* `except_bind_eq_error_iff`: they fail when the first does, or else when the second does.
* `FailsOnly p x`: the error of `x`, if it fails, has the property `p`. -/

namespace NodeVolumes

variable {ε α β : Type}

theorem except_bind_eq_ok_iff {x : Except ε α} {f : α → Except ε β} {b : β} :
    x >>= f = .ok b ↔ ∃ a, x = .ok a ∧ f a = .ok b := by
  cases x with
  | error e => simp [bind, Except.bind]
  | ok a => simp [bind, Except.bind]

theorem except_bind_eq_error_iff {x : Except ε α} {f : α → Except ε β} {e : ε} :
    x >>= f = .error e ↔ x = .error e ∨ ∃ a, x = .ok a ∧ f a = .error e := by
  cases x with
  | error e => simp [bind, Except.bind]
  | ok a => simp [bind, Except.bind]

/-! ### Errors with a property -/

/-- The error of an outcome that is a failure has the property. -/
def FailsOnly (p : ε → Prop) (x : Except ε α) : Prop := ∀ e, x = .error e → p e

variable {p : ε → Prop}

theorem failsOnly_ok (a : α) : FailsOnly p (.ok a) := by
  intro e he
  cases he

theorem failsOnly_error {e : ε} (h : p e) : FailsOnly p (.error e : Except ε α) := by
  intro e' he
  cases he
  exact h

theorem failsOnly_ite {c : Prop} [Decidable c] {x y : Except ε α} (hx : FailsOnly p x)
    (hy : FailsOnly p y) : FailsOnly p (if c then x else y) := by
  split
  · exact hx
  · exact hy

theorem failsOnly_bind {x : Except ε α} {f : α → Except ε β} (hx : FailsOnly p x)
    (hf : ∀ a, FailsOnly p (f a)) : FailsOnly p (x >>= f) := by
  intro e he
  rcases except_bind_eq_error_iff.1 he with hfirst | ⟨a, -, hsecond⟩
  · exact hx e hfirst
  · exact hf a e hsecond

end NodeVolumes
