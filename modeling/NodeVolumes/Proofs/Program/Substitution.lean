import NodeVolumes.Proofs.Program.Path

/-! # Paths of programs whose calls are answered by programs

When every call of a program is replaced by a program that answers it, a path of the whole is a path of the
program with a path of the answering program in the place of every call.

* `Expands f t u`: the events `u` are the events `t` with every call carried out by the programs `f`.
* `path_substitute_iff`: the paths of a program whose calls are replaced.
* `Expands.hasSource`: every call that is made is made for one of the calls that are replaced.
* `World.expands_trace`: what happens in a world is expanded to what happens there with all calls replaced. -/

namespace NodeVolumes.Program

variable {Call Call' : Type} {Reply : Call → Type} {Reply' : Call' → Type} {Note α : Type}

/-- `Expands f t u`: the events `u` are the events `t` with every call carried out by `f`. -/
inductive Expands (f : (c : Call) → Program Call' Reply' Note (Reply c)) :
    List (Event Call Reply Note) → List (Event Call' Reply' Note) → Prop
  | nil : Expands f [] []
  | called {c : Call} {r : Reply c} {t : List (Event Call Reply Note)}
      {u v : List (Event Call' Reply' Note)} :
      (f c).Path u r → Expands f t v → Expands f (.called c r :: t) (u ++ v)
  | slept {ms : Nat} {cut : Bool} {t : List (Event Call Reply Note)}
      {u : List (Event Call' Reply' Note)} :
      Expands f t u → Expands f (.slept ms cut :: t) (.slept ms cut :: u)
  | polled {b : Bool} {t : List (Event Call Reply Note)} {u : List (Event Call' Reply' Note)} :
      Expands f t u → Expands f (.polled b :: t) (.polled b :: u)
  | told {n : Note} {t : List (Event Call Reply Note)} {u : List (Event Call' Reply' Note)} :
      Expands f t u → Expands f (.told n :: t) (.told n :: u)

variable {f : (c : Call) → Program Call' Reply' Note (Reply c)}

/-- A path of a program whose calls are replaced is an expanded path of the program. -/
theorem path_substitute_iff {p : Program Call Reply Note α} {u : List (Event Call' Reply' Note)} {a : α} :
    (p.substitute f).Path u a ↔ ∃ t, p.Path t a ∧ Expands f t u := by
  constructor
  · intro h
    induction p generalizing u with
    | done b =>
      obtain ⟨rfl, rfl⟩ := path_done_iff.1 h
      exact ⟨[], .done _, .nil⟩
    | call c next ih =>
      obtain ⟨v, w, r, rfl, hv, hw⟩ := path_bind_iff.1 h
      obtain ⟨t, ht, hexpands⟩ := ih r hw
      exact ⟨_, .call ht, .called hv hexpands⟩
    | sleep ms next ih =>
      obtain ⟨cut, v, rfl, hv⟩ := path_sleep_iff.1 h
      obtain ⟨t, ht, hexpands⟩ := ih cut hv
      exact ⟨_, .sleep ht, .slept hexpands⟩
    | poll next ih =>
      cases h with
      | poll h =>
        obtain ⟨t, ht, hexpands⟩ := ih _ h
        exact ⟨_, .poll ht, .polled hexpands⟩
    | note n next ih =>
      obtain ⟨v, rfl, hv⟩ := path_note_iff.1 h
      obtain ⟨t, ht, hexpands⟩ := ih hv
      exact ⟨_, .note ht, .told hexpands⟩
  · rintro ⟨t, ht, hexpands⟩
    induction ht generalizing u with
    | done b =>
      cases hexpands
      exact .done b
    | call _ ih =>
      cases hexpands with
      | called hcall hrest => exact hcall.bind (ih hrest)
    | sleep _ ih =>
      cases hexpands with
      | slept hrest => exact .sleep (ih hrest)
    | poll _ ih =>
      cases hexpands with
      | polled hrest => exact .poll (ih hrest)
    | note _ ih =>
      cases hexpands with
      | told hrest => exact .note (ih hrest)

namespace Expands

variable {t t' : List (Event Call Reply Note)} {u : List (Event Call' Reply' Note)}

theorem of_append (h : Expands f (t ++ t') u) : ∃ v w, u = v ++ w ∧ Expands f t v ∧ Expands f t' w := by
  induction t generalizing u with
  | nil => exact ⟨[], u, rfl, .nil, h⟩
  | cons e t ih =>
    cases h with
    | called hcall hrest =>
      obtain ⟨v, w, rfl, hv, hw⟩ := ih hrest
      exact ⟨_, w, (List.append_assoc ..).symm, .called hcall hv, hw⟩
    | slept hrest =>
      obtain ⟨v, w, rfl, hv, hw⟩ := ih hrest
      exact ⟨_ :: v, w, rfl, .slept hv, hw⟩
    | polled hrest =>
      obtain ⟨v, w, rfl, hv, hw⟩ := ih hrest
      exact ⟨_ :: v, w, rfl, .polled hv, hw⟩
    | told hrest =>
      obtain ⟨v, w, rfl, hv, hw⟩ := ih hrest
      exact ⟨_ :: v, w, rfl, .told hv, hw⟩

theorem path_of_mem (h : Expands f t u) {c : Call} {r : Reply c} (hmem : .called c r ∈ t) :
    ∃ x v y, u = x ++ (v ++ y) ∧ (f c).Path v r := by
  obtain ⟨t₁, t₂, rfl⟩ := List.append_of_mem hmem
  obtain ⟨x, w, rfl, -, hw⟩ := h.of_append
  cases hw with
  | called hcall _ => exact ⟨x, _, _, rfl, hcall⟩

end Expands

/-- A call in an expansion of the events `t`, between `pre` and `post`, is made for one of the calls in
`t`. -/
def HasSource (f : (c : Call) → Program Call' Reply' Note (Reply c)) (t : List (Event Call Reply Note))
    (pre : List (Event Call' Reply' Note)) (c' : Call') (r' : Reply' c')
    (post : List (Event Call' Reply' Note)) : Prop :=
  ∃ t₁ c r t₂ pre' u v post', t = t₁ ++ .called c r :: t₂ ∧ pre = pre' ++ u ∧ post = v ++ post' ∧
    Expands f t₁ pre' ∧ (f c).Path (u ++ .called c' r' :: v) r ∧ Expands f t₂ post'

section
variable {t : List (Event Call Reply Note)} {pre post : List (Event Call' Reply' Note)} {c' : Call'}
  {r' : Reply' c'}

theorem HasSource.cons {e : Event Call Reply Note} {x : List (Event Call' Reply' Note)}
    (h : HasSource f t pre c' r' post)
    (hstep : ∀ {t : List (Event Call Reply Note)} {y : List (Event Call' Reply' Note)},
      Expands f t y → Expands f (e :: t) (x ++ y)) :
    HasSource f (e :: t) (x ++ pre) c' r' post := by
  obtain ⟨t₁, c, r, t₂, pre', u, v, post', rfl, rfl, hpost, h₁, hcall, h₂⟩ := h
  exact ⟨e :: t₁, c, r, t₂, x ++ pre', u, v, post', rfl, by simp, hpost, hstep h₁, hcall, h₂⟩

/-- Every call of an expansion has a source. -/
theorem Expands.hasSource (h : Expands f t (pre ++ .called c' r' :: post)) :
    HasSource f t pre c' r' post := by
  generalize hw : pre ++ .called c' r' :: post = w at h
  induction h generalizing pre with
  | nil => simp at hw
  | @called c r t u v hcall hrest ih =>
    rcases append_eq_append_cons hw.symm with ⟨x, rfl, rfl⟩ | ⟨x, rfl, hv⟩
    · exact ⟨[], c, r, t, [], pre, x, v, rfl, rfl, rfl, .nil, hcall, hrest⟩
    · exact (ih hv.symm).cons fun ht => .called hcall ht
  | slept hrest ih =>
    cases pre with
    | nil => cases hw
    | cons e pre =>
      obtain ⟨rfl, hpre⟩ := List.cons.inj ((List.cons_append ..).symm.trans hw)
      exact HasSource.cons (x := [_]) (ih hpre) fun ht => .slept ht
  | polled hrest ih =>
    cases pre with
    | nil => cases hw
    | cons e pre =>
      obtain ⟨rfl, hpre⟩ := List.cons.inj ((List.cons_append ..).symm.trans hw)
      exact HasSource.cons (x := [_]) (ih hpre) fun ht => .polled ht
  | told hrest ih =>
    cases pre with
    | nil => cases hw
    | cons e pre =>
      obtain ⟨rfl, hpre⟩ := List.cons.inj ((List.cons_append ..).symm.trans hw)
      exact HasSource.cons (x := [_]) (ih hpre) fun ht => .told ht

end
end NodeVolumes.Program

namespace NodeVolumes.World

variable {Call Call' : Type} {Reply : Call → Type} {Reply' : Call' → Type} {Note σ α β : Type}

/-- The world where every call is carried out by a program. -/
def through (w : World Call' Reply' Note σ) (f : (c : Call) → Program Call' Reply' Note (Reply c)) :
    World Call Reply Note σ where
  answer c s := w.run (f c) s
  isCancelled := w.isCancelled
  pass := w.pass
  hear := w.hear

variable (w : World Call' Reply' Note σ) (f : (c : Call) → Program Call' Reply' Note (Reply c))

theorem trace_bind (p : Program Call' Reply' Note α) (g : α → Program Call' Reply' Note β) (s : σ) :
    w.trace (p >>= g) s = w.trace p s ++ w.trace (g (w.run p s).1) (w.run p s).2 := by
  induction p generalizing s with
  | done a => rfl
  | call c next ih => simp [trace, run, ih]
  | sleep ms next ih =>
    simp only [Program.sleep_bind, trace, run]
    split <;> simp [ih]
  | poll next ih => simp [trace, run, ih]
  | note n next ih => simp [trace, run, ih]

/-- What happens where calls are carried out by programs is expanded to what happens with the programs in their
place. -/
theorem expands_trace (p : Program Call Reply Note α) (s : σ) :
    Program.Expands f ((w.through f).trace p s) (w.trace (p.substitute f) s) := by
  induction p generalizing s with
  | done a => exact .nil
  | call c next ih =>
    unfold Program.substitute
    rw [trace_bind]
    exact .called (w.path_run (f c) s) (ih _ _)
  | sleep ms next ih =>
    cases hcut : w.isCancelled s with
    | true =>
      simp only [trace, Program.substitute, through, hcut]
      exact .slept (ih true s)
    | false =>
      simp only [trace, Program.substitute, through, hcut]
      exact .slept (ih false _)
  | poll next ih => exact .polled (ih _ _)
  | note n next ih => exact .told (ih _)

end NodeVolumes.World
