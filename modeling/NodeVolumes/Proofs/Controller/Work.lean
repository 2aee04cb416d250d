import NodeVolumes.Controller.Reconcile
import NodeVolumes.Proofs.Program.Substitution

/-! # Paths of controller programs

The paths of programs that remember parked claims, step by step.

* `Work.Path w p t a q`: from the parked claims `p`, the events `t` may happen while `w` runs, and then its
  result is `a` and `q` are parked.
* `Work.path_bind_iff`: the second of two programs goes on from what the first has parked.
* `Respects R w`: parked claims that are related by `R` allow the same events, and stay related. -/

namespace NodeVolumes.Controller

/-- Something that happens while a controller program runs. -/
abbrev Event : Type := Program.Event Task Task.Reply Note

namespace Work

variable {α β : Type}

/-- `Path w p t a q`: from `p`, the events `t` may happen while `w` runs, with the result `a` and then `q`. -/
def Path (w : Work α) (p : Parked) (t : List Event) (a : α) (q : Parked) : Prop :=
  Program.Path (w.run p) t (a, q)

variable {p q : Parked} {t : List Event} {b : β}

/-! ### Programs in turn -/

theorem path_bind_iff {w : Work α} {f : α → Work β} :
    Path (w >>= f) p t b q ↔ ∃ u v a p', t = u ++ v ∧ Path w p u a p' ∧ Path (f a) p' v b q := by
  unfold Path
  rw [StateT.run_bind, Program.path_bind_iff]
  constructor
  · rintro ⟨u, v, ⟨a, p'⟩, rfl, hu, hv⟩
    exact ⟨u, v, a, p', rfl, hu, hv⟩
  · rintro ⟨u, v, a, p', rfl, hu, hv⟩
    exact ⟨u, v, (a, p'), rfl, hu, hv⟩

@[simp] theorem path_pure_iff {a b : α} : Path (pure a) p t b q ↔ t = [] ∧ b = a ∧ q = p := by
  unfold Path
  rw [StateT.run_pure]
  refine Program.path_done_iff.trans ?_
  rw [Prod.mk.injEq]

theorem path_lift_iff {m : Program Task Task.Reply Note α} {a : α} :
    Path (StateT.lift m) p t a q ↔ m.Path t a ∧ q = p := by
  unfold Path
  show Program.Path (m >>= fun a => Program.done (a, p)) t (a, q) ↔ _
  rw [Program.path_bind_iff]
  constructor
  · rintro ⟨u, v, a', rfl, hu, hv⟩
    obtain ⟨rfl, hresult⟩ := Program.path_done_iff.1 hv
    cases hresult
    rw [List.append_nil]
    exact ⟨hu, rfl⟩
  · rintro ⟨h, rfl⟩
    exact ⟨t, [], a, (List.append_nil t).symm, h, .done _⟩

/-! ### Single steps -/

@[simp] theorem path_ask_iff {k : Task} {r : k.Reply} : Path (ask k) p t r q ↔ t = [.called k r] ∧ q = p := by
  unfold ask Program.ask
  rw [path_lift_iff, Program.path_call_iff]
  constructor
  · rintro ⟨⟨r', u, rfl, h⟩, rfl⟩
    obtain ⟨rfl, rfl⟩ := Program.path_done_iff.1 h
    exact ⟨rfl, rfl⟩
  · rintro ⟨rfl, rfl⟩
    exact ⟨⟨r, [], rfl, .done r⟩, rfl⟩

@[simp] theorem path_log_iff {severity : Severity} {text : String} {a : Unit} :
    Path (log severity text) p t a q ↔ t = [.told (.log severity text)] ∧ q = p := by
  unfold log Program.tell
  rw [path_lift_iff, Program.path_note_iff]
  constructor
  · rintro ⟨⟨u, rfl, h⟩, rfl⟩
    obtain ⟨rfl, -⟩ := Program.path_done_iff.1 h
    exact ⟨rfl, rfl⟩
  · rintro ⟨rfl, rfl⟩
    exact ⟨⟨[], rfl, .done ()⟩, rfl⟩

@[simp] theorem path_modify_iff {g : Parked → Parked} {a : PUnit} :
    Path (modify g) p t a q ↔ t = [] ∧ q = g p := by
  refine Program.path_done_iff.trans ?_
  rw [Prod.mk.injEq]
  simp

/-! ### A step and what follows it -/

theorem path_ask_bind_iff {k : Task} {f : k.Reply → Work β} :
    Path (ask k >>= f) p t b q ↔ ∃ r u, t = .called k r :: u ∧ Path (f r) p u b q := by
  rw [path_bind_iff]
  constructor
  · rintro ⟨u, v, r, p', rfl, hu, hv⟩
    obtain ⟨rfl, rfl⟩ := path_ask_iff.1 hu
    exact ⟨r, v, rfl, hv⟩
  · rintro ⟨r, u, rfl, h⟩
    exact ⟨[.called k r], u, r, p, rfl, path_ask_iff.2 ⟨rfl, rfl⟩, h⟩

theorem path_log_bind_iff {severity : Severity} {text : String} {f : Unit → Work β} :
    Path (log severity text >>= f) p t b q ↔
      ∃ u, t = .told (.log severity text) :: u ∧ Path (f ()) p u b q := by
  rw [path_bind_iff]
  constructor
  · rintro ⟨u, v, r, p', rfl, hu, hv⟩
    obtain ⟨rfl, rfl⟩ := path_log_iff.1 hu
    exact ⟨v, rfl, hv⟩
  · rintro ⟨u, rfl, h⟩
    exact ⟨[.told (.log severity text)], u, (), p, rfl, path_log_iff.2 ⟨rfl, rfl⟩, h⟩

theorem path_modify_bind_iff {g : Parked → Parked} {f : PUnit → Work β} :
    Path (modify g >>= f) p t b q ↔ Path (f ()) (g p) t b q := by
  rw [path_bind_iff]
  constructor
  · rintro ⟨u, v, r, p', rfl, hu, hv⟩
    obtain ⟨rfl, rfl⟩ := path_modify_iff.1 hu
    exact hv
  · intro h
    exact ⟨[], t, (), g p, rfl, path_modify_iff.2 ⟨rfl, rfl⟩, h⟩

theorem path_get_bind_iff {f : Parked → Work β} : Path (get >>= f) p t b q ↔ Path (f p) p t b q := by
  rw [path_bind_iff]
  constructor
  · rintro ⟨u, v, s, p', rfl, hu, hv⟩
    obtain ⟨rfl, hs⟩ := Program.path_done_iff.1 hu
    cases hs
    exact hv
  · intro h
    exact ⟨[], t, p, p, rfl, .done _, h⟩

theorem path_isCancelled_bind_iff {f : Bool → Work β} :
    Path (isCancelled >>= f) p t b q ↔ ∃ c u, t = .polled c :: u ∧ Path (f c) p u b q := by
  rw [path_bind_iff]
  constructor
  · rintro ⟨u, v, c, p', rfl, hu, hv⟩
    obtain ⟨hc, rfl⟩ := path_lift_iff.1 hu
    cases hc with
    | poll hc =>
      obtain ⟨rfl, rfl⟩ := Program.path_done_iff.1 hc
      exact ⟨c, v, rfl, hv⟩
  · rintro ⟨c, u, rfl, h⟩
    exact ⟨[.polled c], u, c, p, rfl, path_lift_iff.2 ⟨.poll (.done c), rfl⟩, h⟩

theorem path_wait_bind_iff {ms : Nat} {f : Bool → Work β} :
    Path (wait ms >>= f) p t b q ↔ ∃ cut u, t = .slept ms cut :: u ∧ Path (f cut) p u b q := by
  rw [path_bind_iff]
  constructor
  · rintro ⟨u, v, c, p', rfl, hu, hv⟩
    obtain ⟨hc, rfl⟩ := path_lift_iff.1 hu
    obtain ⟨cut, w, rfl, hw⟩ := Program.path_sleep_iff.1 hc
    obtain ⟨rfl, rfl⟩ := Program.path_done_iff.1 hw
    exact ⟨c, v, rfl, hv⟩
  · rintro ⟨cut, u, rfl, h⟩
    exact ⟨[.slept ms cut], u, cut, p, rfl, path_lift_iff.2 ⟨.sleep (.done cut), rfl⟩, h⟩

/-! ### What is parked by the way -/

/-- Related parked claims allow the same events and results, and stay related. -/
def Respects (R : Parked → Parked → Prop) (w : Work α) : Prop :=
  ∀ p q, R p q → ∀ t a p', Path w p t a p' → ∃ q', Path w q t a q' ∧ R p' q'

section
variable {R : Parked → Parked → Prop}

theorem respects_pure (a : α) : Respects R (pure a) := by
  intro p q hR t b p' h
  obtain ⟨rfl, rfl, rfl⟩ := path_pure_iff.1 h
  exact ⟨q, path_pure_iff.2 ⟨rfl, rfl, rfl⟩, hR⟩

theorem respects_lift (m : Program Task Task.Reply Note α) : Respects R (StateT.lift m) := by
  intro p q hR t b p' h
  obtain ⟨hm, rfl⟩ := path_lift_iff.1 h
  exact ⟨q, path_lift_iff.2 ⟨hm, rfl⟩, hR⟩

theorem respects_modify {g : Parked → Parked} (hg : ∀ p q, R p q → R (g p) (g q)) :
    Respects R (modify g : Work PUnit) := by
  intro p q hR t b p' h
  obtain ⟨rfl, rfl⟩ := path_modify_iff.1 h
  exact ⟨g q, path_modify_iff.2 ⟨rfl, rfl⟩, hg p q hR⟩

theorem respects_bind {w : Work α} {f : α → Work β} (hw : Respects R w) (hf : ∀ a, Respects R (f a)) :
    Respects R (w >>= f) := by
  intro p q hR t b p' h
  obtain ⟨u, v, a, p₁, rfl, hu, hv⟩ := path_bind_iff.1 h
  obtain ⟨q₁, hu', hR₁⟩ := hw p q hR u a p₁ hu
  obtain ⟨q', hv', hR'⟩ := hf a p₁ q₁ hR₁ v b p' hv
  exact ⟨q', path_bind_iff.2 ⟨u, v, a, q₁, rfl, hu', hv'⟩, hR'⟩

/-- A program may look at what is parked as long as it does the same for related parked claims. -/
theorem respects_get_bind {f : Parked → Work β} (hf : ∀ p, Respects R (f p))
    (hsame : ∀ p q, R p q → f p = f q) : Respects R (get >>= f) := by
  intro p q hR t b p' h
  obtain ⟨q', h', hR'⟩ := hf p p q hR t b p' (path_get_bind_iff.1 h)
  rw [hsame p q hR] at h'
  exact ⟨q', path_get_bind_iff.2 h', hR'⟩

end

end Work
end NodeVolumes.Controller
