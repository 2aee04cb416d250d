import NodeVolumes.Proofs.Cluster.Separation

/-! # Two programs in one cluster

The calls of two programs reach a cluster in any order. When each program is about a volume of its own, it
goes as it would go by itself.

* `Memory.Interleaved faults m t u m'`: the events of two programs, mixed.
* `Interleaved.exists_plays`: the events for one volume would happen without those for the other one, too.
* `Memory.mix`: two programs by a schedule; `interleaved_mix` says that what happens is a mixture of what
  happens in each. -/

namespace NodeVolumes.Cluster.Memory

open Program.Event (calls forall_mem_calls_cons)

variable {faults : Call → Error → Prop} {m m' n n' : Memory} {t u : List Event}
  {ns ns' volume volume' : String}

/-! ### Mixed events -/

/-- `Interleaved faults m t u m'`: the events `t` and the events `u` take the cluster from `m` to `m'`, in
any order between them. -/
inductive Interleaved (faults : Call → Error → Prop) :
    Memory → List Event → List Event → Memory → Prop
  | done {m : Memory} : Interleaved faults m [] [] m
  | first {m m₁ m' : Memory} {e : Event} {t u : List Event} : Happens faults m e m₁ →
      Interleaved faults m₁ t u m' → Interleaved faults m (e :: t) u m'
  | second {m m₁ m' : Memory} {e : Event} {t u : List Event} : Happens faults m e m₁ →
      Interleaved faults m₁ t u m' → Interleaved faults m t (e :: u) m'

theorem Interleaved.swap (h : Interleaved faults m t u m') : Interleaved faults m u t m' := by
  induction h with
  | done => exact .done
  | first he _ ih => exact .second he ih
  | second he _ ih => exact .first he ih

/-- Of events with calls for two volumes, those for the first one go as they would go without the others. -/
theorem Interleaved.exists_plays (h : Interleaved faults n t u n')
    (ht : ∀ c ∈ calls t, c.IsFor ns volume) (hu : ∀ c ∈ calls u, c.IsFor ns' volume')
    (hne : volume ≠ volume') (hagree : Agree volume n m) :
    ∃ m', Plays faults m t m' ∧ Agree volume n' m' := by
  induction h generalizing m with
  | done => exact ⟨m, .done, hagree⟩
  | @first n n₁ n' e t u he _ ih =>
    obtain ⟨hfirst, hrest⟩ := forall_mem_calls_cons.1 ht
    obtain ⟨m₁, he', hagree'⟩ := he.of_agree hfirst hagree
    obtain ⟨m', ht', hagree''⟩ := ih hrest hu hagree'
    exact ⟨m', .next he' ht', hagree''⟩
  | @second n n₁ n' e t u he _ ih =>
    obtain ⟨hfirst, hrest⟩ := forall_mem_calls_cons.1 hu
    exact ih ht hrest ((he.agree_of_other hfirst hne).symm.trans hagree)

theorem Interleaved.namesReads {key : ObjectKey} (h : Interleaved faults m t u m') (hm : m.NamedAt key) :
    NamesReads key t := by
  induction h with
  | done => exact fun claim hclaim => by cases hclaim
  | first he _ ih =>
    obtain ⟨hfirst, hafter⟩ := he.namedAt hm
    exact hfirst.cons (ih hafter)
  | second he _ ih => exact ih (he.namedAt hm).2

/-! ### Schedules -/

section
variable {α β : Type}

/-- One step of a program: what happens, the rest of the program, and how long it waits from then on. -/
def step? : Engine α → Memory → Option Nat → Option (Event × Engine α × Memory × Option Nat)
  | .done _, _, _ => none
  | .call c next, m, patience =>
    some (.called c (m.answer c).1, next (m.answer c).1, (m.answer c).2, patience)
  | .sleep ms next, m, patience =>
    let cut := decide (patience = some 0)
    some (.slept ms cut, next cut, m, patience.map Nat.pred)
  | .poll next, m, patience =>
    let cancelled := decide (patience = some 0)
    some (.polled cancelled, next cancelled, m, patience)
  | .note n next, m, patience => some (.told n, next, m, patience)

/-- What happens in two programs, and the cluster after both. Each `true` of the schedule lets the first one
take a step, each `false` the second one; then they go on to their ends one after the other. -/
def mix : List Bool → Engine α → Option Nat → Engine β → Option Nat → Memory →
    List Event × List Event × Memory
  | [], p, k, q, l, m =>
    let between := (undisturbed.run p (m, k)).2.1
    (undisturbed.trace p (m, k), undisturbed.trace q (between, l),
      (undisturbed.run q (between, l)).2.1)
  | true :: schedule, p, k, q, l, m =>
    match step? p m k with
    | none => mix schedule p k q l m
    | some (e, p, m, k) =>
      let rest := mix schedule p k q l m
      (e :: rest.1, rest.2)
  | false :: schedule, p, k, q, l, m =>
    match step? q m l with
    | none => mix schedule p k q l m
    | some (e, q, m, l) =>
      let rest := mix schedule p k q l m
      (rest.1, e :: rest.2.1, rest.2.2)

theorem step?_eq_some {p rest : Engine α} {k l : Option Nat} {e : Event}
    (h : step? p m k = some (e, rest, m', l)) :
    Happens NoFaults m e m' ∧ (∀ t a, rest.Path t a → p.Path (e :: t) a) ∧
      ∀ t, Obeys l t → Obeys k (e :: t) := by
  cases p with
  | done a => cases h
  | call c next =>
    cases h
    exact ⟨.called .given, fun t a => .call, fun t => id⟩
  | sleep ms next =>
    cases h
    exact ⟨.silent rfl, fun t a => .sleep, fun t => .intro rfl⟩
  | poll next =>
    cases h
    exact ⟨.silent rfl, fun t a => .poll, fun t => .intro rfl⟩
  | note n next =>
    cases h
    exact ⟨.silent rfl, fun t a => .note, fun t => id⟩

theorem Plays.interleaved (h : Plays faults m t m') (h' : Plays faults m' u n) :
    Interleaved faults m t u n := by
  induction h with
  | done =>
    induction h' with
    | done => exact .done
    | next he _ ih => exact .second he ih
  | next he _ ih => exact .first he (ih h')

/-- Whatever the schedule, both programs run to their ends, and what happens is a mixture of what happens in
each. -/
theorem interleaved_mix (schedule : List Bool) (p : Engine α) (k : Option Nat) (q : Engine β)
    (l : Option Nat) (m : Memory) :
    ∃ a b, p.Path (mix schedule p k q l m).1 a ∧ Obeys k (mix schedule p k q l m).1 ∧
      q.Path (mix schedule p k q l m).2.1 b ∧ Obeys l (mix schedule p k q l m).2.1 ∧
      Interleaved NoFaults m (mix schedule p k q l m).1 (mix schedule p k q l m).2.1
        (mix schedule p k q l m).2.2 := by
  induction schedule generalizing p k q l m with
  | nil =>
    exact ⟨_, _, undisturbed.path_run p (m, k), obeys_undisturbed p m k,
      undisturbed.path_run q _, obeys_undisturbed q _ l,
      (plays_undisturbed p m k).interleaved (plays_undisturbed q _ l)⟩
  | cons turn schedule ih =>
    cases turn with
    | true =>
      unfold mix
      split
      case h_1 => exact ih p k q l m
      case h_2 e rest m₁ k₁ hstep =>
        obtain ⟨a, b, hp, hk, hq, hl, hrest⟩ := ih rest k₁ q l m₁
        obtain ⟨he, hbegins, hobeys⟩ := step?_eq_some hstep
        exact ⟨a, b, hbegins _ a hp, hobeys _ hk, hq, hl, .first he hrest⟩
    | false =>
      unfold mix
      split
      case h_1 => exact ih p k q l m
      case h_2 e rest m₁ l₁ hstep =>
        obtain ⟨a, b, hp, hk, hq, hl, hrest⟩ := ih p k rest l₁ m₁
        obtain ⟨he, hbegins, hobeys⟩ := step?_eq_some hstep
        exact ⟨a, b, hp, hk, hbegins _ b hq, hobeys _ hl, .second he hrest⟩

end

end NodeVolumes.Cluster.Memory
