import Mathlib.Data.List.FinRange
import NodeVolumes.Proofs.Cluster.Interleaving

/-! # Any number of programs in one cluster

Programs take steps as a schedule has it, and other parties make calls in between. Nothing is assumed of the
schedule, so what holds for all schedules holds however the steps fall.

* `History`: what happens, with the program that is behind each event.
* `Memory.weave`: the programs by a schedule, and then to their ends.
* `follows_weave`: each program comes to its end by its own events, and all events in turn are what happens to
  the cluster. -/

namespace NodeVolumes.Cluster

open Program.Event (calls)

/-- Events in the order in which they happen. Each has the number of the program that is behind it, or none if
it is another party. -/
abbrev History (n : Nat) : Type := List (Option (Fin n) × Event)

namespace History

variable {n : Nat} {party party' : Option (Fin n)}

/-- The events of a history. -/
def events (h : History n) : List Event := h.map (·.2)

/-- The events that one party is behind. -/
def eventsOf (party : Option (Fin n)) (h : History n) : List Event := (h.filter (·.1 = party)).map (·.2)

theorem eventsOf_append (g h : History n) :
    eventsOf party (g ++ h) = eventsOf party g ++ eventsOf party h := by
  unfold eventsOf
  rw [List.filter_append, List.map_append]

theorem eventsOf_cons_self (e : Event) (h : History n) :
    eventsOf party ((party, e) :: h) = e :: eventsOf party h := by
  simp [eventsOf]

theorem eventsOf_cons_of_ne (hne : party' ≠ party) (e : Event) (h : History n) :
    eventsOf party ((party', e) :: h) = eventsOf party h := by
  simp [eventsOf, hne]

theorem eventsOf_map_self (t : List Event) : eventsOf party (t.map fun e => (party, e)) = t := by
  induction t with
  | nil => rfl
  | cons e t ih => rw [List.map_cons, eventsOf_cons_self, ih]

theorem eventsOf_map_of_ne (hne : party' ≠ party) (t : List Event) :
    eventsOf party (t.map fun e => (party', e)) = [] := by
  induction t with
  | nil => rfl
  | cons e t ih => rw [List.map_cons, eventsOf_cons_of_ne hne, ih]

theorem events_map (t : List Event) : events (t.map fun e => (party, e)) = t := by
  unfold events
  rw [List.map_map]
  exact List.map_id t

theorem mem_events {e : Event} {h : History n} : e ∈ events h ↔ ∃ party, (party, e) ∈ h := by
  simp [events]

theorem mem_eventsOf {e : Event} {h : History n} : e ∈ eventsOf party h ↔ (party, e) ∈ h := by
  simp [eventsOf]

end History

namespace Memory

variable {n : Nat} {α : Type}

/-- What comes of programs that run at once: what happens, their results, and the cluster after them. -/
structure Woven (n : Nat) (α : Type) where
  history : History n
  results : Fin n → α
  after : Memory

/-- Lets the programs with some numbers go on to their ends, one after the other. -/
def finish : List (Fin n) → (Fin n → Engine α) → Memory → Woven n α
  | [], programs, m => ⟨[], fun i => (undisturbed.run (programs i) (m, none)).1, m⟩
  | i :: rest, programs, m =>
    let ran := undisturbed.run (programs i) (m, none)
    let woven := finish rest (Function.update programs i (.done ran.1)) ran.2.1
    { woven with
      history := (undisturbed.trace (programs i) (m, none)).map (fun e => (some i, e)) ++ woven.history }

/-- Runs programs at once, without cutting a wait short. Each turn of the schedule lets a program take a step,
or another party make a call; then the programs go on to their ends. -/
def weave : List (Fin n ⊕ Call) → (Fin n → Engine α) → Memory → Woven n α
  | [], programs, m => finish (List.finRange n) programs m
  | .inl i :: schedule, programs, m =>
    match step? (programs i) m none with
    | none => weave schedule programs m
    | some (e, p, m, _) =>
      let woven := weave schedule (Function.update programs i p) m
      { woven with history := (some i, e) :: woven.history }
  | .inr c :: schedule, programs, m =>
    let woven := weave schedule programs (m.answer c).2
    { woven with history := (none, .called c (m.answer c).1) :: woven.history }

variable {schedule : List (Fin n ⊕ Call)} {programs : Fin n → Engine α} {m : Memory} {woven : Woven n α}
  {i : Fin n} {p : Engine α}

/-- The programs come to their ends by their own events, the other parties make the calls of the schedule, and
all events in turn are what happens to the cluster. -/
structure Follows (schedule : List (Fin n ⊕ Call)) (programs : Fin n → Engine α) (m : Memory)
    (woven : Woven n α) : Prop where
  paths : ∀ i, (programs i).Path (woven.history.eventsOf (some i)) (woven.results i)
  others : calls (woven.history.eventsOf none) = schedule.filterMap Sum.getRight?
  plays : Plays NoFaults m woven.history.events woven.after

theorem Follows.mem_schedule {e : Event} {c : Call} (h : Follows schedule programs m woven)
    (he : (none, e) ∈ woven.history) (hcall : e.call? = some c) : .inr c ∈ schedule := by
  have hmem : c ∈ calls (woven.history.eventsOf none) :=
    List.mem_filterMap.2 ⟨e, History.mem_eventsOf.2 he, hcall⟩
  rw [h.others] at hmem
  obtain ⟨turn, hturn, hright⟩ := List.mem_filterMap.1 hmem
  rw [← Sum.getRight?_eq_some_iff.1 hright]
  exact hturn

theorem Follows.before {t : List Event} {m₁ : Memory}
    (h : Follows schedule (Function.update programs i p) m₁ woven)
    (hplays : Plays NoFaults m t m₁) (hpath : ∀ u a, p.Path u a → (programs i).Path (t ++ u) a) :
    Follows schedule programs m
      { woven with history := t.map (fun e => (some i, e)) ++ woven.history } where
  paths := by
    intro j
    have hrest := h.paths j
    rw [History.eventsOf_append]
    by_cases hij : j = i
    · subst hij
      rw [Function.update_self] at hrest
      rw [History.eventsOf_map_self]
      exact hpath _ _ hrest
    · rw [Function.update_of_ne hij] at hrest
      rw [History.eventsOf_map_of_ne fun hsome => hij (Option.some.inj hsome).symm]
      exact hrest
  others := by
    rw [History.eventsOf_append, History.eventsOf_map_of_ne (Option.some_ne_none i)]
    exact h.others
  plays := by
    unfold History.events
    rw [List.map_append]
    refine Plays.append ?_ h.plays
    rw [← History.events, History.events_map]
    exact hplays

theorem Follows.called {c : Call} (h : Follows schedule programs (m.answer c).2 woven) :
    Follows (.inr c :: schedule) programs m
      { woven with history := (none, .called c (m.answer c).1) :: woven.history } where
  paths := by
    intro i
    rw [History.eventsOf_cons_of_ne (Option.some_ne_none i).symm]
    exact h.paths i
  others := by
    rw [History.eventsOf_cons_self]
    exact congrArg (c :: ·) h.others
  plays := .next (.called .given) h.plays

/-- Once the programs that are not to go on have ended, the others come to their ends, too. -/
theorem follows_finish (rest : List (Fin n)) (h : ∀ i ∉ rest, ∃ a, programs i = .done a) :
    Follows [] programs m (finish rest programs m) := by
  induction rest generalizing programs m with
  | nil =>
    refine ⟨fun i => ?_, rfl, .done⟩
    obtain ⟨a, ha⟩ := h i List.not_mem_nil
    unfold finish
    dsimp only
    rw [ha]
    exact .done a
  | cons i rest ih =>
    refine Follows.before (ih fun j hj => ?_) (plays_undisturbed (programs i) m none) fun u a hu => ?_
    · by_cases hij : j = i
      · exact ⟨_, by rw [hij, Function.update_self]⟩
      · rw [Function.update_of_ne hij]
        exact h j fun hmem => (List.mem_cons.1 hmem).elim hij hj
    · obtain ⟨rfl, rfl⟩ := Program.path_done_iff.1 hu
      rw [List.append_nil]
      exact undisturbed.path_run (programs i) (m, none)

/-- A schedule is followed, whatever it is. -/
theorem follows_weave (schedule : List (Fin n ⊕ Call)) (programs : Fin n → Engine α) (m : Memory) :
    Follows schedule programs m (weave schedule programs m) := by
  induction schedule generalizing programs m with
  | nil => exact follows_finish _ fun i hi => absurd (List.mem_finRange i) hi
  | cons turn schedule ih =>
    cases turn with
    | inl i =>
      unfold weave
      split
      case h_1 => exact ⟨(ih programs m).paths, (ih programs m).others, (ih programs m).plays⟩
      case h_2 e p m₁ _ hstep =>
        obtain ⟨he, hbegins, -⟩ := step?_eq_some hstep
        obtain ⟨hpaths, hothers, hplays⟩ :=
          Follows.before (t := [e]) (ih (Function.update programs i p) m₁) (.next he .done) hbegins
        exact ⟨hpaths, hothers, hplays⟩
    | inr c => exact (ih programs (m.answer c).2).called

end Memory
end NodeVolumes.Cluster
