import NodeVolumes.Proofs.Cluster.Run

/-! # Events on a cluster in memory, one at a time

A run leaves room for changes between the calls. Where two clusters are followed side by side, there is no
such room: nothing happens to a cluster but the events.

* `Memory.Happens faults m e m'`: one event takes the cluster from `m` to `m'`.
* `Memory.Plays faults m t m'`: the events of a list in turn.
* `Memory.callWorld`: the world of one program, which may be cancelled after some waits.
* `Plays.eq_undisturbed`: without failing calls, a program can only go as it goes in this world. -/

namespace NodeVolumes.Cluster.Memory

open Program.Event (calls)

/-- One event takes a cluster from one state to another. -/
inductive Happens (faults : Call → Error → Prop) (m : Memory) : Event → Memory → Prop
  | called {c : Call} {r : Reply c} {m' : Memory} : m.Answers faults c r m' →
      Happens faults m (.called c r) m'
  | silent {e : Event} : e.call? = none → Happens faults m e m

/-- `Plays faults m t m'`: the events `t`, and nothing else, take the cluster from `m` to `m'`. -/
inductive Plays (faults : Call → Error → Prop) : Memory → List Event → Memory → Prop
  | done {m : Memory} : Plays faults m [] m
  | next {m m₁ m' : Memory} {e : Event} {t : List Event} : Happens faults m e m₁ →
      Plays faults m₁ t m' → Plays faults m (e :: t) m'

/-- No call fails on its way. -/
def NoFaults : Call → Error → Prop := fun _ _ => False

variable {faults : Call → Error → Prop} {m m' m'' : Memory} {t u : List Event}

theorem Happens.answers {c : Call} {r : Reply c} (h : Happens faults m (.called c r) m') :
    m.Answers faults c r m' := by
  cases h with
  | called hanswer => exact hanswer
  | silent he => cases he

theorem Happens.eq_of_silent {e : Event} (h : Happens faults m e m') (he : e.call? = none) :
    m' = m := by
  cases h with
  | called _ => cases he
  | silent _ => rfl

theorem Answers.eq_answer {c : Call} {r : Reply c} (h : m.Answers NoFaults c r m') :
    r = (m.answer c).1 ∧ m' = (m.answer c).2 := by
  cases h with
  | given => exact ⟨rfl, rfl⟩
  | failed he => exact he.elim

theorem Plays.append (h : Plays faults m t m') (h' : Plays faults m' u m'') :
    Plays faults m (t ++ u) m'' := by
  induction h with
  | done => exact h'
  | next he _ ih => exact .next he (ih h')

theorem Plays.of_append (h : Plays faults m (t ++ u) m'') :
    ∃ m', Plays faults m t m' ∧ Plays faults m' u m'' := by
  induction t generalizing m with
  | nil => exact ⟨m, .done, h⟩
  | cons e t ih =>
    cases h with
    | next he hrest =>
      obtain ⟨m', ht, hu⟩ := ih hrest
      exact ⟨m', .next he ht, hu⟩

theorem Plays.mono {faults' : Call → Error → Prop} (h : Plays faults m t m')
    (hsub : ∀ c e, faults c e → faults' c e) : Plays faults' m t m' := by
  induction h with
  | done => exact .done
  | next he _ ih =>
    refine .next ?_ ih
    cases he with
    | called hanswer =>
      cases hanswer with
      | given => exact .called .given
      | failed hfault => exact .called (.failed (hsub _ _ hfault))
    | silent hsilent => exact .silent hsilent

theorem Plays.run (h : Plays faults m t m') : Run faults m t m' := by
  induction h with
  | done => exact .done (.refl _)
  | next he _ ih =>
    cases he with
    | called hanswer => exact .called (.refl _) hanswer ih
    | silent he => exact .silent he ih

theorem Plays.exists_answer {c : Call} {r : Reply c} (h : Plays NoFaults m t m')
    (hmem : .called c r ∈ t) : ∃ n : Memory, r = (n.answer c).1 := by
  obtain ⟨u, v, rfl⟩ := List.append_of_mem hmem
  obtain ⟨m₁, -, hrest⟩ := h.of_append
  cases hrest with
  | next he _ => exact ⟨m₁, he.answers.eq_answer.1⟩

theorem Plays.eq_of_calls (h : Plays faults m t m') (ht : calls t = []) : m' = m := by
  have hsilent : ∀ e ∈ t, e.call? = none := List.filterMap_eq_nil_iff.1 ht
  clear ht
  induction h with
  | done => rfl
  | next he _ ih =>
    rw [List.forall_mem_cons] at hsilent
    rw [ih hsilent.2, he.eq_of_silent hsilent.1]

theorem Plays.answers {c : Call} {r : Reply c} (h : Plays faults m [.called c r] m') :
    m.Answers faults c r m' := by
  cases h with
  | next he hrest =>
    cases hrest with
    | done => exact he.answers

/-! ### What calls leave alone -/

/-- Two clusters have the same objects that calls only read, and the same is scripted for them. -/
structure SameSetup (m m' : Memory) : Prop where
  storageClasses : m'.storageClasses = m.storageClasses
  nodes : m'.nodes = m.nodes
  devices : m'.devices = m.devices
  defaultOutcome : m'.defaultOutcome = m.defaultOutcome
  outcomes : m'.outcomes = m.outcomes
  bindings : m'.bindings = m.bindings
  failPodDeletes : m'.failPodDeletes = m.failPodDeletes

theorem SameSetup.refl (m : Memory) : m.SameSetup m := ⟨rfl, rfl, rfl, rfl, rfl, rfl, rfl⟩

theorem SameSetup.trans (h : m.SameSetup m') (h' : m'.SameSetup m'') : m.SameSetup m'' where
  storageClasses := h'.storageClasses.trans h.storageClasses
  nodes := h'.nodes.trans h.nodes
  devices := h'.devices.trans h.devices
  defaultOutcome := h'.defaultOutcome.trans h.defaultOutcome
  outcomes := h'.outcomes.trans h.outcomes
  bindings := h'.bindings.trans h.bindings
  failPodDeletes := h'.failPodDeletes.trans h.failPodDeletes

theorem SameSetup.symm (h : m.SameSetup m') : m'.SameSetup m where
  storageClasses := h.storageClasses.symm
  nodes := h.nodes.symm
  devices := h.devices.symm
  defaultOutcome := h.defaultOutcome.symm
  outcomes := h.outcomes.symm
  bindings := h.bindings.symm
  failPodDeletes := h.failPodDeletes.symm

theorem sameSetup_answer (c : Call) (m : Memory) : m.SameSetup (m.answer c).2 := by
  cases c with
  | createPod ns pod =>
    unfold answer createPod
    dsimp only
    split <;> exact ⟨rfl, rfl, rfl, rfl, rfl, rfl, rfl⟩
  | deletePod ns name =>
    unfold answer deletePod
    dsimp only
    split
    · exact .refl m
    · split <;> exact ⟨rfl, rfl, rfl, rfl, rfl, rfl, rfl⟩
  | getClaim ns name =>
    unfold answer getClaim
    dsimp only
    split <;> exact ⟨rfl, rfl, rfl, rfl, rfl, rfl, rfl⟩
  | createClaim ns claim =>
    unfold answer createClaim
    dsimp only
    split <;> exact ⟨rfl, rfl, rfl, rfl, rfl, rfl, rfl⟩
  | replaceClaim ns claim =>
    unfold answer replaceClaim
    dsimp only
    split <;> exact ⟨rfl, rfl, rfl, rfl, rfl, rfl, rfl⟩
  | deleteClaim ns name =>
    unfold answer deleteClaim
    dsimp only
    split <;> exact ⟨rfl, rfl, rfl, rfl, rfl, rfl, rfl⟩
  | _ => exact .refl m

theorem Happens.sameSetup {e : Event} (h : Happens faults m e m') : m.SameSetup m' := by
  cases h with
  | called hanswer =>
    cases hanswer with
    | given => exact sameSetup_answer _ m
    | failed _ => exact .refl m
  | silent _ => exact .refl m

theorem Plays.sameSetup (h : Plays faults m t m') : m.SameSetup m' := by
  induction h with
  | done => exact .refl _
  | next he _ ih => exact he.sameSetup.trans ih

/-! ### One program in a cluster -/

/-- The reply to a call that may fail on its way, and the cluster after it. -/
def answerUnless (fault : Call → Option Error) (c : Call) (m : Memory) : Reply c × Memory :=
  match fault c with
  | some e => (.error e, m)
  | none => m.answer c

theorem answers_answerUnless (fault : Call → Option Error) (c : Call) (m : Memory) :
    m.Answers (fun c e => fault c = some e) c (m.answerUnless fault c).1
      (m.answerUnless fault c).2 := by
  unfold answerUnless
  cases hfault : fault c with
  | some e => exact .failed hfault
  | none => exact .given

/-- A cluster in memory as the world of one program. Some calls fail on their way to it, and the program is
cancelled after a number of waits, or never. -/
def callWorld (fault : Call → Option Error) : World Call Reply Note (Memory × Option Nat) where
  answer c s := ((s.1.answerUnless fault c).1, (s.1.answerUnless fault c).2, s.2)
  isCancelled s := s.2 = some 0
  pass _ s := (s.1, s.2.map Nat.pred)
  hear _ s := s

/-- The world in which no call fails. -/
def undisturbed : World Call Reply Note (Memory × Option Nat) := callWorld fun _ => none

/-- The waits among events that pass are as many as it takes to be cancelled, and later ones are cut. -/
def Obeys : Option Nat → List Event → Prop
  | _, [] => True
  | patience, .slept _ cut :: t => cut = decide (patience = some 0) ∧ Obeys (patience.map Nat.pred) t
  | patience, .polled b :: t => b = decide (patience = some 0) ∧ Obeys patience t
  | patience, .called .. :: t | patience, .told _ :: t => Obeys patience t

variable {α : Type} {p : Engine α} {patience : Option Nat}

theorem plays_callWorld (fault : Call → Option Error) (p : Engine α) (m : Memory)
    (patience : Option Nat) :
    Plays (fun c e => fault c = some e) m ((callWorld fault).trace p (m, patience))
      ((callWorld fault).run p (m, patience)).2.1 := by
  induction p generalizing m patience with
  | done a => exact .done
  | call c next ih => exact .next (.called (answers_answerUnless fault c m)) (ih _ _ _)
  | sleep ms next ih =>
    simp only [World.trace, World.run]
    split
    · exact .next (.silent rfl) (ih _ _ _)
    · exact .next (.silent rfl) (ih _ _ _)
  | poll next ih => exact .next (.silent rfl) (ih _ _ _)
  | note n next ih => exact .next (.silent rfl) (ih _ _)

theorem plays_undisturbed (p : Engine α) (m : Memory) (patience : Option Nat) :
    Plays NoFaults m (undisturbed.trace p (m, patience)) (undisturbed.run p (m, patience)).2.1 := by
  have h := plays_callWorld (fun _ => none) p m patience
  simp only [reduceCtorEq] at h
  exact h

theorem obeys_undisturbed (p : Engine α) (m : Memory) (patience : Option Nat) :
    Obeys patience (undisturbed.trace p (m, patience)) := by
  induction p generalizing m patience with
  | done a => trivial
  | call c next ih => exact ih _ _ _
  | sleep ms next ih =>
    by_cases hcut : patience = some 0
    · subst hcut
      exact ⟨rfl, ih _ _ _⟩
    · have htrace : undisturbed.trace (.sleep ms next) (m, patience) =
          .slept ms false :: undisturbed.trace (next false) (m, patience.map Nat.pred) := by
        simp [World.trace, undisturbed, callWorld, hcut]
      rw [htrace]
      exact ⟨by simp [hcut], ih _ _ _⟩
  | poll next ih => exact ⟨rfl, ih _ _ _⟩
  | note n next ih => exact ih _ _

/-- Without failing calls a program can only go in one way: as it goes in its own world. -/
theorem Plays.eq_undisturbed {a : α} (h : Plays NoFaults m t m') (hpath : p.Path t a)
    (hwaits : Obeys patience t) :
    t = undisturbed.trace p (m, patience) ∧ a = (undisturbed.run p (m, patience)).1 ∧
      m' = (undisturbed.run p (m, patience)).2.1 := by
  induction hpath generalizing m patience with
  | done a =>
    cases h with
    | done => exact ⟨rfl, rfl, rfl⟩
  | @call c next r t a _ ih =>
    cases h with
    | next he hrest =>
      obtain ⟨rfl, rfl⟩ := he.answers.eq_answer
      obtain ⟨ht, ha, hm⟩ := ih hrest hwaits
      exact ⟨congrArg _ ht, ha, hm⟩
  | @sleep ms next cut t a _ ih =>
    cases h with
    | next he hrest =>
      obtain rfl := he.eq_of_silent rfl
      obtain ⟨hcut, hwaits⟩ := hwaits
      obtain ⟨ht, ha, hm⟩ := ih hrest hwaits
      simp only [undisturbed, World.trace, World.run, callWorld] at ht ha hm ⊢
      by_cases hzero : patience = some 0
      · subst hzero
        obtain rfl : cut = true := hcut
        exact ⟨congrArg _ ht, ha, hm⟩
      · obtain rfl : cut = false := by simpa [hzero] using hcut
        simp only [hzero, decide_false, Bool.false_eq_true, if_false]
        exact ⟨congrArg _ ht, ha, hm⟩
  | poll _ ih =>
    cases h with
    | next he hrest =>
      obtain rfl := he.eq_of_silent rfl
      obtain ⟨rfl, hwaits⟩ := hwaits
      obtain ⟨ht, ha, hm⟩ := ih hrest hwaits
      exact ⟨congrArg _ ht, ha, hm⟩
  | note _ ih =>
    cases h with
    | next he hrest =>
      obtain rfl := he.eq_of_silent rfl
      obtain ⟨ht, ha, hm⟩ := ih hrest hwaits
      exact ⟨congrArg _ ht, ha, hm⟩

end NodeVolumes.Cluster.Memory
