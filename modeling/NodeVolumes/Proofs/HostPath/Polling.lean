import NodeVolumes.Proofs.Engine
import NodeVolumes.Proofs.Program.Time

/-! # How a helper pod is watched

A helper pod is looked at again and again, with a wait after each look that finds it unfinished. The first look
that finds the pod ended, or fails, or whose wait a cancellation falls into, decides the outcome of the run.

* `Watch`: the answers that a run gets, how long everything takes, and when it is cancelled.
* `Watch.Ends`: what ends a run at a look, and the outcome.
* `awaitPod_in_time`: the run goes on to the first look that ends it, or makes all looks that it may.
* `runHelper_in_time`: the same of a whole run, for a pod that has been created or taken over. -/

namespace NodeVolumes

open Cluster (Call Event Reply)
open Program.Event (calls)
open Attempt (Path)

namespace HostPath

/-! ### Unfinished and failed pods -/

/-- A pod without a status, or in a phase that is not a last one. -/
def Unfinished (pod : Pod) : Prop :=
  ∀ phase, pod.status.bind (·.phase) = some phase → phase ≠ "Succeeded" ∧ phase ≠ "Failed"

/-- Why a pod failed: its message, else its reason. -/
def failureText (pod : Pod) : String :=
  match pod.status with
  | some { message := some text, .. } => text
  | some { message := none, reason := some text, .. } => text
  | _ => "pod failed"

theorem podOutcome?_of_succeeded {pod : Pod} (h : pod.status.bind (·.phase) = some "Succeeded") :
    podOutcome? pod = some (.ok ()) := by
  unfold podOutcome?
  rw [h]
  rfl

theorem podOutcome?_of_failed {pod : Pod} (h : pod.status.bind (·.phase) = some "Failed") :
    podOutcome? pod = some (.error (failureText pod)) := by
  unfold podOutcome?
  rw [h]
  cases hstatus : pod.status with
  | none =>
    rw [hstatus] at h
    cases h
  | some status =>
    obtain ⟨phase, message, reason, further⟩ := status
    unfold failureText
    rw [hstatus]
    cases message with
    | some text => rfl
    | none => cases reason <;> rfl

theorem podOutcome?_of_unfinished {pod : Pod} (h : Unfinished pod) : podOutcome? pod = none := by
  unfold podOutcome?
  split
  case h_1 hphase => exact absurd rfl (h _ hphase).1
  case h_2 hphase => exact absurd rfl (h _ hphase).2
  case h_3 => rfl

theorem phase_cases (pod : Pod) : pod.status.bind (·.phase) = some "Succeeded" ∨
    pod.status.bind (·.phase) = some "Failed" ∨ Unfinished pod := by
  by_cases hsucceeded : pod.status.bind (·.phase) = some "Succeeded"
  · exact .inl hsucceeded
  by_cases hfailed : pod.status.bind (·.phase) = some "Failed"
  · exact .inr (.inl hfailed)
  refine .inr (.inr fun phase hphase => ⟨?_, ?_⟩)
  · rintro rfl
    exact hsucceeded hphase
  · rintro rfl
    exact hfailed hphase

/-! ### Watches -/

/-- What a run of a helper pod meets: the answers to its looks in turn and to its other calls, the time that
calls and waits take, and the time at which it is cancelled, if ever. -/
structure Watch where
  looks : Nat → Except Error Pod
  others : (c : Call) → Reply c
  /-- How long a call takes when so many looks have been made before it. -/
  takes : Call → Nat → Nat
  lasts : Nat → Nat
  fires : Option Nat

namespace Watch

/-- The world of a watch; its state is the number of looks that have been made. -/
def world (w : Watch) : TimedWorld Call Reply Nat where
  answer
    | .getPod .., looks => (w.looks looks, looks + 1)
    | c, looks => (w.others c, looks)
  takes := w.takes
  lasts := w.lasts
  fires := w.fires

/-- When a look is made at a pod, counted from zero, if no look before it ends the run. -/
def lookAt (w : Watch) (settings : Settings) (name : String) (start : Nat) : Nat → Nat
  | 0 => start
  | i + 1 =>
    w.lookAt settings name start i + w.takes (.getPod settings.ns name) i + w.lasts settings.helperPollMs

/-- What ends a run at a look, and the outcome of the run. The wait after a look is over when the next look would
be made. -/
inductive Ends (w : Watch) (settings : Settings) (name : String) (start i : Nat) : Except Error Unit → Prop
  | succeeded {pod : Pod} : w.looks i = .ok pod → pod.status.bind (·.phase) = some "Succeeded" →
      Ends w settings name start i (.ok ())
  | failed {pod : Pod} : w.looks i = .ok pod → pod.status.bind (·.phase) = some "Failed" →
      Ends w settings name start i (.error (.helperFailed name (failureText pod)))
  | refused {e : Error} : w.looks i = .error e → Ends w settings name start i (.error e)
  | cancelled {pod : Pod} : w.looks i = .ok pod → Unfinished pod →
      (∃ fired, w.fires = some fired ∧ fired < w.lookAt settings name start (i + 1)) →
      Ends w settings name start i (.error (.cancelled ("waiting on helper pod " ++ name)))

variable {w : Watch} {settings : Settings} {name : String} {start i : Nat} {r r' : Except Error Unit}

theorem Ends.unique (h : w.Ends settings name start i r) (h' : w.Ends settings name start i r') : r = r' := by
  cases h <;> cases h' <;> grind [Unfinished]

theorem firedBefore_iff {time : Nat} :
    w.world.firedBefore time = true ↔ ∃ fired, w.fires = some fired ∧ fired < time := by
  unfold TimedWorld.firedBefore
  rw [Option.any_eq_true]
  simp [world]

theorem not_ends_of_unfinished {pod : Pod} (hlook : w.looks i = .ok pod) (hpod : Unfinished pod)
    (hfires : w.world.firedBefore (w.lookAt settings name start (i + 1)) = false) :
    ¬w.Ends settings name start i r := by
  intro h
  cases h with
  | succeeded hlook' hphase =>
    cases hlook.symm.trans hlook'
    exact (hpod _ hphase).1 rfl
  | failed hlook' hphase =>
    cases hlook.symm.trans hlook'
    exact (hpod _ hphase).2 rfl
  | refused hlook' => cases hlook.symm.trans hlook'
  | cancelled _ _ hcut => exact Bool.eq_false_iff.1 hfires (firedBefore_iff.2 hcut)

end Watch

/-! ### Looking in time -/

variable {w : Watch} {settings : Settings} {task : HelperTask} {name : String} {start left looks looks' now' : Nat}
  {t : List Event} {r : Except Error Unit}

theorem look_of_awaitPod (h : Path (awaitPod settings name (left + 1)) t r)
    (hgoes : w.world.Goes looks (w.lookAt settings name start looks) t looks' now') :
    (w.Ends settings name start looks r ∧ calls t = [.getPod settings.ns name]) ∨
      (∀ r', ¬w.Ends settings name start looks r') ∧ ∃ u, calls t = .getPod settings.ns name :: calls u ∧
        Path (awaitPod settings name left) u r ∧
        w.world.Goes (looks + 1) (w.lookAt settings name start (looks + 1)) u looks' now' := by
  unfold awaitPod at h
  rcases Attempt.path_call_bind_iff.1 h with ⟨e, rfl, rfl⟩ | ⟨pod, u, rfl, h₁⟩
  · exact .inl ⟨.refused hgoes.of_called.1.symm, rfl⟩
  obtain ⟨hreply, hrest⟩ := hgoes.of_called
  have hlook : w.looks looks = .ok pod := hreply.symm
  rcases phase_cases pod with hphase | hphase | hphase
  · rw [podOutcome?_of_succeeded hphase] at h₁
    obtain ⟨rfl, rfl⟩ := Attempt.path_pure_iff.1 h₁
    exact .inl ⟨.succeeded hlook hphase, rfl⟩
  · rw [podOutcome?_of_failed hphase] at h₁
    obtain ⟨rfl, rfl⟩ := Attempt.path_throw_iff.1 h₁
    exact .inl ⟨.failed hlook hphase, rfl⟩
  · rw [podOutcome?_of_unfinished hphase] at h₁
    rcases Attempt.path_waitOr_bind_iff.1 h₁ with ⟨rfl, rfl⟩ | ⟨v, rfl, h₂⟩
    · obtain ⟨hcut, -⟩ := hrest.of_slept
      exact .inl ⟨.cancelled hlook hphase (Watch.firedBefore_iff.1 hcut.symm), rfl⟩
    · obtain ⟨huncut, hlater⟩ := hrest.of_slept
      rw [TimedWorld.wakesAt_of_not_fired huncut.symm] at hlater
      refine .inr ⟨fun r' => Watch.not_ends_of_unfinished hlook hphase huncut.symm, v, rfl, h₂, hlater⟩

/-- A run goes on to the first look that ends it, or makes all the looks that are left. -/
theorem awaitPod_in_time (h : Path (awaitPod settings name left) t r)
    (hgoes : w.world.Goes looks (w.lookAt settings name start looks) t looks' now') :
    (∃ i < left, w.Ends settings name start (looks + i) r ∧
        (∀ j < i, ∀ r', ¬w.Ends settings name start (looks + j) r') ∧
        calls t = List.replicate (i + 1) (.getPod settings.ns name)) ∨
      (∀ i < left, ∀ r', ¬w.Ends settings name start (looks + i) r') ∧
        r = .error (.helperTimeout name settings.helperPollCount) ∧
        calls t = List.replicate left (.getPod settings.ns name) := by
  induction left generalizing looks t with
  | zero =>
    obtain ⟨rfl, rfl⟩ := Attempt.path_throw_iff.1 h
    exact .inr ⟨fun i hi => absurd hi (Nat.not_lt_zero i), rfl, rfl⟩
  | succ left ih =>
    rcases look_of_awaitPod h hgoes with ⟨hends, hcalls⟩ | ⟨hnone, u, hcalls, hlater, hrest⟩
    · exact .inl ⟨0, Nat.zero_lt_succ left, hends, fun j hj => absurd hj (Nat.not_lt_zero j), hcalls⟩
    -- the looks from the next one on, counted from this one
    have hstep {i : Nat} (hbefore : ∀ j < i, ∀ r', ¬w.Ends settings name start (looks + 1 + j) r') :
        ∀ j < i + 1, ∀ r', ¬w.Ends settings name start (looks + j) r' := by
      intro j hj
      cases j with
      | zero => exact hnone
      | succ j =>
        rw [Nat.add_comm j, ← Nat.add_assoc]
        exact hbefore j (Nat.lt_of_succ_lt_succ hj)
    rcases ih hlater hrest with ⟨i, hi, hends, hbefore, hlooks⟩ | ⟨hbefore, hr, hlooks⟩
    · refine .inl ⟨i + 1, Nat.succ_lt_succ hi, ?_, hstep hbefore, ?_⟩
      · rw [Nat.add_comm i, ← Nat.add_assoc]
        exact hends
      · rw [hcalls, hlooks, ← List.replicate_succ]
    · refine .inr ⟨hstep hbefore, hr, ?_⟩
      rw [hcalls, hlooks, ← List.replicate_succ]

/-! ### Whole runs -/

/-- A run whose pod is there goes on to the first look that ends it, or makes all its looks; then it deletes the
pod. -/
theorem runHelper_of_goes {pod : Pod} (hpod : task.pod settings = .ok pod)
    (hlaunched : isLaunched (w.others (.createPod settings.ns pod)) = true)
    (h : Path (runHelper settings task) t r) (hgoes : w.world.Goes 0 start t looks' now') :
    ∃ looks, calls t = .createPod settings.ns pod ::
        (List.replicate looks (.getPod settings.ns task.podName) ++ [.deletePod settings.ns task.podName]) ∧
      ((∃ i < settings.helperPollCount,
          w.Ends settings task.podName (start + w.takes (.createPod settings.ns pod) 0) i r ∧
          (∀ j < i, ∀ r', ¬w.Ends settings task.podName (start + w.takes (.createPod settings.ns pod) 0) j r') ∧
          looks = i + 1) ∨
        (∀ i < settings.helperPollCount, ∀ r',
          ¬w.Ends settings task.podName (start + w.takes (.createPod settings.ns pod) 0) i r') ∧
          r = .error (.helperTimeout task.podName settings.helperPollCount) ∧
          looks = settings.helperPollCount) := by
  cases runShape_of_path h with
  | refused hrefused => cases hpod.symm.trans hrefused
  | rejected hown hrejected =>
    cases hpod.symm.trans hown
    rw [hgoes.of_called.1] at hrejected
    exact absurd hlaunched (Bool.eq_false_iff.1 hrejected)
  | @ran _ reply seen told deleted _ hown _ hawait htold =>
    cases hpod.symm.trans hown
    obtain ⟨s, now, hseen, -⟩ := hgoes.of_called.2.of_append
    have hcalls {looks : Nat} (hlooks : calls seen = List.replicate looks (.getPod settings.ns task.podName)) :
        calls (.called (.createPod settings.ns pod) reply ::
          (seen ++ .called (.deletePod settings.ns task.podName) deleted :: told)) =
        .createPod settings.ns pod ::
          (List.replicate looks (.getPod settings.ns task.podName) ++ [.deletePod settings.ns task.podName]) := by
      rw [Program.Event.calls_called_cons, Program.Event.calls_append, hlooks, Program.Event.calls_called_cons,
        htold]
    have hstarted : w.world.Goes 0
        (w.lookAt settings task.podName (start + w.takes (.createPod settings.ns pod) 0) 0) seen s now := hseen
    have hfirst := awaitPod_in_time hawait hstarted
    simp only [Nat.zero_add] at hfirst
    rcases hfirst with ⟨i, hi, hends, hbefore, hlooks⟩ | ⟨hnone, hr, hlooks⟩
    · exact ⟨i + 1, hcalls hlooks, .inl ⟨i, hi, hends, hbefore, rfl⟩⟩
    · exact ⟨settings.helperPollCount, hcalls hlooks, .inr ⟨hnone, hr, rfl⟩⟩

/-- The first look at a pod that ends the run decides its outcome, and no look is made after it.

A run whose pod has been created or taken over looks at the pod as often as is set. It succeeds at the first look
that finds the pod succeeded, and fails at the first one that finds it failed or that fails itself, or when it has
been cancelled before the end of the wait after a look at an unfinished pod, whichever look comes first. When all
looks have been made and none of them has ended the run, it has run out of time. This holds for all answers, however
long calls and waits take, and whenever the run is cancelled, be it before its start. -/
theorem runHelper_in_time (w : Watch) {pod : Pod} (hpod : task.pod settings = .ok pod)
    (hlaunched : isLaunched (w.others (.createPod settings.ns pod)) = true) (start : Nat) :
    let events := w.world.trace (runHelper settings task).run 0 start
    let result := (w.world.run (runHelper settings task).run 0 start).1
    let first := start + w.takes (.createPod settings.ns pod) 0
    let callsOf (looks : Nat) := .createPod settings.ns pod ::
      (List.replicate looks (.getPod settings.ns task.podName) ++ [.deletePod settings.ns task.podName])
    (∀ i < settings.helperPollCount, ∀ r, w.Ends settings task.podName first i r →
      (∀ j < i, ∀ r', ¬w.Ends settings task.podName first j r') →
        result = r ∧ calls events = callsOf (i + 1)) ∧
    ((∀ i < settings.helperPollCount, ∀ r, ¬w.Ends settings task.podName first i r) →
      result = .error (.helperTimeout task.podName settings.helperPollCount) ∧
        calls events = callsOf settings.helperPollCount) := by
  intro events result first callsOf
  have hpath : Path (runHelper settings task) events result := w.world.path_run _ 0 start
  have hgoes := w.world.goes_trace (runHelper settings task).run 0 start
  obtain ⟨looks, hcalls, hends⟩ := runHelper_of_goes hpod hlaunched hpath hgoes
  constructor
  · intro i hi r hr hbefore
    rcases hends with ⟨i', hi', hresult, hbefore', rfl⟩ | ⟨hnone, -⟩
    · obtain rfl : i' = i := by
        rcases Nat.lt_trichotomy i' i with hlt | heq | hgt
        · exact absurd hresult (hbefore i' hlt _)
        · exact heq
        · exact absurd hr (hbefore' i hgt _)
      exact ⟨hresult.unique hr, hcalls⟩
    · exact absurd hr (hnone i hi r)
  · intro hnone
    rcases hends with ⟨i, hi, hresult, -⟩ | ⟨-, hresult, rfl⟩
    · exact absurd hresult (hnone i hi _)
    · exact ⟨hresult, hcalls⟩

end HostPath

open HostPath (Unfinished Watch runHelper runHelper_in_time)

/-! ### A run that is cancelled -/

namespace Small

/-- A pod that an earlier run has left behind goes on, and the run that watches it is cancelled in its second
wait. -/
def longWatch : Watch where
  looks _ := .ok { metadata := { name := some "cleanup-pvc-1" }, status := some { phase := some "Running" } }
  others _ := .error (.resourceExists "Pod" "cleanup-pvc-1")
  takes _ _ := 5
  lasts ms := ms
  fires := some 1500

theorem looks_longWatch (i : Nat) :
    ∃ pod, longWatch.looks i = .ok pod ∧ Unfinished pod := by
  refine ⟨_, rfl, fun phase hphase => ?_⟩
  cases hphase
  decide

/-- The run that removes the directory of the volume. -/
def watchedRun : Engine (Except Error Unit) := (runHelper settings (cleanupTask "/var/local/pvc-1")).run

end Small

/-- The run ends with its second look. -/
theorem runHelper_in_time_cancelled :
    (Small.longWatch.world.run Small.watchedRun 0 0).1 =
        .error (.cancelled "waiting on helper pod cleanup-pvc-1") ∧
      calls (Small.longWatch.world.trace Small.watchedRun 0 0) =
        [.createPod "openebs" (Small.cleanupPod "/var/local"), .getPod "openebs" "cleanup-pvc-1",
          .getPod "openebs" "cleanup-pvc-1", .deletePod "openebs" "cleanup-pvc-1"] := by
  have hpod : (Small.cleanupTask "/var/local/pvc-1").pod Small.settings = .ok (Small.cleanupPod "/var/local") := by
    decide +kernel
  obtain ⟨hends, -⟩ := runHelper_in_time Small.longWatch hpod rfl 0
  obtain ⟨pod, hlook, hunfinished⟩ := Small.looks_longWatch 1
  refine hends 1 (by decide) _ (.cancelled hlook hunfinished ⟨1500, rfl, by decide⟩) fun j hj r => ?_
  obtain rfl : j = 0 := Nat.lt_one_iff.1 hj
  obtain ⟨pod, hlook, hunfinished⟩ := Small.looks_longWatch 0
  exact Watch.not_ends_of_unfinished hlook hunfinished (by decide)

end NodeVolumes
