import NodeVolumes.Cluster.Memory
import NodeVolumes.Proofs.Cluster.Attempt

/-! # Runs of a cluster in memory

A cluster in memory goes through a list of events when it gives the answers in it. Any call may fail
instead, as `faults` allows, and then leaves the cluster as it is. Between calls all may change except pods,
claims and whether deletes are set to fail.

* `Memory.Run faults m t m'`: the events `t` take the cluster from `m` to `m'`.
* `frame_answer`: what a call leaves alone.
* `Succeeds`: an event in which a call of some kind has succeeded on one object.
* `PodStep`: what one event can do to the pod under one key; `Run.pod_origin`: where a pod comes from.
* `Memory.run_world`: what happens in a cluster in memory is a run of it. -/

namespace NodeVolumes.Cluster

namespace Call

/-- Tells the calls that create, read or delete one pod. -/
def isOnPod : Call → Bool
  | createPod .. | getPod .. | deletePod .. => true
  | _ => false

/-- Tells the calls that create, read, replace or delete one device claim. -/
def isOnClaim : Call → Bool
  | getClaim .. | createClaim .. | replaceClaim .. | deleteClaim .. => true
  | _ => false

/-- Tells the calls that create or delete an object. -/
def createsOrDeletes : Call → Bool
  | createPod .. | deletePod .. | createClaim .. | deleteClaim .. => true
  | _ => false

/-- Where the pod of a call is kept. -/
def podKey? : Call → Option ObjectKey
  | createPod ns pod => some ⟨ns, pod.metadata.nameD⟩
  | getPod ns name | deletePod ns name => some ⟨ns, name⟩
  | _ => none

/-- Where the device claim of a call is kept. -/
def claimKey? : Call → Option ObjectKey
  | getClaim ns name | deleteClaim ns name => some ⟨ns, name⟩
  | createClaim ns claim | replaceClaim ns claim => some ⟨ns, claim.metadata.nameD⟩
  | _ => none

theorem podKey?_ne_of_isOnPod {c : Call} {key : ObjectKey} (h : c.isOnPod = false) : c.podKey? ≠ some key := by
  cases c with
  | createPod | getPod | deletePod => cases h
  | _ => exact nofun

theorem claimKey?_ne_of_isOnClaim {c : Call} {key : ObjectKey} (h : c.isOnClaim = false) :
    c.claimKey? ≠ some key := by
  cases c with
  | getClaim | createClaim | replaceClaim | deleteClaim => cases h
  | _ => exact nofun

theorem isOnClaim_of_isOnPod {c : Call} (h : c.isOnPod = true) : c.isOnClaim = false := by
  cases c <;> first | rfl | cases h

end Call

namespace Memory

/-! ### Runs -/

/-- One cluster may become the other by itself. -/
structure Drifts (m m' : Memory) : Prop where
  pods : m'.pods = m.pods
  claims : m'.claims = m.claims
  failPodDeletes : m'.failPodDeletes = m.failPodDeletes

theorem Drifts.refl (m : Memory) : m.Drifts m := ⟨rfl, rfl, rfl⟩

theorem Drifts.trans {m m' m'' : Memory} (h : m.Drifts m') (h' : m'.Drifts m'') : m.Drifts m'' :=
  ⟨h'.pods.trans h.pods, h'.claims.trans h.claims, h'.failPodDeletes.trans h.failPodDeletes⟩

theorem drifts_addStorageClass (m : Memory) (c : StorageClass) : m.Drifts (m.addStorageClass c) :=
  ⟨rfl, rfl, rfl⟩

theorem drifts_addDevice (m : Memory) (ns : String) (d : BlockDevice) : m.Drifts (m.addDevice ns d) :=
  ⟨rfl, rfl, rfl⟩

theorem drifts_bindAfter (m : Memory) (claim : String) (b : Binding) : m.Drifts (m.bindAfter claim b) :=
  ⟨rfl, rfl, rfl⟩

/-- A cluster answers a call by itself, or the call fails on its way. -/
inductive Answers (faults : Call → Error → Prop) (m : Memory) (c : Call) : Reply c → Memory → Prop
  | given : Answers faults m c (m.answer c).1 (m.answer c).2
  | failed {e : Error} : faults c e → Answers faults m c (.error e) m

theorem found_eq_ok_iff {α : Type} {kind : Kind} {name : String} {object : Option α} {a : α} :
    found kind name object = .ok a ↔ object = some a := by
  cases object <;> simp [found]

theorem Answers.get?_pods_of_getPod {faults : Call → Error → Prop} {m m' : Memory} {ns name : String}
    {pod : Pod} (h : m.Answers faults (.getPod ns name) (.ok pod) m') :
    m.pods.get? ⟨ns, name⟩ = some pod := by
  generalize hr : (Except.ok pod : Reply (.getPod ns name)) = r at h
  cases h with
  | given => exact found_eq_ok_iff.1 hr.symm
  | failed _ => cases hr

theorem Answers.get?_devices_of_getBlockDevice {faults : Call → Error → Prop} {m m' : Memory}
    {ns name : String} {device : BlockDevice}
    (h : m.Answers faults (.getBlockDevice ns name) (.ok device) m') :
    m.devices.get? ⟨ns, name⟩ = some device := by
  generalize hr : (Except.ok device : Reply (.getBlockDevice ns name)) = r at h
  cases h with
  | given => exact found_eq_ok_iff.1 hr.symm
  | failed _ => cases hr

theorem Answers.get?_storageClasses_of_getStorageClass {faults : Call → Error → Prop} {m m' : Memory}
    {name : String} {cls : StorageClass} (h : m.Answers faults (.getStorageClass name) (.ok cls) m') :
    m.storageClasses.get? name = some cls := by
  generalize hr : (Except.ok cls : Reply (.getStorageClass name)) = r at h
  cases h with
  | given => exact found_eq_ok_iff.1 hr.symm
  | failed _ => cases hr

/-- What a call leaves alone: pods and claims unless it is on one, and whether deletes are set to fail. -/
structure Frame (c : Call) (m m' : Memory) : Prop where
  pods : c.isOnPod = false → m'.pods = m.pods
  claims : c.isOnClaim = false → m'.claims = m.claims
  failPodDeletes : m'.failPodDeletes = m.failPodDeletes

namespace Frame

variable {c : Call} {m m' : Memory}

theorem refl (c : Call) (m : Memory) : Frame c m m := ⟨fun _ => rfl, fun _ => rfl, rfl⟩

theorem of_isOnPod (hc : c.isOnPod = true) (hclaims : m'.claims = m.claims)
    (hdeletes : m'.failPodDeletes = m.failPodDeletes) : Frame c m m' where
  pods hnot := absurd (hc.symm.trans hnot) (by decide)
  claims _ := hclaims
  failPodDeletes := hdeletes

theorem of_isOnClaim (hc : c.isOnClaim = true) (hpods : m'.pods = m.pods)
    (hdeletes : m'.failPodDeletes = m.failPodDeletes) : Frame c m m' where
  pods _ := hpods
  claims hnot := absurd (hc.symm.trans hnot) (by decide)
  failPodDeletes := hdeletes

end Frame

theorem frame_answer (c : Call) (m : Memory) : Frame c m (m.answer c).2 := by
  cases c with
  | createPod ns built =>
    unfold answer createPod
    dsimp only
    split
    · exact .refl ..
    · exact .of_isOnPod rfl rfl rfl
  | deletePod ns name =>
    unfold answer deletePod
    dsimp only
    split
    · exact .refl ..
    · split
      · exact .of_isOnPod rfl rfl rfl
      · exact .refl ..
  | getClaim ns name =>
    unfold answer getClaim
    dsimp only
    split <;> exact .of_isOnClaim rfl rfl rfl
  | createClaim ns claim =>
    unfold answer createClaim
    dsimp only
    split
    · exact .refl ..
    · exact .of_isOnClaim rfl rfl rfl
  | replaceClaim ns claim =>
    unfold answer replaceClaim
    dsimp only
    split
    · exact .of_isOnClaim rfl rfl rfl
    · exact .refl ..
  | deleteClaim ns name =>
    unfold answer deleteClaim
    dsimp only
    split
    · exact .of_isOnClaim rfl rfl rfl
    · exact .refl ..
  | _ => exact .refl ..

theorem Answers.frame {faults : Call → Error → Prop} {m m' : Memory} {c : Call} {r : Reply c}
    (h : m.Answers faults c r m') : Frame c m m' := by
  cases h with
  | given => exact frame_answer c m
  | failed _ => exact .refl c m

/-- `Run faults m t m'`: the events `t` take the cluster from `m` to `m'`. -/
inductive Run (faults : Call → Error → Prop) : Memory → List Event → Memory → Prop
  | done {m m' : Memory} : m.Drifts m' → Run faults m [] m'
  | called {m m₁ m₂ m₃ : Memory} {c : Call} {r : Reply c} {t : List Event} : m.Drifts m₁ →
      m₁.Answers faults c r m₂ → Run faults m₂ t m₃ → Run faults m (.called c r :: t) m₃
  | silent {m m' : Memory} {e : Event} {t : List Event} : e.call? = none → Run faults m t m' →
      Run faults m (e :: t) m'

variable {faults : Call → Error → Prop} {m m' m'' : Memory} {t u : List Event}

theorem Run.of_drifts (h : m.Drifts m') (hrun : Run faults m' t m'') : Run faults m t m'' := by
  induction hrun with
  | done h' => exact .done (h.trans h')
  | called h' hanswer hrest _ => exact .called (h.trans h') hanswer hrest
  | silent he _ ih => exact .silent he (ih h)

theorem Run.append (h : Run faults m t m') (h' : Run faults m' u m'') :
    Run faults m (t ++ u) m'' := by
  induction h with
  | done hdrift => exact h'.of_drifts hdrift
  | called hdrift hanswer _ ih => exact .called hdrift hanswer (ih h')
  | silent he _ ih => exact .silent he (ih h')

theorem Run.of_append (h : Run faults m (t ++ u) m'') :
    ∃ m', Run faults m t m' ∧ Run faults m' u m'' := by
  induction t generalizing m with
  | nil => exact ⟨m, .done (.refl m), h⟩
  | cons e t ih =>
    cases h with
    | called hdrift hanswer hrest =>
      obtain ⟨m', ht, hu⟩ := ih hrest
      exact ⟨m', .called hdrift hanswer ht, hu⟩
    | silent he hrest =>
      obtain ⟨m', ht, hu⟩ := ih hrest
      exact ⟨m', .silent he ht, hu⟩

/-! ### The world of a cluster -/

/-- A cluster in memory as a world, in which all or none is cancelled. -/
def world (cancelled : Bool) : World Call Reply Note Memory where
  answer := answer
  isCancelled _ := cancelled
  pass _ m := m
  hear _ m := m

/-- What happens in a cluster in memory is a run of it. -/
theorem run_world {α : Type} (cancelled : Bool) (p : Engine α) (m : Memory) :
    Run faults m ((world cancelled).trace p m) ((world cancelled).run p m).2 := by
  induction p generalizing m with
  | done a => exact .done (.refl m)
  | call c next ih => exact .called (.refl m) .given (ih _ _)
  | sleep ms next ih =>
    cases cancelled with
    | true => exact .silent rfl (ih _ _)
    | false => exact .silent rfl (ih _ _)
  | poll next ih => exact .silent rfl (ih _ _)
  | note n next ih => exact .silent rfl (ih _)

/-! ### Calls that have succeeded -/

/-- An event in which a call of some kind on the object under a key has succeeded. -/
def Succeeds (kind : Call → Bool) (key? : Call → Option ObjectKey) (key : ObjectKey) : Event → Prop
  | .called c (.ok _) => kind c = true ∧ key? c = some key
  | _ => False

section
variable {kind : Call → Bool} {key? : Call → Option ObjectKey} {key : ObjectKey} {c : Call} {r : Reply c}

theorem not_succeeds_error {e : Error} : ¬Succeeds kind key? key (.called c (.error e)) := id

theorem not_succeeds_of_call?_eq_none {e : Event} (h : e.call? = none) : ¬Succeeds kind key? key e := by
  cases e with
  | called c r => cases h
  | _ => exact id

theorem not_succeeds_of_kind (h : kind c = false) : ¬Succeeds kind key? key (.called c r) := by
  cases r with
  | error e => exact id
  | ok a =>
    rintro ⟨hkind, -⟩
    rw [h] at hkind
    cases hkind

theorem not_succeeds_of_key (h : key? c ≠ some key) : ¬Succeeds kind key? key (.called c r) := by
  cases r with
  | error e => exact id
  | ok a => exact fun hdone => h hdone.2

theorem Succeeds.exists_eq {e : Event} (h : Succeeds kind key? key e) :
    ∃ c a, e = .called c (.ok a) ∧ kind c = true ∧ key? c = some key := by
  unfold Succeeds at h
  split at h
  case h_1 c a => exact ⟨c, a, rfl, h⟩
  case h_2 => exact h.elim

end

/-! ### Steps of one pod -/

/-- An event that creates or deletes the pod under a key. -/
def TouchesPod : ObjectKey → Event → Prop := Succeeds Call.createsOrDeletes Call.podKey?

theorem touchesPod_created {key : ObjectKey} {built stored : Pod} (h : built.metadata.nameD = key.name) :
    TouchesPod key (.called (.createPod key.ns built) (.ok stored)) :=
  ⟨rfl, congrArg (fun name => some (ObjectKey.mk key.ns name)) h⟩

/-- What an event does to the pod under a key. -/
inductive PodStep (key : ObjectKey) : Option Pod → Event → Option Pod → Prop
  | kept {pod : Option Pod} {e : Event} : ¬TouchesPod key e → PodStep key pod e pod
  | created {built stored : Pod} : built.metadata.nameD = key.name → stored.spec = built.spec →
      PodStep key none (.called (.createPod key.ns built) (.ok stored)) (some stored)
  | deleted {pod : Option Pod} :
      PodStep key pod (.called (.deletePod key.ns key.name) (.ok ())) none

theorem podStep_createPod (m : Memory) (key : ObjectKey) (ns : String) (built : Pod) :
    PodStep key (m.pods.get? key) (.called (.createPod ns built) (m.createPod ns built).1)
      ((m.createPod ns built).2.pods.get? key) := by
  unfold createPod
  dsimp only
  split
  case isTrue => exact .kept not_succeeds_error
  case isFalse habsent =>
    dsimp only
    rw [KeyMap.get?_insert]
    by_cases hkey : (⟨ns, built.metadata.nameD⟩ : ObjectKey) = key
    · rw [if_pos hkey]
      subst hkey
      rw [show m.pods.get? _ = none by simpa [KeyMap.contains] using habsent]
      exact .created rfl rfl
    · rw [if_neg hkey]
      exact .kept (not_succeeds_of_key (mt Option.some.inj hkey))

theorem podStep_deletePod (m : Memory) (key : ObjectKey) (ns name : String) :
    PodStep key (m.pods.get? key) (.called (.deletePod ns name) (m.deletePod ns name).1)
      ((m.deletePod ns name).2.pods.get? key) := by
  unfold deletePod
  split
  case isTrue => exact .kept not_succeeds_error
  case isFalse =>
    split
    case isTrue =>
      dsimp only
      rw [KeyMap.get?_erase]
      by_cases hkey : (⟨ns, name⟩ : ObjectKey) = key
      · rw [if_pos hkey]
        subst hkey
        exact .deleted
      · rw [if_neg hkey]
        exact .kept (not_succeeds_of_key (mt Option.some.inj hkey))
    case isFalse => exact .kept not_succeeds_error

theorem podStep_of_answers (key : ObjectKey) {c : Call} {r : Reply c} (h : m.Answers faults c r m') :
    PodStep key (m.pods.get? key) (.called c r) (m'.pods.get? key) := by
  cases h with
  | failed _ => exact .kept not_succeeds_error
  | given =>
    by_cases hpod : c.isOnPod = true
    · cases c with
      | createPod ns built => exact podStep_createPod m key ns built
      | getPod ns name => exact .kept (not_succeeds_of_kind rfl)
      | deletePod ns name => exact podStep_deletePod m key ns name
      | _ => cases hpod
    · rw [Bool.not_eq_true] at hpod
      rw [(frame_answer c m).pods hpod]
      exact .kept (not_succeeds_of_key (Call.podKey?_ne_of_isOnPod hpod))

theorem Run.get?_pods_of_untouched {key : ObjectKey} (h : Run faults m t m')
    (ht : ∀ e ∈ t, ¬TouchesPod key e) : m'.pods.get? key = m.pods.get? key := by
  induction h with
  | done hdrift => rw [hdrift.pods]
  | @called m m₁ m₂ m₃ c r t hdrift hanswer hrest ih =>
    have hrest := ih fun e he => ht e (List.mem_cons_of_mem _ he)
    have hfirst := ht _ (List.mem_cons_self ..)
    rw [hrest, ← hdrift.pods]
    have hstep := podStep_of_answers key hanswer
    generalize m₁.pods.get? key = before at hstep ⊢
    generalize m₂.pods.get? key = after at hstep ⊢
    cases hstep with
    | kept _ => rfl
    | created hname _ => exact absurd (touchesPod_created hname) hfirst
    | deleted => exact absurd ⟨rfl, rfl⟩ hfirst
  | silent _ _ ih => exact ih fun e he => ht e (List.mem_cons_of_mem _ he)

theorem Run.get?_pods_of_ne {key : ObjectKey} (h : Run faults m t m')
    (ht : ∀ c ∈ Program.Event.calls t, c.podKey? ≠ some key) : m'.pods.get? key = m.pods.get? key := by
  apply h.get?_pods_of_untouched
  intro e he htouch
  obtain ⟨c, a, rfl, -, hkey⟩ := htouch.exists_eq
  exact ht c (Program.Event.mem_calls_of_mem he) hkey

theorem Run.pods_of_calls (h : Run faults m t m')
    (ht : ∀ c ∈ Program.Event.calls t, c.isOnPod = false) : m'.pods = m.pods := by
  apply KeyMap.ext_get?
  intro key
  exact h.get?_pods_of_ne fun c hc => Call.podKey?_ne_of_isOnPod (ht c hc)

/-- Where a pod comes from: it was there before and no event touched it, or an event created it and none
touched it after that. -/
theorem Run.pod_origin {key : ObjectKey} {pod : Pod} (h : Run faults m t m')
    (hpod : m'.pods.get? key = some pod) :
    (m.pods.get? key = some pod ∧ ∀ e ∈ t, ¬TouchesPod key e) ∨
      ∃ u built v, t = u ++ .called (.createPod key.ns built) (.ok pod) :: v ∧
        built.metadata.nameD = key.name ∧ pod.spec = built.spec ∧ ∀ e ∈ v, ¬TouchesPod key e := by
  induction h with
  | done hdrift =>
    rw [hdrift.pods] at hpod
    exact .inl ⟨hpod, by simp⟩
  | @called m m₁ m₂ m₃ c r t hdrift hanswer hrest ih =>
    rcases ih hpod with ⟨hafter, huntouched⟩ | ⟨u, built, v, rfl, hbuilt⟩
    · rw [← hdrift.pods]
      have hstep := podStep_of_answers key hanswer
      rw [hafter] at hstep
      generalize m₁.pods.get? key = before at hstep ⊢
      cases hstep with
      | kept htouch => exact .inl ⟨rfl, List.forall_mem_cons.2 ⟨htouch, huntouched⟩⟩
      | created hname hspec => exact .inr ⟨[], _, t, rfl, hname, hspec, huntouched⟩
    · exact .inr ⟨_ :: u, built, v, rfl, hbuilt⟩
  | @silent m m' e t he _ ih =>
    rcases ih hpod with ⟨hbefore, huntouched⟩ | ⟨u, built, v, rfl, hbuilt⟩
    · exact .inl ⟨hbefore, List.forall_mem_cons.2 ⟨not_succeeds_of_call?_eq_none he, huntouched⟩⟩
    · exact .inr ⟨_ :: u, built, v, rfl, hbuilt⟩

end Memory
end NodeVolumes.Cluster
