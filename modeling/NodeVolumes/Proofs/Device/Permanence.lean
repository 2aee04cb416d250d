import NodeVolumes.Proofs.Device.Binding
import NodeVolumes.Proofs.Device.Finalizer

/-! # Claims that keep their device

A read writes the name of its device into a claim, and a release writes the whole claim back. Neither takes a device
away again: a read only gives one to a claim without any, and what a release writes back is what it has read just
before, with one finalizer less.

* `WritesBackReads`: a claim is only replaced right after a read, with the name and the spec that have been read.
* `ClaimAfter`: what one event leaves of a claim; `Run.spec_of_bound`: what any number of them leave of a bound one.
* `Memory.Unfolds`: events in turn, while devices are scripted for claims at any time.
* `bound_claims_stay_bound`: a claim keeps its device until it is deleted. -/

namespace NodeVolumes

open Cluster (Binding Call Event Memory)
open Cluster.Memory (callWorld)

/-! ### What the engine writes to claims -/

/-- A claim is only replaced right after a read in its namespace, by one with the name and the spec of the claim that
has been found. -/
def WritesBackReads (t : List Event) : Prop :=
  ∀ pre ns written r post, t = pre ++ .called (.replaceClaim ns written) r :: post →
    ∃ before name current, pre = before ++ [.called (.getClaim ns name) (.ok current)] ∧
      written.metadata.nameD = current.metadata.nameD ∧ written.spec = current.spec

theorem writesBackReads_singleton {e : Event} (he : e.call?.bind Memory.replacesIn? = none) :
    WritesBackReads [e] := by
  intro pre ns written r post ht
  have hmem : .called (.replaceClaim ns written) r ∈ [e] := by
    rw [ht]
    simp
  rw [← List.mem_singleton.1 hmem] at he
  cases he

theorem composable_writesBackReads : Attempt.Composable WritesBackReads where
  nil := by
    intro pre ns written r post ht
    simp at ht
  append := by
    intro t u ht hu pre ns written r post hsplit
    rcases Program.append_eq_append_cons hsplit with ⟨v, hv, -⟩ | ⟨v, rfl, hv⟩
    · exact ht pre ns written r v hv
    · obtain ⟨before, name, current, rfl, hwritten⟩ := hu v ns written r post hv
      exact ⟨t ++ before, name, current, (List.append_assoc ..).symm, hwritten⟩
  silent := by
    intro e he
    apply writesBackReads_singleton
    rw [he]
    rfl

theorem writesBackReads_release (settings : Settings) (claim : String) :
    (Device.release settings claim).Always WritesBackReads := by
  refine Device.always_release_of_read composable_writesBackReads (fun _ => writesBackReads_singleton rfl) ?_
    fun _ => writesBackReads_singleton rfl
  intro current reply pre ns written r post hsplit
  -- only the second of the two events writes
  rcases pre with _ | ⟨_, _ | ⟨_, pre⟩⟩
  · cases hsplit
  · cases hsplit
    exact ⟨[], claim, current, rfl, rfl, rfl⟩
  · simp at hsplit

theorem EngineCall.writesBackReads_of_path {settings : Settings} {call : EngineCall} {t : List Event}
    {r : Except Error call.Result} (h : (call.program settings).Path t r) : WritesBackReads t := by
  have hP := composable_writesBackReads
  have hpod (c : Call) (reply : Cluster.Reply c) (hc : c.isOnPod = true) : WritesBackReads [.called c reply] :=
    writesBackReads_singleton (Memory.replacesIn?_of_isOnPod hc)
  cases call with
  | provision request =>
    refine always_provision hP (fun _ _ => writesBackReads_singleton rfl) hpod (fun plan => ?_) h
    exact Device.always_provision hP (fun _ => writesBackReads_singleton rfl)
      (fun _ _ => writesBackReads_singleton rfl) (writesBackReads_release settings _)
      fun _ _ => writesBackReads_singleton rfl
  | delete pv =>
    exact always_delete hP (fun _ _ => writesBackReads_singleton rfl) hpod
      (fun _ claim _ _ => writesBackReads_release settings claim) h

theorem writesBackReads_eventsOf (turns : List Turn) : WritesBackReads (eventsOf turns) := by
  induction turns with
  | nil => exact composable_writesBackReads.nil
  | cons turn turns ih =>
    rw [eventsOf_cons]
    exact composable_writesBackReads.append (EngineCall.writesBackReads_of_path turn.path) ih

namespace Cluster.Memory

variable {faults : Call → Error → Prop} {m m' m₁ m₂ : Memory} {t u v : List Event} {key : ObjectKey}
  {claim : BlockDeviceClaim}

/-! ### What events leave of a claim -/

/-- What an event leaves of the claim under a key: its spec, the same spec with a device that it has not had, or
nothing at all. -/
inductive ClaimAfter (key : ObjectKey) (claim : BlockDeviceClaim) : Event → Option BlockDeviceClaim → Prop
  | kept {e : Event} {after : BlockDeviceClaim} : after.spec = claim.spec → ClaimAfter key claim e (some after)
  | bound {r : Reply (.getClaim key.ns key.name)} {after : BlockDeviceClaim} (device : String) :
      claim.boundDevice? = none → after.spec = { claim.spec with deviceName := device } →
      ClaimAfter key claim (.called (.getClaim key.ns key.name) r) (some after)
  | deleted : ClaimAfter key claim (.called (.deleteClaim key.ns key.name) (.ok ())) none

theorem Answers.claimAfter {c : Call} {r : Reply c} (h : m.Answers faults c r m')
    (hclaim : m.claims.get? key = some claim)
    (hwrites : ∀ written, c = .replaceClaim key.ns written → written.metadata.nameD = key.name →
      written.spec = claim.spec) : ClaimAfter key claim (.called c r) (m'.claims.get? key) := by
  have hstep := claimStep_of_answers key h
  rw [hclaim] at hstep
  generalize hafter : m'.claims.get? key = after at hstep ⊢
  cases hstep with
  | kept _ _ => exact .kept rfl
  | read _ _ =>
    obtain ⟨kept, hkept, rfl | ⟨hunbound, binding, -, rfl⟩⟩ := h.keepsClaim_of_getClaim hclaim
    · rw [hafter] at hkept
      cases hkept
      exact .kept rfl
    · rw [hafter] at hkept
      cases hkept
      exact .bound binding.device hunbound rfl
  | replaced hname => exact .kept (hwrites _ rfl hname)
  | deleted => exact .deleted

theorem Run.get?_claims_of_read {ns name : String} {current : BlockDeviceClaim}
    (h : Run faults m (t ++ [.called (.getClaim ns name) (.ok current)]) m') :
    m'.claims.get? ⟨ns, name⟩ = some current := by
  obtain ⟨m₁, -, hread⟩ := h.of_append
  cases hread with
  | called _ hanswer hrest =>
    obtain ⟨-, -, -, hstored⟩ := hanswer.claims_of_getClaim
    rw [hrest.claims_of_calls (by simp), hstored]
  | silent he _ => cases he

/-- An event of the engine leaves every claim its spec, but for the device of a claim that is read without any. -/
theorem Run.claimAfter {e : Event} (hwrites : WritesBackReads (t ++ e :: u)) (hnamed : ∀ key, m.NamedAt key)
    (hbefore : Run faults m t m₁) (hstep : Run faults m₁ [e] m₂) (hclaim : m₁.claims.get? key = some claim) :
    ClaimAfter key claim e (m₂.claims.get? key) := by
  cases hstep with
  | silent _ hrest =>
    rw [hrest.claims_of_calls (by simp), hclaim]
    exact .kept rfl
  | @called _ m' _ _ c r _ hdrift hanswer hrest =>
    rw [hrest.claims_of_calls (by simp)]
    rw [← hdrift.claims] at hclaim
    apply hanswer.claimAfter hclaim
    rintro written rfl hname
    obtain ⟨before, name, current, rfl, hsame, hspec⟩ := hwrites t key.ns written r u rfl
    have hread : current.metadata.nameD = name := hbefore.namesReads (hnamed ⟨key.ns, name⟩) current (by simp)
    -- the claim that has been read is the one that is replaced, since claims lie under their own names
    have hkey : (⟨key.ns, name⟩ : ObjectKey) = key := by rw [← hread, ← hsame, hname]
    have hstored := hbefore.get?_claims_of_read
    rw [hkey, ← hdrift.claims, hclaim] at hstored
    cases hstored
    exact hspec

/-- A bound claim that is not deleted keeps its spec, and its device with it. -/
theorem Run.spec_of_bound {device : String} (hwrites : WritesBackReads (t ++ (u ++ v)))
    (hnamed : ∀ key, m.NamedAt key) (hbefore : Run faults m t m₁) (hrun : Run faults m₁ u m₂)
    (hclaim : m₁.claims.get? key = some claim) (hbound : claim.boundDevice? = some device)
    (hspares : .called (.deleteClaim key.ns key.name) (.ok ()) ∉ u) :
    ∃ kept, m₂.claims.get? key = some kept ∧ kept.spec = claim.spec := by
  induction u generalizing t m₁ claim with
  | nil =>
    rw [hrun.claims_of_calls (by simp)]
    exact ⟨claim, hclaim, rfl⟩
  | cons e u ih =>
    obtain ⟨m', hfirst, hrest⟩ := Run.of_append (t := [e]) hrun
    rw [List.mem_cons, not_or] at hspares
    have hafter := Run.claimAfter hwrites hnamed hbefore hfirst hclaim
    generalize hnext : m'.claims.get? key = next at hafter
    cases hafter with
    | @kept _ after hspec =>
      have hsplit : t ++ (e :: u ++ v) = t ++ [e] ++ (u ++ v) := by simp
      rw [hsplit] at hwrites
      rw [← BlockDeviceClaim.boundDevice?_of_spec hspec] at hbound
      obtain ⟨kept, hkept, hsame⟩ := ih hwrites (hbefore.append hfirst) hrest hnext hbound hspares.2
      exact ⟨kept, hkept, hsame.trans hspec⟩
    | bound _ hnone _ =>
      rw [hnone] at hbound
      cases hbound
    | deleted => exact absurd rfl hspares.1

/-! ### Devices scripted meanwhile -/

/-- `Unfolds faults m t m'`: the events `t` take the cluster from `m` to `m'`, and at any time a device may be
scripted for a claim. -/
inductive Unfolds (faults : Call → Error → Prop) : Memory → List Event → Memory → Prop
  | done {m : Memory} : Unfolds faults m [] m
  | next {m m₁ m' : Memory} {e : Event} {t : List Event} : Happens faults m e m₁ → Unfolds faults m₁ t m' →
      Unfolds faults m (e :: t) m'
  | bindAfter {m m' : Memory} {t : List Event} (name : String) (binding : Binding) :
      Unfolds faults (m.bindAfter name binding) t m' → Unfolds faults m t m'

/-- A scripted device does nothing before its claim is read. -/
theorem Unfolds.run (h : Unfolds faults m t m') : Run faults m t m' := by
  induction h with
  | done => exact .done (.refl _)
  | next he _ ih => exact (Plays.next he .done).run.append ih
  | bindAfter name binding _ ih => exact ih.of_drifts (drifts_bindAfter _ name binding)

theorem Unfolds.append {m'' : Memory} (h : Unfolds faults m t m') (h' : Unfolds faults m' u m'') :
    Unfolds faults m (t ++ u) m'' := by
  induction h with
  | done => exact h'
  | next he _ ih => exact .next he (ih h')
  | bindAfter name binding _ ih => exact .bindAfter name binding (ih h')

theorem Plays.unfolds (h : Plays faults m t m') : Unfolds faults m t m' := by
  induction h with
  | done => exact .done
  | next he _ ih => exact .next he ih

end Cluster.Memory

/-- Claims keep their devices.

Calls of the engine for any volumes follow each other on a cluster in memory, where any of them may be cancelled, any
call to the cluster may fail on its way, and devices are scripted for claims at any time. A claim that is bound to a
device stays bound to it until it is deleted. No write to the cluster changes the spec of a claim that is there before
and after it; only a read does. -/
theorem bound_claims_stay_bound {faults : Call → Error → Prop} {m₀ : Memory} (hmade : m₀.Made)
    (turns : List Turn) :
    (∀ before between after m₁ m₂ key claim device, eventsOf turns = before ++ (between ++ after) →
      m₀.Unfolds faults before m₁ → m₁.Unfolds faults between m₂ → m₁.claims.get? key = some claim →
      claim.boundDevice? = some device → .called (.deleteClaim key.ns key.name) (.ok ()) ∉ between →
      ∃ kept, m₂.claims.get? key = some kept ∧ kept.boundDevice? = some device ∧ kept.spec = claim.spec) ∧
    ∀ before c r after m₁ m₂, eventsOf turns = before ++ .called c r :: after →
      m₀.Unfolds faults before m₁ → m₁.Answers faults c r m₂ → (∀ ns name, c ≠ .getClaim ns name) →
      ∀ key old new, m₁.claims.get? key = some old → m₂.claims.get? key = some new → new.spec = old.spec := by
  have hwrites := writesBackReads_eventsOf turns
  constructor
  · intro before between after m₁ m₂ key claim device hturns hbefore hbetween hclaim hbound hspares
    rw [hturns] at hwrites
    obtain ⟨kept, hkept, hspec⟩ :=
      Memory.Run.spec_of_bound hwrites hmade.namedAt hbefore.run hbetween.run hclaim hbound hspares
    exact ⟨kept, hkept, (BlockDeviceClaim.boundDevice?_of_spec hspec).trans hbound, hspec⟩
  · intro before c r after m₁ m₂ hturns hbefore hanswer hwrite key old new hold hnew
    rw [hturns] at hwrites
    have hafter := Memory.Run.claimAfter hwrites hmade.namedAt hbefore.run
      (.called (.refl m₁) hanswer (.done (.refl m₂))) hold
    rw [hnew] at hafter
    cases hafter with
    | kept hspec => exact hspec
    | bound _ _ _ => exact absurd rfl (hwrite key.ns key.name)

/-! ### A second device for a claim -/

namespace Small

/-- A call of the engine while no claim can be deleted. -/
def turnWithoutDeletes (m : Memory) (call : EngineCall) : Turn where
  settings
  call
  events := (callWorld failingDelete).trace (call.program settings) (m, none)
  result := ((callWorld failingDelete).run (call.program settings) (m, none)).1
  path := World.path_run _ _ _

/-- The cluster after such a call. -/
def clusterWithoutDeletes (m : Memory) (call : EngineCall) : Memory :=
  ((callWorld failingDelete).run (call.program settings) (m, none)).2.1

theorem unfolds_turnWithoutDeletes (m : Memory) (call : EngineCall) :
    m.Unfolds deleteFaults (turnWithoutDeletes m call).events (clusterWithoutDeletes m call) :=
  (Memory.plays_callWorld failingDelete (call.program settings) m none).unfolds

/-- A cluster with a disk. -/
def diskCluster : Memory :=
  deviceCluster.addDevice "openebs" { metadata := { name := some "disk" }, spec := { path := "/dev/sdb" } }

theorem made_diskCluster : diskCluster.Made := .changed .empty rfl

/-- The disk is scripted for the claim of a volume. -/
def offeredCluster : Memory := diskCluster.bindAfter "bdc-pvc-1" ⟨"disk", 1⟩

/-- The volume is made, and another device is scripted for its claim. -/
def rescriptedCluster : Memory :=
  (clusterWithoutDeletes offeredCluster (.provision (request "node-1"))).bindAfter "bdc-pvc-1" ⟨"other", 1⟩

/-- A call that removes the volume. -/
def removal : EngineCall := .delete unmarkedVolume.toPersistentVolume

/-- The call that makes the volume. -/
def makingTurn : Turn := turnWithoutDeletes offeredCluster (.provision (request "node-1"))

/-- The call that removes it, as far as it comes. -/
def removingTurn : Turn := turnWithoutDeletes rescriptedCluster removal

/-- The claim of the volume, bound to the disk. -/
def boundClaim : BlockDeviceClaim where
  metadata :=
    { name := some "bdc-pvc-1"
      ns := some "openebs"
      finalizers := some [localFinalizer] }
  spec :=
    { requests := KeyMap.singleton "storage" "1Gi"
      deviceName := "disk"
      node := { hostName := "node-1" }
      matchLabels := some (KeyMap.singleton hostnameLabel "node-1") }

/-- How the removal writes the claim back. -/
def writesBoundBack : Call := .replaceClaim "openebs" (boundClaim.removeFinalizer localFinalizer)

/-- The cluster when the removal has read the claim. -/
def readCluster : Memory := (rescriptedCluster.getClaim "openebs" "bdc-pvc-1").2

theorem claim_rescriptedCluster :
    rescriptedCluster.claims.get? ⟨"openebs", "bdc-pvc-1"⟩ = some boundClaim := by decide +kernel

theorem claim_readCluster : readCluster.claims.get? ⟨"openebs", "bdc-pvc-1"⟩ = some boundClaim := by decide +kernel

theorem claim_writesBoundBack :
    (readCluster.answer writesBoundBack).2.claims.get? ⟨"openebs", "bdc-pvc-1"⟩ =
      some (boundClaim.removeFinalizer localFinalizer) := by decide +kernel

theorem unfolds_makingTurn : diskCluster.Unfolds deleteFaults makingTurn.events rescriptedCluster := by
  apply Memory.Unfolds.bindAfter "bdc-pvc-1" ⟨"disk", 1⟩
  rw [← List.append_nil makingTurn.events]
  exact (unfolds_turnWithoutDeletes offeredCluster _).append (.bindAfter "bdc-pvc-1" ⟨"other", 1⟩ .done)

theorem events_removingTurn : removingTurn.events =
    .called (.getClaim "openebs" "bdc-pvc-1") (rescriptedCluster.answer (.getClaim "openebs" "bdc-pvc-1")).1 ::
      .called writesBoundBack (readCluster.answer writesBoundBack).1 :: removingTurn.events.drop 2 := by
  decide +kernel

end Small

/-- Another device is scripted for the claim of a volume, and a removal of the volume writes the claim back but cannot
delete it. The claim is still bound to its disk, and the write has left it its spec. -/
theorem bound_claims_stay_bound_rescripted :
    (∃ kept, (Small.clusterWithoutDeletes Small.rescriptedCluster Small.removal).claims.get?
        ⟨"openebs", "bdc-pvc-1"⟩ = some kept ∧ kept.boundDevice? = some "disk") ∧
      ∃ written, (Small.readCluster.answer Small.writesBoundBack).2.claims.get? ⟨"openebs", "bdc-pvc-1"⟩ =
        some written ∧ written.spec = Small.boundClaim.spec := by
  obtain ⟨hstays, hwrites⟩ := @bound_claims_stay_bound Small.deleteFaults _ Small.made_diskCluster
    [Small.makingTurn, Small.removingTurn]
  constructor
  · have hspares : .called (.deleteClaim "openebs" "bdc-pvc-1") (.ok ()) ∉ Small.removingTurn.events := by
      decide +kernel
    obtain ⟨kept, hkept, hdevice, -⟩ := hstays Small.makingTurn.events Small.removingTurn.events [] _ _ _ _ "disk"
      (by simp [eventsOf]) Small.unfolds_makingTurn (Small.unfolds_turnWithoutDeletes _ _)
      Small.claim_rescriptedCluster (by decide +kernel) hspares
    exact ⟨kept, hkept, hdevice⟩
  · have hread : Small.rescriptedCluster.Unfolds Small.deleteFaults [.called (.getClaim "openebs" "bdc-pvc-1")
        (Small.rescriptedCluster.answer (.getClaim "openebs" "bdc-pvc-1")).1] Small.readCluster :=
      .next (.called .given) .done
    refine ⟨_, Small.claim_writesBoundBack, ?_⟩
    refine hwrites _ Small.writesBoundBack _ (Small.removingTurn.events.drop 2) _ _ ?_
      (Small.unfolds_makingTurn.append hread) .given (fun ns name => nofun) _ _ _ Small.claim_readCluster
      Small.claim_writesBoundBack
    rw [eventsOf_cons, eventsOf_cons, eventsOf_nil, List.append_nil, List.append_assoc]
    exact congrArg _ Small.events_removingTurn

end NodeVolumes
