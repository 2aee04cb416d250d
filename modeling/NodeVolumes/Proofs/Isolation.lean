import NodeVolumes.Proofs.Cluster.Interleaving
import NodeVolumes.Proofs.Disposal
import NodeVolumes.Proofs.Volume.Record

/-! # Isolated volumes

There is no lock between calls of the engine. Calls for different volumes still do not get in each other's
way, since everything that they change bears the name of their volume.

* `EngineCall.IsFor`: a call provisions a volume of a name, or deletes one that has been provisioned.
* `EngineCall.isFor_of_path`: whatever it is answered, such a call only makes calls for its volume.
* `calls_go_as_if_alone`: two calls for different volumes go as they would go alone, in whatever order their
  calls reach the cluster. -/

namespace NodeVolumes

open Cluster (Call Event Memory)
open Cluster.Memory (Agree Interleaved NamesReads NoFaults Obeys SamePods undisturbed)
open Device (claimName)
open Program.Event (calls)

/-! ### Calls for one volume -/

/-- A volume that some provision call has made. -/
def LocalVolume.IsProvisioned (v : LocalVolume) : Prop :=
  ∃ settings request t, (provision settings request).Path t (.ok v)

/-- A call that provisions a volume of a name, or deletes one that has been provisioned. -/
def EngineCall.IsFor (volume : String) : EngineCall → Prop
  | provision request => request.volume = volume
  | delete pv => ∃ v : LocalVolume, v.IsProvisioned ∧ v.name = volume ∧ v.IsWrittenAs pv

theorem LocalVolume.IsProvisioned.claim_eq {v : LocalVolume} (h : v.IsProvisioned) {claim : String}
    (hclaim : v.backing.claim? = some claim) : claim = claimName v.name := by
  obtain ⟨settings, request, t, hpath⟩ := h
  obtain ⟨_, _, _, plan, -, -, -, hmake⟩ := path_provision_ok hpath
  unfold makeVolume at hmake
  split at hmake
  · obtain ⟨_, _, _, _, _, -, -, -, -, -, -, rfl⟩ := HostPath.path_provision_ok hmake
    cases hclaim
  · obtain ⟨affinity, bound, -, -, hbind, rfl⟩ := Device.path_provision_ok hmake
    cases hclaim
    exact (Device.bind_eq_ok hbind).1

/-! ### What a call is about -/

section
variable {settings : Settings} {call : EngineCall} {volume : String} {t : List Event}
  {r : Except Error call.Result}

theorem EngineCall.volume_of_hasTask (hcall : call.IsFor volume) {task : HostPath.HelperTask}
    (htask : call.HasTask task) : task.volume = volume := by
  cases call with
  | provision request => exact htask.1.trans hcall
  | delete pv =>
    obtain ⟨v, -, rfl, hpv⟩ := hcall
    obtain ⟨record, hrecord, hvolume, -, -⟩ := htask
    rw [hvolume, hpv.record_eq hrecord]
    rfl

theorem EngineCall.podName_of_hasTask (hcall : call.IsFor volume) {task : HostPath.HelperTask}
    (htask : call.HasTask task) : task.podName = task.operation.name ++ "-" ++ volume := by
  unfold HostPath.HelperTask.podName
  rw [call.volume_of_hasTask hcall htask]

theorem EngineCall.podKey?_of_path (hcall : call.IsFor volume) (h : (call.program settings).Path t r) :
    ∀ c ∈ calls t, ∀ key, c.podKey? = some key →
      key.ns = settings.ns ∧ ∃ op : HostPath.HelperOperation, key.name = op.name ++ "-" ++ volume := by
  intro c hc key hkey
  obtain ⟨u, v, rfl, hu, hruns⟩ := call.helperRuns_of_path h
  rw [Program.Event.calls_append, List.mem_append] at hc
  rcases hc with hc | hc
  · exact absurd hkey (Call.podKey?_ne_of_isOnPod (hu c hc))
  · obtain ⟨task, htask, hpod⟩ := hruns.podKey?_eq c hc
    rw [hkey] at hpod
    cases hpod
    exact ⟨rfl, task.operation, call.podName_of_hasTask hcall htask⟩

theorem EngineCall.pods_of_isFor {faults : Call → Error → Prop} {m m' : Memory} (hcall : call.IsFor volume)
    (h : (call.program settings).Path t r) (hrun : Memory.Run faults m t m')
    (hdeletes : m.failPodDeletes = false) (hfaults : ∀ ns name e, ¬faults (.deletePod ns name) e)
    (habsent : ∀ op : HostPath.HelperOperation,
      m.pods.get? ⟨settings.ns, op.name ++ "-" ++ volume⟩ = none) : m'.pods = m.pods := by
  refine call.pods_of_path h hrun hdeletes hfaults fun task htask => ?_
  rw [call.podName_of_hasTask hcall htask]
  exact habsent task.operation

/-- If all that is read under a key has its name, there are no calls on other claims, and no listings. -/
def StaysOn (key : ObjectKey) (t : List Event) : Prop :=
  NamesReads key t → ∀ c ∈ calls t, c.isListing = false ∧ ∀ key', c.claimKey? = some key' → key' = key

theorem composable_staysOn (key : ObjectKey) : Attempt.Composable (StaysOn key) where
  nil := fun _ c hc => by cases hc
  append := by
    intro t u ht hu hreads c hc
    rw [Program.Event.calls_append, List.mem_append] at hc
    rcases hc with hc | hc
    · exact ht (fun claim hclaim => hreads claim (List.mem_append_left _ hclaim)) c hc
    · exact hu (fun claim hclaim => hreads claim (List.mem_append_right _ hclaim)) c hc
  silent := by
    intro e he _ c hc
    simp [calls, he] at hc

theorem staysOn_singleton {key : ObjectKey} {c : Call} (hlist : c.isListing = false)
    (hkey : ∀ key', c.claimKey? = some key' → key' = key) (reply : Cluster.Reply c) :
    StaysOn key [.called c reply] := by
  intro _ d hd
  rw [List.mem_singleton.1 hd]
  exact ⟨hlist, hkey⟩

theorem staysOn_of_claimKey?_eq_none {key : ObjectKey} {c : Call} (hlist : c.isListing = false)
    (h : c.claimKey? = none) (reply : Cluster.Reply c) : StaysOn key [.called c reply] :=
  staysOn_singleton hlist (by simp [h]) reply

theorem staysOn_of_isOnPod {key : ObjectKey} {c : Call} (h : c.isOnPod = true)
    (reply : Cluster.Reply c) : StaysOn key [.called c reply] := by
  cases c with
  | createPod ns pod => exact staysOn_of_claimKey?_eq_none rfl rfl reply
  | getPod ns name => exact staysOn_of_claimKey?_eq_none rfl rfl reply
  | deletePod ns name => exact staysOn_of_claimKey?_eq_none rfl rfl reply
  | _ => cases h

theorem staysOn_release (claim : String) :
    (Device.release settings claim).Always (StaysOn ⟨settings.ns, claim⟩) := by
  have hP := composable_staysOn ⟨settings.ns, claim⟩
  refine Device.always_release_of_read hP ?_ ?_ ?_
  · exact staysOn_singleton rfl fun _ hkey => by cases hkey; rfl
  · intro current reply hreads c hc
    have hname : current.metadata.nameD = claim := hreads current (List.mem_cons_self ..)
    rcases List.mem_cons.1 hc with rfl | hc
    · exact ⟨rfl, fun _ hkey => by cases hkey; rfl⟩
    · rw [List.mem_singleton.1 hc]
      refine ⟨rfl, fun key hkey => ?_⟩
      cases hkey
      exact congrArg (ObjectKey.mk settings.ns) hname
  · exact staysOn_singleton rfl fun _ hkey => by cases hkey; rfl

theorem EngineCall.staysOn_of_path (hcall : call.IsFor volume) (h : (call.program settings).Path t r) :
    StaysOn ⟨settings.ns, claimName volume⟩ t := by
  have hP := composable_staysOn ⟨settings.ns, claimName volume⟩
  cases call with
  | provision request =>
    obtain rfl : request.volume = volume := hcall
    refine always_provision hP (fun _ => staysOn_of_claimKey?_eq_none rfl rfl) (fun _ r hpod =>
      staysOn_of_isOnPod hpod r) (fun plan => ?_) h
    apply Device.always_provision hP
    · exact staysOn_singleton rfl fun _ hkey => by cases hkey; rfl
    · exact fun _ => staysOn_singleton rfl fun _ hkey => by cases hkey; rfl
    · exact staysOn_release _
    · exact fun _ => staysOn_of_claimKey?_eq_none rfl rfl
  | delete pv =>
    obtain ⟨v, hv, rfl, hpv⟩ := hcall
    refine always_delete hP (fun _ => staysOn_of_claimKey?_eq_none rfl rfl) (fun _ r hpod =>
      staysOn_of_isOnPod hpod r) (fun record claim hrecord hclaim => ?_) h
    rw [hpv.record_eq hrecord] at hclaim
    have hbacking := (Option.filter_eq_some_iff.1 hclaim).1
    rw [← hv.claim_eq hbacking]
    exact staysOn_release claim

/-- A call for a volume only makes calls for it. -/
theorem EngineCall.isFor_of_path (hcall : call.IsFor volume) (h : (call.program settings).Path t r)
    (hreads : NamesReads ⟨settings.ns, claimName volume⟩ t) :
    ∀ c ∈ calls t, c.IsFor settings.ns volume := by
  intro c hc
  obtain ⟨hlist, hclaim⟩ := call.staysOn_of_path hcall h hreads c hc
  exact ⟨call.podKey?_of_path hcall h c hc, hclaim, hlist⟩

end

/-! ### Two calls -/

/-- A call has gone, in a cluster that is shared with others, as it goes alone. It has been answered the
same, has made the same calls and has come to the same result, and it has left the same helper pods and the
same claim of its volume. -/
structure GoesAsAlone (m : Memory) (settings : Settings) (call : EngineCall) (volume : String)
    (patience : Option Nat) (t : List Event) (r : Except Error call.Result) (m' : Memory) : Prop where
  events : t = undisturbed.trace (call.program settings) (m, patience)
  result : r = (undisturbed.run (call.program settings) (m, patience)).1
  pods : SamePods volume (undisturbed.run (call.program settings) (m, patience)).2.1 m'
  claims : ∀ ns, m'.claims.get? ⟨ns, claimName volume⟩ =
    (undisturbed.run (call.program settings) (m, patience)).2.1.claims.get? ⟨ns, claimName volume⟩

theorem goesAsAlone_of_interleaved {m m' : Memory} (hm : m.Made) {settings settings' : Settings}
    {call call' : EngineCall} {volume volume' : String} (hcall : call.IsFor volume)
    (hcall' : call'.IsFor volume') (hne : volume ≠ volume') {t t' : List Event}
    {r : Except Error call.Result} {r' : Except Error call'.Result} {patience : Option Nat}
    (hpath : (call.program settings).Path t r) (hwaits : Obeys patience t)
    (hpath' : (call'.program settings').Path t' r') (h : Interleaved NoFaults m t t' m') :
    GoesAsAlone m settings call volume patience t r m' := by
  have hfor := call.isFor_of_path hcall hpath (h.namesReads (hm.namedAt _))
  have hfor' := call'.isFor_of_path hcall' hpath' (h.swap.namesReads (hm.namedAt _))
  obtain ⟨n, halone, hagree⟩ := h.exists_plays hfor hfor' hne (.refl volume m)
  obtain ⟨ht, hr, rfl⟩ := halone.eq_undisturbed hpath hwaits
  exact ⟨ht, hr, hagree.symm.pods, hagree.symm.claims⟩

/-- Volumes do not interfere.

Two calls for volumes of different names, each with its own cancellation, go as they go alone, in whatever
order their calls reach the cluster. -/
theorem calls_go_as_if_alone {m m' : Memory} (hm : m.Made) {settings settings' : Settings}
    {call call' : EngineCall} {volume volume' : String} (hcall : call.IsFor volume)
    (hcall' : call'.IsFor volume') (hne : volume ≠ volume') {patience patience' : Option Nat}
    {t t' : List Event} {r : Except Error call.Result} {r' : Except Error call'.Result}
    (hpath : (call.program settings).Path t r) (hwaits : Obeys patience t)
    (hpath' : (call'.program settings').Path t' r') (hwaits' : Obeys patience' t')
    (h : Interleaved NoFaults m t t' m') :
    GoesAsAlone m settings call volume patience t r m' ∧
      GoesAsAlone m settings' call' volume' patience' t' r' m' :=
  ⟨goesAsAlone_of_interleaved hm hcall hcall' hne hpath hwaits hpath' h,
    goesAsAlone_of_interleaved hm hcall' hcall hne.symm hpath' hwaits' hpath h.swap⟩

namespace Small

/-- A request for another volume. -/
def otherRequest : ProvisionRequest := { request "node-2" with volume := "pvc-2" }

/-- The volume that the request for the first node leads to. -/
def directoryVolume : LocalVolume where
  name := "pvc-1"
  backing := .hostPath "/var/openebs/local/pvc-1"
  nodeAffinity := KeyMap.singleton hostnameLabel "node-1"
  capacity := some "1Gi"
  accessModes := []
  reclaimPolicy := deletePolicy
  volumeMode := filesystemMode
  storageClass := some "local"

theorem isProvisioned_directoryVolume : directoryVolume.IsProvisioned := by
  have hresult : (undisturbed.run (provision settings (request "node-1")) (cluster "", none)).1 =
      .ok directoryVolume := by decide +kernel
  exact ⟨_, _, _, World.path_of_run hresult⟩

end Small

/-- While a call waits for a device for one volume, until it is cancelled, another call removes the
directory of another volume. -/
theorem calls_go_as_if_alone_small :
    let m := Small.cluster Small.deviceLayer
    let waiting := provision Small.settings Small.otherRequest
    let removing := delete Small.settings Small.directoryVolume.toPersistentVolume
    let mixture := Memory.mix [true, false, true, false, true, false] waiting (some 2) removing none m
    mixture.1 = undisturbed.trace waiting (m, some 2) ∧
      mixture.2.1 = undisturbed.trace removing (m, none) := by
  intro m waiting removing mixture
  have hmixed := Memory.interleaved_mix [true, false, true, false, true, false] waiting (some 2) removing
    none m
  have hm : m.Made := .changed .empty rfl
  change ∃ a b, waiting.Path mixture.1 a ∧ Obeys (some 2) mixture.1 ∧
    removing.Path mixture.2.1 b ∧ Obeys none mixture.2.1 ∧
    Interleaved NoFaults m mixture.1 mixture.2.1 mixture.2.2 at hmixed
  clear_value mixture m
  obtain ⟨r, r', hpath, hwaits, hpath', hwaits', hmixed⟩ := hmixed
  have hfirst : (EngineCall.provision Small.otherRequest).IsFor "pvc-2" := rfl
  have hsecond : (EngineCall.delete Small.directoryVolume.toPersistentVolume).IsFor "pvc-1" :=
    ⟨_, Small.isProvisioned_directoryVolume, rfl, .plain⟩
  have hpath : ((EngineCall.provision Small.otherRequest).program Small.settings).Path mixture.1 r := hpath
  have hpath' : ((EngineCall.delete Small.directoryVolume.toPersistentVolume).program
    Small.settings).Path mixture.2.1 r' := hpath'
  have halone := calls_go_as_if_alone hm hfirst hsecond (by decide) hpath hwaits hpath' hwaits' hmixed
  exact ⟨halone.1.events, halone.2.events⟩

end NodeVolumes
