import Mathlib.Data.List.Forall2
import NodeVolumes.Proofs.Isolation

/-! # Removal of what has been made

All that a delete call knows of the provision call before it is the persistent volume. This is enough to
undo what has been done for the volume: its helper pods work in one directory of one node from the first to
the last one, and its claim is found again.

* `HostPath.WorksIn`: a pod does its work in one directory.
* `HostPath.worksIn_of_provision` and `HostPath.worksIn_of_delete`: the pods of both calls.
* `delete_undoes_provision`: after both calls, pods and claims are as they were before. -/

namespace NodeVolumes

open Cluster (Call Event Memory)
open Cluster.Memory (NamesReads NoFaults undisturbed)
open Device (claimName)
open Program.Event (calls)
open Attempt (Path)
open HostPath (HelperOperation SparesClaims SparesPods composable_sparesClaims)

/-! ### The pods that are asked for -/

/-- The pod that a call asks to create, if it does. -/
def Cluster.Call.askedPod? : Call → Option Pod
  | createPod _ pod => some pod
  | _ => none

/-- The pods that calls ask to create, in turn. -/
def askedPods (t : List Event) : List Pod := (calls t).filterMap (·.askedPod?)

theorem askedPods_append (t u : List Event) : askedPods (t ++ u) = askedPods t ++ askedPods u := by
  unfold askedPods
  rw [Program.Event.calls_append, List.filterMap_append]

theorem askedPods_of_calls {t : List Event} (h : calls t = []) : askedPods t = [] := by
  unfold askedPods
  rw [h]
  rfl

theorem askedPods_of_sparesPods {t : List Event} (h : SparesPods t) : askedPods t = [] := by
  refine List.filterMap_eq_nil_iff.2 fun c hc => ?_
  have hspares := h c hc
  cases c with
  | createPod ns pod => cases hspares
  | _ => rfl

namespace VolumeConfig

theorem isSome_quotaGrace? (config : VolumeConfig) :
    config.quotaGrace?.isSome = (config.enabled xfsQuotaKey || config.enabled ext4QuotaKey) := by
  unfold quotaGrace? quotaKey?
  rw [Option.isSome_map]
  cases hxfs : config.enabled xfsQuotaKey with
  | true => simp [hxfs]
  | false =>
    cases hext4 : config.enabled ext4QuotaKey with
    | true => simp [hxfs, hext4]
    | false => simp [hxfs, hext4]

theorem path_eq_ok {config : VolumeConfig} {path : String} (h : config.path = .ok path) :
    path = HostPath.ofSteps (HostPath.steps path) := by
  unfold VolumeConfig.path at h
  split at h
  · cases h
  · exact HostPath.buildPath_eq_ok h

end VolumeConfig

namespace HostPath

variable {settings : Settings} {t : List Event}

theorem askedPods_of_runHelper {task : HelperTask} (h : Path (runHelper settings task) t (.ok ())) :
    ∃ pod, task.pod settings = .ok pod ∧ askedPods t = [pod] := by
  generalize hr : (Except.ok () : Except Error Unit) = r at h
  cases runShape_of_path h with
  | refused _ => cases hr
  | rejected _ _ => cases hr
  | @ran pod reply looks told deleted _ hpod _ hlooks htold =>
    obtain ⟨count, -, hcalls⟩ := calls_awaitPod hlooks
    have hnone : (calls looks).filterMap (·.askedPod?) = [] := by
      rw [hcalls, List.filterMap_eq_nil_iff]
      intro c hc
      rw [List.eq_of_mem_replicate hc]
      rfl
    refine ⟨pod, hpod, ?_⟩
    unfold askedPods
    rw [Program.Event.calls_called_cons, Program.Event.calls_append, Program.Event.calls_called_cons,
      htold, List.filterMap_cons, List.filterMap_append, hnone]
    rfl

/-! ### Work in one directory -/

/-- A pod does one operation of a volume on the directory `leaf` below `parent`, on the nodes with some
labels. -/
structure WorksIn (volume parent leaf : String) (labels : TextMap) (op : HelperOperation) (pod : Pod) :
    Prop where
  name : pod.metadata.name = some (op.name ++ "-" ++ volume)
  dataDir : pod.hostDirs "data" = [parent]
  dataMount : pod.mountPaths "data" = [dataMount]
  command : ∃ command, pod.commands = [command] ∧ op.command leaf = .ok command ∧
    namedDirs command = List.replicate op.uses (HostPath.dataMount ++ leaf)
  nodes : pod.requiredNodes? = some (NodeSelector.ofLabels labels)

theorem HelperTask.worksIn_of_pod_eq_ok {task : HelperTask} {pod : Pod} (h : task.pod settings = .ok pod) :
    ∃ parent leaf, splitForMount task.path = .ok (parent, leaf) ∧
      WorksIn task.volume parent leaf task.nodeAffinity task.operation pod := by
  obtain ⟨-, parent, leaf, command, hsplit, hcommand, hmeta, hdirs, hmounts, hcommands, hnodes⟩ :=
    HelperTask.pod_eq_ok h
  refine ⟨parent, leaf, hsplit, ?_, hdirs, hmounts, ⟨command, hcommands, hcommand, ?_⟩, hnodes⟩
  · rw [hmeta]
    rfl
  · exact (namedDirs_command hcommand).2

theorem worksIn_of_runHelper {task : HelperTask} (h : Path (runHelper settings task) t (.ok ()))
    {path parent leaf : String} (hpath : task.path = path)
    (hsplit : splitForMount path = .ok (parent, leaf)) :
    List.Forall₂ (WorksIn task.volume parent leaf task.nodeAffinity) [task.operation] (askedPods t) := by
  subst hpath
  obtain ⟨pod, hpod, hasked⟩ := askedPods_of_runHelper h
  obtain ⟨parent', leaf', hsplit', hworks⟩ := task.worksIn_of_pod_eq_ok hpod
  rw [hsplit] at hsplit'
  cases hsplit'
  rw [hasked]
  exact .cons hworks .nil

/-! ### Making a directory -/

variable {request : ProvisionRequest}

theorem path_applyQuota?_ok {made : HelperTask} {grace : Option QuotaGrace}
    (h : Path (applyQuota? settings request made grace) t (.ok ())) :
    (grace = none ∧ t = []) ∨ ∃ limits, grace.isSome = true ∧
      Path (runHelper settings { made with operation := .quota limits }) t (.ok ()) := by
  cases grace with
  | none => exact .inl ⟨rfl, (Attempt.path_pure_iff.1 h).1⟩
  | some grace =>
    refine .inr ?_
    unfold applyQuota? applyQuota at h
    rcases Attempt.path_check_bind_iff.1 h with ⟨e, -, -, he⟩ | ⟨limits, -, h₁⟩
    · cases he
    obtain ⟨u, v, outcome, rfl, hrun, h₂⟩ := Attempt.path_outcome_bind_iff.1 h₁
    cases outcome with
    | ok a =>
      obtain ⟨rfl, -⟩ := Attempt.path_pure_iff.1 h₂
      rw [List.append_nil]
      exact ⟨limits, rfl, hrun⟩
    | error e =>
      obtain ⟨w, rfl, h₃⟩ := Attempt.path_warn_bind_iff.1 h₂
      cases (Attempt.path_throw_iff.1 h₃).2

/-- The pods for a directory work in it: one makes it, and another one limits it if a quota is switched on.
-/
theorem worksIn_of_provision {plan : Plan} {made : LocalVolume}
    (h : Path (provision settings request plan) t (.ok made)) :
    ∃ path parent leaf ops, made.backing = .hostPath path ∧ path = parent ++ "/" ++ leaf ∧
      splitForMount path = .ok (parent, leaf) ∧
      ops.map (·.name) = "init" :: (if plan.config.enabled xfsQuotaKey || plan.config.enabled ext4QuotaKey
        then ["quota"] else []) ∧
      List.Forall₂ (WorksIn request.volume parent leaf made.nodeAffinity) ops (askedPods t) := by
  obtain ⟨affinity, path, mode, u, v, -, hpath, -, rfl, hinit, hquota, rfl⟩ := path_provision_ok h
  obtain ⟨pod, hpod, -⟩ := askedPods_of_runHelper hinit
  obtain ⟨parent, leaf, hsplit, -⟩ := HelperTask.worksIn_of_pod_eq_ok hpod
  have hnormal : path = parent ++ "/" ++ leaf :=
    eq_append_of_splitForMount (VolumeConfig.path_eq_ok hpath) hsplit
  have hfirst : List.Forall₂ (WorksIn request.volume parent leaf affinity) [.init mode] (askedPods u) :=
    worksIn_of_runHelper hinit rfl hsplit
  rw [askedPods_append, ← VolumeConfig.isSome_quotaGrace?]
  rcases path_applyQuota?_ok hquota with ⟨hnone, rfl⟩ | ⟨limits, hsome, hrun⟩
  · refine ⟨path, parent, leaf, [.init mode], rfl, hnormal, hsplit, ?_, ?_⟩
    · rw [hnone]
      rfl
    · rw [askedPods_of_calls Program.Event.calls_nil, List.append_nil]
      exact hfirst
  · refine ⟨path, parent, leaf, [.init mode, .quota limits], rfl, hnormal, hsplit, ?_, ?_⟩
    · rw [hsome]
      rfl
    · have hsecond : List.Forall₂ (WorksIn request.volume parent leaf affinity) [.quota limits]
          (askedPods v) := worksIn_of_runHelper hrun rfl hsplit
      exact List.rel_append hfirst hsecond

/-- The pod that removes a directory works in it. -/
theorem worksIn_of_delete {record : VolumeRecord} {path parent leaf : String}
    (hpath : record.path = some path) (hsplit : splitForMount path = .ok (parent, leaf))
    (h : Path (delete settings record) t (.ok ())) :
    List.Forall₂ (WorksIn record.name parent leaf record.nodeAffinity) [.cleanup] (askedPods t) := by
  obtain ⟨path', node, u, v, hpath', rfl, hfind, hrun⟩ := path_delete_ok h
  obtain rfl : path' = path := Option.some.inj (hpath'.symm.trans hpath)
  rw [askedPods_append, askedPods_of_sparesPods (sparesPods_findNode _ _ _ hfind), List.nil_append]
  exact worksIn_of_runHelper hrun rfl hsplit

end HostPath

/-! ### Both calls -/

section
variable {settings : Settings} {request : ProvisionRequest} {v : LocalVolume} {pv : PersistentVolume}
  {t t₁ t₂ : List Event} {path : String}

theorem path_delete_of_isWrittenAs (hpolicy : v.reclaimPolicy ≠ retainPolicy) (hpv : v.IsWrittenAs pv)
    (h : (delete settings pv).Path t (.ok ())) :
    ∃ u w, t = u ++ w ∧ calls w = [] ∧ (removeVolume settings v.record).Path u (.ok ()) := by
  obtain ⟨record, hrecord, hremoved⟩ := path_delete_ok h
  obtain rfl := hpv.record_eq hrecord
  rcases hremoved with hretained | hremoved
  · exact absurd (of_decide_eq_true hretained) hpolicy
  · exact hremoved

theorem path_provision_of_hostPath (h : (provision settings request).Path t (.ok v))
    (hpath : v.backing = .hostPath path) :
    ∃ name cls plan u w, t = .called (.getStorageClass name) (.ok cls) :: (u ++ w) ∧ calls w = [] ∧
      planFor settings request cls = .ok plan ∧ Path (HostPath.provision settings request plan) u (.ok v) := by
  obtain ⟨u, x, w, plan, rfl, hw, hplan, hmake⟩ := path_provision_ok h
  obtain ⟨-, name, cls, -, rfl, hplanned⟩ := path_planVolume_ok hplan
  refine ⟨name, cls, plan, x, w, rfl, hw, hplanned, ?_⟩
  unfold makeVolume at hmake
  split at hmake
  · exact hmake
  · obtain ⟨_, _, -, -, -, rfl⟩ := Device.path_provision_ok hmake
    cases hpath

theorem path_delete_of_hostPath (hpolicy : v.reclaimPolicy ≠ retainPolicy) (hpv : v.IsWrittenAs pv)
    (h : (delete settings pv).Path t (.ok ())) (hpath : v.backing = .hostPath path) :
    ∃ u w, t = u ++ w ∧ calls w = [] ∧ Path (HostPath.delete settings v.record) u (.ok ()) := by
  obtain ⟨u, w, rfl, hw, hremove⟩ := path_delete_of_isWrittenAs hpolicy hpv h
  have hkind : v.record.kind = .hostPath := congrArg Backing.kind hpath
  unfold removeVolume at hremove
  rw [hkind] at hremove
  exact ⟨u, w, rfl, hw, hremove⟩

theorem sparesClaims_of_hostPath (hmade : (provision settings request).Path t₁ (.ok v))
    (hpolicy : v.reclaimPolicy ≠ retainPolicy) (hpv : v.IsWrittenAs pv)
    (hremoved : (delete settings pv).Path t₂ (.ok ())) (hpath : v.backing = .hostPath path) :
    SparesClaims (t₁ ++ t₂) := by
  have hP := composable_sparesClaims
  obtain ⟨name, cls, plan, u, w, rfl, hw, -, hmake⟩ := path_provision_of_hostPath hmade hpath
  obtain ⟨x, y, rfl, hy, hremove⟩ := path_delete_of_hostPath hpolicy hpv hremoved hpath
  have hclass : SparesClaims [.called (.getStorageClass name) (.ok cls)] :=
    HostPath.sparesClaims_singleton rfl _
  have hfirst : SparesClaims (u ++ w) :=
    hP.append (HostPath.sparesClaims_provision _ _ hmake) (hP.of_calls_eq_nil hw)
  have hsecond : SparesClaims (x ++ y) :=
    hP.append (HostPath.sparesClaims_delete _ _ hremove) (hP.of_calls_eq_nil hy)
  exact hP.append (hP.append hclass hfirst) hsecond

theorem worksIn_of_hostPath (hmade : (provision settings request).Path t₁ (.ok v))
    (hpolicy : v.reclaimPolicy ≠ retainPolicy) (hpv : v.IsWrittenAs pv)
    (hremoved : (delete settings pv).Path t₂ (.ok ())) (hpath : v.backing = .hostPath path) :
    ∃ name cls config parent leaf ops, .called (.getStorageClass name) (.ok cls) ∈ t₁ ∧
      VolumeConfig.resolve request.volume settings.defaultLayer (configLayer cls.metadata)
        (configLayer request.claim.metadata) = .ok config ∧
      path = parent ++ "/" ++ leaf ∧
      ops.map (·.name) = "init" :: (if config.enabled xfsQuotaKey || config.enabled ext4QuotaKey
        then ["quota"] else []) ++ ["cleanup"] ∧
      List.Forall₂ (HostPath.WorksIn request.volume parent leaf v.nodeAffinity) ops
        (askedPods (t₁ ++ t₂)) := by
  have hname : v.name = request.volume := name_of_provision hmade
  obtain ⟨name, cls, plan, u, w, rfl, hw, hplan, hmake⟩ := path_provision_of_hostPath hmade hpath
  obtain ⟨x, y, rfl, hy, hremove⟩ := path_delete_of_hostPath hpolicy hpv hremoved hpath
  obtain ⟨path', parent, leaf, ops, hpath', hparts, hsplit, hops, hworks⟩ :=
    HostPath.worksIn_of_provision hmake
  obtain rfl : path' = path := Backing.hostPath.inj (hpath'.symm.trans hpath)
  have hrecord : v.record.path = some path' := by
    obtain ⟨found, _, _, _, hfound, -⟩ := HostPath.path_delete_ok hremove
    have hfilter : (some v.backing.path).filter (· ≠ "") = some found := hfound
    obtain rfl : v.backing.path = found := Option.some.inj (Option.filter_eq_some_iff.1 hfilter).1
    rw [hfound, hpath]
    rfl
  have hcleanup : List.Forall₂ (HostPath.WorksIn request.volume parent leaf v.nodeAffinity) [.cleanup]
      (askedPods x) := by
    rw [← hname]
    exact HostPath.worksIn_of_delete hrecord hsplit hremove
  have hasked : askedPods ((.called (.getStorageClass name) (.ok cls) :: (u ++ w)) ++ (x ++ y)) =
      askedPods u ++ askedPods x := by
    have hclass : askedPods [.called (.getStorageClass name) (.ok cls)] = [] := rfl
    rw [← List.singleton_append, askedPods_append, askedPods_append, askedPods_append, askedPods_append,
      hclass, askedPods_of_calls hw, askedPods_of_calls hy, List.append_nil, List.append_nil,
      List.nil_append]
  have hconfig := planFor_eq_ok hplan
  refine ⟨name, cls, plan.config, parent, leaf, ops ++ [.cleanup], List.mem_cons_self .., hconfig, hparts,
    ?_, ?_⟩
  · rw [List.map_append, hops]
    rfl
  · rw [hasked]
    exact List.rel_append hworks hcleanup

theorem get?_claims_of_delete {m m' : Memory} {claim : String} (hpolicy : v.reclaimPolicy ≠ retainPolicy)
    (hpv : v.IsWrittenAs pv) (h : (delete settings pv).Path t (.ok ())) (hrun : Memory.Run NoFaults m t m')
    (hkind : v.backing.kind = .device) (hclaim : v.backing.claim? = some claim) (hne : claim ≠ "") :
    m'.claims.get? ⟨settings.ns, claim⟩ = none := by
  obtain ⟨u, w, rfl, hw, hremove⟩ := path_delete_of_isWrittenAs hpolicy hpv h
  have hrecordKind : v.record.kind = .device := hkind
  have hrecordClaim : v.record.claimName = some claim := by
    unfold LocalVolume.record
    simp [hclaim, hne]
  unfold removeVolume at hremove
  rw [hrecordKind] at hremove
  dsimp only at hremove
  unfold Device.delete at hremove
  rw [hrecordClaim] at hremove
  obtain ⟨m₁, hreleased, hrest⟩ := hrun.of_append
  rw [hrest.claims_of_calls (by simp [hw])]
  exact Device.get?_claims_of_release hremove hreleased (fun _ => id) fun _ => id

theorem claims_of_isFor {m m' : Memory} {ns volume : String} (hrun : Memory.Run NoFaults m t m')
    (hfor : ∀ c ∈ calls t, c.IsFor ns volume) (hbefore : m.claims.get? ⟨ns, claimName volume⟩ = none)
    (hafter : m'.claims.get? ⟨ns, claimName volume⟩ = none) : m'.claims = m.claims := by
  apply KeyMap.ext_get?
  intro key
  by_cases hkey : key = ⟨ns, claimName volume⟩
  · rw [hkey, hafter, hbefore]
  · exact hrun.get?_claims_of_ne fun c hc hclaim => hkey ((hfor c hc).claim key hclaim)

end

/-- A delete call undoes a provision call.

A volume is made on a cluster in memory where no call fails, pods can be deleted, and there are no helper
pods and no claim for the volume. When it is not to be retained and is deleted by the persistent volume for
it, tied to its claim or not, all pods and claims are as they were before. For a volume in a directory, the
pods that the two calls have asked for have made the directory, limited it if a quota is switched on, and
removed it, in this order, in the same place on the same nodes. -/
theorem delete_undoes_provision {m₀ m₁ m₂ : Memory} {settings : Settings} {request : ProvisionRequest}
    (hdeletes : m₀.failPodDeletes = false)
    (hpods : ∀ op : HelperOperation, m₀.pods.get? ⟨settings.ns, op.name ++ "-" ++ request.volume⟩ = none)
    (hclaims : m₀.claims.get? ⟨settings.ns, claimName request.volume⟩ = none)
    {t₁ t₂ : List Event} {v : LocalVolume} (hmade : (provision settings request).Path t₁ (.ok v))
    (hrun₁ : Memory.Run NoFaults m₀ t₁ m₁) (hpolicy : v.reclaimPolicy ≠ retainPolicy)
    {pv : PersistentVolume} (hpv : v.IsWrittenAs pv) (hremoved : (delete settings pv).Path t₂ (.ok ()))
    (hrun₂ : Memory.Run NoFaults m₁ t₂ m₂) :
    m₂.pods = m₀.pods ∧ m₂.claims = m₀.claims ∧
      ∀ path, v.backing = .hostPath path → ∃ name cls config parent leaf ops,
        .called (.getStorageClass name) (.ok cls) ∈ t₁ ∧
        VolumeConfig.resolve request.volume settings.defaultLayer (configLayer cls.metadata)
          (configLayer request.claim.metadata) = .ok config ∧
        path = parent ++ "/" ++ leaf ∧
        ops.map (·.name) = "init" :: (if config.enabled xfsQuotaKey || config.enabled ext4QuotaKey
          then ["quota"] else []) ++ ["cleanup"] ∧
        List.Forall₂ (HostPath.WorksIn request.volume parent leaf v.nodeAffinity) ops
          (askedPods (t₁ ++ t₂)) := by
  have hname : v.name = request.volume := name_of_provision hmade
  have hprovisioned : v.IsProvisioned := ⟨settings, request, t₁, hmade⟩
  let made : EngineCall := .provision request
  let removed : EngineCall := .delete pv
  have hmadeFor : made.IsFor request.volume := rfl
  have hremovedFor : removed.IsFor request.volume := ⟨v, hprovisioned, hname, hpv⟩
  have hpods₁ : m₁.pods = m₀.pods := made.pods_of_isFor hmadeFor hmade hrun₁ hdeletes (fun _ _ _ => id) hpods
  have hpods₂ : m₂.pods = m₁.pods := by
    refine removed.pods_of_isFor hremovedFor hremoved hrun₂ (hrun₁.failPodDeletes.trans hdeletes)
      (fun _ _ _ => id) ?_
    rw [hpods₁]
    exact hpods
  have hrun : Memory.Run NoFaults m₀ (t₁ ++ t₂) m₂ := hrun₁.append hrun₂
  refine ⟨hpods₂.trans hpods₁, ?_, fun path hpath => ?_⟩
  · cases hbacking : v.backing with
    | hostPath path =>
      exact hrun.claims_of_calls (sparesClaims_of_hostPath hmade hpolicy hpv hremoved hbacking)
    | device path fsType claim =>
      obtain rfl : claim = claimName request.volume := by
        rw [← hname]
        exact hprovisioned.claim_eq (congrArg Backing.claim? hbacking)
      have hreads : NamesReads ⟨settings.ns, claimName request.volume⟩ (t₁ ++ t₂) :=
        hrun.namesReads (by simp [Memory.NamedAt, hclaims])
      have hfor : ∀ c ∈ calls (t₁ ++ t₂), c.IsFor settings.ns request.volume := by
        intro c hc
        rw [Program.Event.calls_append, List.mem_append] at hc
        rcases hc with hc | hc
        · exact made.isFor_of_path hmadeFor hmade
            (fun claim hclaim => hreads claim (List.mem_append_left _ hclaim)) c hc
        · exact removed.isFor_of_path hremovedFor hremoved
            (fun claim hclaim => hreads claim (List.mem_append_right _ hclaim)) c hc
      have hgone : m₂.claims.get? ⟨settings.ns, claimName request.volume⟩ = none :=
        get?_claims_of_delete hpolicy hpv hremoved hrun₂ (congrArg Backing.kind hbacking)
          (congrArg Backing.claim? hbacking) (by simp [claimName])
      exact claims_of_isFor hrun hfor hclaims hgone
  · exact worksIn_of_hostPath hmade hpolicy hpv hremoved hpath

namespace Small

/-- A cluster whose class switches a quota on. -/
def quotaCluster : Memory := cluster "- name: XFSQuota\n  enabled: \"true\"\n"

/-- The provision call for the first node. -/
def makeDirectory : Engine (Except Error LocalVolume) := provision settings (request "node-1")

/-- The delete call for the volume that it makes. -/
def removeDirectory : Engine (Except Error Unit) := delete settings directoryVolume.toPersistentVolume

/-- The cluster with the volume. -/
def limitedCluster : Memory := (undisturbed.run makeDirectory (quotaCluster, none)).2.1

/-- What happens when the volume is made. -/
def makingEvents : List Event := undisturbed.trace makeDirectory (quotaCluster, none)

/-- What happens when the volume is removed again. -/
def removingEvents : List Event := undisturbed.trace removeDirectory (limitedCluster, none)

/-- The cluster without the volume. -/
def clearedCluster : Memory := (undisturbed.run removeDirectory (limitedCluster, none)).2.1

theorem path_makingEvents : makeDirectory.Path makingEvents (.ok directoryVolume) := by
  have hresult : (undisturbed.run makeDirectory (quotaCluster, none)).1 = .ok directoryVolume := by
    decide +kernel
  exact World.path_of_run hresult

theorem path_removingEvents : removeDirectory.Path removingEvents (.ok ()) := by
  have hresult : (undisturbed.run removeDirectory (limitedCluster, none)).1 = .ok () := by decide +kernel
  exact World.path_of_run hresult

end Small

/-- A directory with a quota is made, limited and removed. -/
theorem delete_undoes_provision_quota :
    Small.clearedCluster.pods = Small.quotaCluster.pods ∧
      Small.clearedCluster.claims = Small.quotaCluster.claims ∧
      ∃ parent leaf ops, "/var/openebs/local/pvc-1" = parent ++ "/" ++ leaf ∧
        List.Forall₂ (HostPath.WorksIn "pvc-1" parent leaf (KeyMap.singleton hostnameLabel "node-1")) ops
          (askedPods (Small.makingEvents ++ Small.removingEvents)) := by
  have hpods : ∀ op : HelperOperation,
      Small.quotaCluster.pods.get? ⟨Small.settings.ns, op.name ++ "-" ++ "pvc-1"⟩ = none := fun _ => rfl
  have hmade : Memory.Run NoFaults Small.quotaCluster Small.makingEvents Small.limitedCluster :=
    (Memory.plays_undisturbed Small.makeDirectory Small.quotaCluster none).run
  have hremoved : Memory.Run NoFaults Small.limitedCluster Small.removingEvents Small.clearedCluster :=
    (Memory.plays_undisturbed Small.removeDirectory Small.limitedCluster none).run
  obtain ⟨hpods, hclaims, hworks⟩ := delete_undoes_provision rfl hpods rfl Small.path_makingEvents hmade
    (by decide) .plain Small.path_removingEvents hremoved
  obtain ⟨-, -, -, parent, leaf, ops, -, -, hparts, -, hworks⟩ := hworks _ rfl
  exact ⟨hpods, hclaims, parent, leaf, ops, hparts, hworks⟩

end NodeVolumes
