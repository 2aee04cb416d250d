import NodeVolumes.Controller.Parked
import NodeVolumes.Proofs.Failure

/-! # Parked claims

A claim is parked when it fails with an error that is said to clear only by a change to the claim. What such
an error rests on is the claim, the configuration layer of its storage class and whether the chosen node has
a host name; as long as these are the same, the claim fails again.

* `prepare_of_other_node`: what is decided before anything is made is decided alike for every node with a
  host name.
* `parked_claim_fails_again`: a claim that is parked fails again where layer and host name are as before.
* `not_parked_claim_fails_again`: it may succeed when the layer of its class has been mended. -/

namespace NodeVolumes

open Cluster (Call Event)
open Controller (Parked)

namespace KeyMap

variable {κ α : Type} [Ord κ] [Std.TransOrd κ] [Std.LawfulEqOrd κ]

theorem isEmpty_insert (m : KeyMap κ α) (k : κ) (v : α) : (m.insert k v).isEmpty = false := by
  have hentries : ∀ l : List (κ × α), (insertEntry k v l).isEmpty = false := by
    intro l
    cases l with
    | nil => rfl
    | cons e rest =>
      unfold insertEntry
      split <;> rfl
  exact hentries m.entries

theorem isEmpty_foldl_insert (l : List (κ × α)) (m : KeyMap κ α) :
    (l.foldl (fun m e => m.insert e.1 e.2) m).isEmpty = (m.isEmpty && l.isEmpty) := by
  induction l generalizing m with
  | nil => simp
  | cons e rest ih =>
    rw [List.foldl_cons, ih, isEmpty_insert]
    simp

theorem isEmpty_ofList (l : List (κ × α)) : (ofList l).isEmpty = l.isEmpty := by
  unfold ofList
  rw [isEmpty_foldl_insert]
  rfl

end KeyMap

section
variable {settings : Settings} {volume : String} {claim : PersistentVolumeClaim} {node node' : Option Node}
  {cls cls' : StorageClass}

/-! ### What the node decides -/

/-- There are labels to pin a volume by on every node; how many there are does not depend on the node. -/
theorem affinityLabels_of_other_node {keys : Option (List String)} {labels : TextMap}
    (h : ProvisionRequest.affinityLabels ⟨volume, claim, node'⟩ keys = .ok labels)
    (hnode : node.isSome = true) :
    ∃ own, ProvisionRequest.affinityLabels ⟨volume, claim, node⟩ keys = .ok own ∧
      own.isEmpty = labels.isEmpty := by
  obtain ⟨n, rfl⟩ := Option.isSome_iff_exists.1 hnode
  cases node' with
  | none => cases h
  | some n' =>
    cases h
    refine ⟨_, rfl, ?_⟩
    rw [KeyMap.isEmpty_ofList, KeyMap.isEmpty_ofList]
    simp

theorem isSome_of_hostname (h : ProvisionRequest.hostname ⟨volume, claim, node⟩ ≠ "") :
    node.isSome = true := by
  cases node with
  | none => exact absurd rfl h
  | some n => rfl

theorem checkedClass_of_other_node {name : String}
    (h : ProvisionRequest.checkedClass ⟨volume, claim, node'⟩ = .ok name)
    (hhost : ProvisionRequest.hostname ⟨volume, claim, node⟩ ≠ "") :
    ProvisionRequest.checkedClass ⟨volume, claim, node⟩ = .ok name := by
  obtain ⟨⟨⟩, hcheck, hclass⟩ := except_bind_eq_ok_iff.1 h
  obtain ⟨⟨⟩, hclaim, -⟩ := except_bind_eq_ok_iff.1 hcheck
  have hnode : ProvisionRequest.checkNode ⟨volume, claim, node⟩ = .ok () := by
    obtain ⟨n, rfl⟩ := Option.isSome_iff_exists.1 (isSome_of_hostname hhost)
    exact if_neg hhost
  refine except_bind_eq_ok_iff.2 ⟨(), ?_, hclass⟩
  exact except_bind_eq_ok_iff.2 ⟨(), hclaim, hnode⟩

theorem hostname_of_checkedClass {name : String}
    (h : ProvisionRequest.checkedClass ⟨volume, claim, node⟩ = .ok name) :
    ProvisionRequest.hostname ⟨volume, claim, node⟩ ≠ "" := by
  obtain ⟨⟨⟩, hcheck, -⟩ := except_bind_eq_ok_iff.1 h
  obtain ⟨⟨⟩, -, hnode⟩ := except_bind_eq_ok_iff.1 hcheck
  cases node with
  | none => cases hnode
  | some n =>
    intro hempty
    have hrefused := hnode
    unfold ProvisionRequest.checkNode at hrefused
    simp only [if_pos hempty] at hrefused
    cases hrefused

/-! ### What is decided before anything is made -/

/-- The plan for a volume depends on the layer of its class and not on its node, but for the name and the
reclaim policy of the class. -/
theorem planFor_of_other_node {plan : Plan}
    (hlayer : configLayer cls.metadata = configLayer cls'.metadata)
    (h : planFor settings ⟨volume, claim, node'⟩ cls' = .ok plan) :
    ∃ own, planFor settings ⟨volume, claim, node⟩ cls = .ok own ∧ own.config = plan.config ∧
      own.kind = plan.kind := by
  obtain ⟨config, hconfig, h₁⟩ := except_bind_eq_ok_iff.1 h
  obtain ⟨kind, hkind, hplan⟩ := except_bind_eq_ok_iff.1 h₁
  cases hplan
  rw [← hlayer] at hconfig
  have hown : planFor settings ⟨volume, claim, node⟩ cls =
      .ok ⟨config, kind, cls.metadata.nameD, cls.reclaimPolicy.getD deletePolicy⟩ := by
    refine except_bind_eq_ok_iff.2 ⟨config, hconfig, ?_⟩
    exact except_bind_eq_ok_iff.2 ⟨kind, hkind, rfl⟩
  exact ⟨_, hown, rfl, rfl⟩

theorem checkNeeds_of_other_node {own plan : Plan} (hconfig : own.config = plan.config)
    (hkind : own.kind = plan.kind)
    (hhost : ProvisionRequest.hostname ⟨volume, claim, node⟩ ≠ "")
    (h : plan.checkNeeds settings ⟨volume, claim, node'⟩ = .ok ()) :
    own.checkNeeds settings ⟨volume, claim, node⟩ = .ok () := by
  unfold Plan.checkNeeds at h ⊢
  rw [hkind]
  cases hplan : plan.kind with
  | hostPath =>
    rw [hplan] at h
    obtain ⟨task, htask, -⟩ := except_bind_eq_ok_iff.1 h
    obtain ⟨labels, path, mode, hlabels, hpath, hmode, hpod, rfl⟩ := HostPath.plannedTask_eq_ok htask
    rw [← hconfig] at hlabels hpath hmode
    obtain ⟨ownLabels, hown, hempty⟩ :=
      affinityLabels_of_other_node hlabels (isSome_of_hostname hhost)
    obtain ⟨hcheck, parent, leaf, command, hsplit, hcommand⟩ := HostPath.HelperTask.exists_pod_iff.1 hpod
    have hownCheck : (HostPath.initTask ⟨volume, claim, node⟩ ownLabels path mode).check settings =
        .ok () := by
      rw [HostPath.HelperTask.check_eq_ok_iff] at hcheck ⊢
      exact ⟨hcheck.1, hcheck.2.1, hempty.trans hcheck.2.2.1, hcheck.2.2.2⟩
    obtain ⟨pod, hownPod⟩ : ∃ pod,
        (HostPath.initTask ⟨volume, claim, node⟩ ownLabels path mode).pod settings = .ok pod :=
      HostPath.HelperTask.exists_pod_iff.2 ⟨hownCheck, parent, leaf, command, hsplit, hcommand⟩
    refine except_bind_eq_ok_iff.2 ⟨HostPath.initTask ⟨volume, claim, node⟩ ownLabels path mode, ?_, rfl⟩
    rw [HostPath.plannedTask_of_parts hown hpath hmode, hownPod]
    rfl
  | device =>
    rw [hplan] at h
    obtain ⟨wanted, hwanted, -⟩ := except_bind_eq_ok_iff.1 h
    obtain ⟨labels, hlabels, h₁⟩ := except_bind_eq_ok_iff.1 hwanted
    obtain ⟨⟨⟩, -, h₂⟩ := except_bind_eq_ok_iff.1 h₁
    obtain ⟨⟨⟩, hcheck, -⟩ := except_bind_eq_ok_iff.1 h₂
    rw [← hconfig] at hlabels
    obtain ⟨ownLabels, hown, -⟩ := affinityLabels_of_other_node hlabels (isSome_of_hostname hhost)
    have hvolume : volume ≠ "" := by
      rintro rfl
      cases hcheck
    have hownCheck : (Device.deviceRequest ⟨volume, claim, node⟩ own.config ownLabels).check = .ok () :=
      if_neg (not_or.2 ⟨hvolume, hhost⟩)
    refine except_bind_eq_ok_iff.2
      ⟨Device.deviceRequest ⟨volume, claim, node⟩ own.config ownLabels, ?_, rfl⟩
    refine except_bind_eq_ok_iff.2 ⟨ownLabels, hown, ?_⟩
    refine except_bind_eq_ok_iff.2 ⟨(), if_neg hhost, ?_⟩
    exact except_bind_eq_ok_iff.2 ⟨(), hownCheck, rfl⟩

/-- What is decided before anything is made is decided alike for every node with a host name and every class
with the same layer. -/
theorem prepare_of_other_node {plan : Plan}
    (hlayer : configLayer cls.metadata = configLayer cls'.metadata)
    (hhost : ProvisionRequest.hostname ⟨volume, claim, node⟩ ≠ "")
    (h : prepare settings ⟨volume, claim, node'⟩ cls' = .ok plan) :
    ∃ own, prepare settings ⟨volume, claim, node⟩ cls = .ok own ∧ own.config = plan.config ∧
      own.kind = plan.kind := by
  obtain ⟨found, hfound, h₁⟩ := except_bind_eq_ok_iff.1 h
  obtain ⟨⟨⟩, hneeds, hplan⟩ := except_bind_eq_ok_iff.1 h₁
  cases hplan
  obtain ⟨own, hown, hconfig, hkind⟩ := planFor_of_other_node hlayer hfound
  have hownNeeds : own.checkNeeds settings ⟨volume, claim, node⟩ = .ok () :=
    checkNeeds_of_other_node hconfig hkind hhost hneeds
  refine ⟨own, except_bind_eq_ok_iff.2 ⟨own, hown, ?_⟩, hconfig, hkind⟩
  exact except_bind_eq_ok_iff.2 ⟨(), hownNeeds, rfl⟩

theorem checkLimits_of_other_node {own plan : Plan} (hconfig : own.config = plan.config)
    (hkind : own.kind = plan.kind) :
    own.checkLimits ⟨volume, claim, node⟩ = plan.checkLimits ⟨volume, claim, node'⟩ := by
  unfold Plan.checkLimits HostPath.checkLimits
  rw [hconfig, hkind]
  rfl

/-! ### Failing again -/

/-- The configuration layer of a storage class that has been read. -/
def layer? : Event → Option String
  | .called (.getStorageClass _) (.ok cls) => some (configLayer cls.metadata)
  | _ => none

/-- The configuration layers of the storage classes that have been read. -/
def layersRead (t : List Event) : List String := t.filterMap layer?

theorem mem_layersRead {t : List Event} {name : String}
    (h : .called (.getStorageClass name) (.ok cls) ∈ t) : configLayer cls.metadata ∈ layersRead t :=
  List.mem_filterMap.2 ⟨_, h, rfl⟩

variable {t t' : List Event} {e : Error} {r : Except Error LocalVolume}

/-- A failure that cannot pass by itself comes back as long as the layer of the class is the same and the node
still lacks a host name if it did. -/
theorem fails_again
    (h : (provision settings ⟨volume, claim, node⟩).Path t (.error e)) (hcluster : FailsAsCluster t)
    (hlasting : e.isRetryable = false) (h' : (provision settings ⟨volume, claim, node'⟩).Path t' r)
    (hlayer : ∀ layer ∈ layersRead t, ∀ layer' ∈ layersRead t', layer = layer')
    (hhost : ProvisionRequest.hostname ⟨volume, claim, node⟩ = "" →
      ProvisionRequest.hostname ⟨volume, claim, node'⟩ = "") :
    ∃ e', r = .error e' := by
  cases r with
  | error e' => exact ⟨e', rfl⟩
  | ok made =>
    exfalso
    obtain ⟨name', cls', plan', hclass', hread', hprepare', hlimits'⟩ := prepared_of_path h'
    have hhost' : ProvisionRequest.hostname ⟨volume, claim, node⟩ ≠ "" :=
      fun hempty => hostname_of_checkedClass hclass' (hhost hempty)
    have hown := checkedClass_of_other_node hclass' hhost'
    cases failedBy_of_path h hcluster with
    | work hwork =>
      rw [Error.isRetryable_of_isOfWork hwork] at hlasting
      cases hlasting
    | request hclass _ =>
      rw [hown] at hclass
      cases hclass
    | plan hclass hread _ hprepare =>
      cases hown.symm.trans hclass
      obtain ⟨own, hprepared, -⟩ :=
        prepare_of_other_node (hlayer _ (mem_layersRead hread) _ (mem_layersRead hread')) hhost' hprepare'
      rw [hprepared] at hprepare
      cases hprepare
    | limits hclass hread hprepare hlimits _ _ _ =>
      cases hown.symm.trans hclass
      obtain ⟨own, hprepared, hconfig, hkind⟩ :=
        prepare_of_other_node (hlayer _ (mem_layersRead hread) _ (mem_layersRead hread')) hhost' hprepare'
      cases hprepared.symm.trans hprepare
      rw [checkLimits_of_other_node hconfig hkind, hlimits'] at hlimits
      cases hlimits

theorem isRetryable_of_park (h : (Parked.park {} claim e).holds claim = true) : e.isRetryable = false := by
  rw [Bool.eq_false_iff]
  intro hretry
  have hnone : (Parked.holds {} claim) = false := by
    unfold Parked.holds
    cases Parked.version? claim with
    | none => rfl
    | some version => simp
  unfold Parked.park at h
  rw [if_pos hretry, hnone] at h
  cases h

/-- A claim that is parked fails again as long as the layer of its class is the same and its node still lacks
a host name if it did. -/
theorem parked_claim_fails_again
    (h : (provision settings ⟨volume, claim, node⟩).Path t (.error e)) (hcluster : FailsAsCluster t)
    (hparked : (Parked.park {} claim e).holds claim = true)
    (h' : (provision settings ⟨volume, claim, node'⟩).Path t' r)
    (hlayer : ∀ layer ∈ layersRead t, ∀ layer' ∈ layersRead t', layer = layer')
    (hhost : ProvisionRequest.hostname ⟨volume, claim, node⟩ = "" →
      ProvisionRequest.hostname ⟨volume, claim, node'⟩ = "") :
    ∃ e', r = .error e' :=
  fails_again h hcluster (isRetryable_of_park hparked) h' hlayer hhost

end

/-! ### A layer that is mended -/

namespace Small

/-- The claim, as the API server keeps it. -/
def storedClaim : PersistentVolumeClaim :=
  { (request "node-1").claim with
    metadata := { name := some "data", uid := some "1", resourceVersion := some "7" } }

/-- A layer with an entry that lacks a name. -/
def brokenLayer : String := "- name: \"\"\n"

/-- The request for a volume of the claim. -/
def storedRequest : ProvisionRequest := ⟨"pvc-1", storedClaim, some (node "node-1")⟩

/-- What happens when the volume is asked for and its class has a layer. -/
def eventsFor (layer : String) : List Event :=
  (Cluster.Memory.world false).trace (provision settings storedRequest) (cluster layer)

/-- What comes of asking for the volume when its class has a layer. -/
def resultFor (layer : String) : Except Error LocalVolume :=
  ((Cluster.Memory.world false).run (provision settings storedRequest) (cluster layer)).1

theorem path_eventsFor (layer : String) :
    (provision settings storedRequest).Path (eventsFor layer) (resultFor layer) :=
  World.path_run _ _ _

theorem path_brokenLayer : (provision settings storedRequest).Path (eventsFor brokenLayer)
    (.error (.invalidConfigLayer "storageclass" namelessEntry)) := by
  have hresult : resultFor brokenLayer = .error (.invalidConfigLayer "storageclass" namelessEntry) := by
    decide +kernel
  rw [← hresult]
  exact path_eventsFor brokenLayer

end Small

theorem parked_claim_fails_again_brokenLayer : ∃ e, Small.resultFor Small.brokenLayer = .error e :=
  parked_claim_fails_again Small.path_brokenLayer (by decide +kernel) (by decide +kernel)
    (Small.path_eventsFor Small.brokenLayer) (by decide +kernel) id

/-- A parked claim may succeed without a change to it: the layer of its class has been mended. -/
theorem not_parked_claim_fails_again :
    ¬∀ (settings : Settings) (volume : String) (claim : PersistentVolumeClaim) (node node' : Option Node)
        (t t' : List Event) (e : Error) (r : Except Error LocalVolume),
      (provision settings ⟨volume, claim, node⟩).Path t (.error e) → FailsAsCluster t →
      (Parked.park {} claim e).holds claim = true →
      (provision settings ⟨volume, claim, node'⟩).Path t' r → FailsAsCluster t' →
      ∃ e', r = .error e' := by
  intro h
  obtain ⟨e, he⟩ := h Small.settings _ _ _ _ _ _ _ _ Small.path_brokenLayer (by decide +kernel)
    (by decide +kernel) (Small.path_eventsFor "") (by decide +kernel)
  have hmade : (Small.resultFor "").isOk = true := by decide +kernel
  rw [he] at hmade
  cases hmade

end NodeVolumes
