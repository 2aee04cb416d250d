import NodeVolumes.Proofs.Device.Paths
import NodeVolumes.Proofs.Volume.Pinning

/-! # Labels that devices are selected by

The claim for a device asks for labels of two origins: those of the node that are recorded with the volume, and the
selectors of the configuration. They are written into one map, which has room for one value under each key. When
both have a value for a key and the two differ, no map holds both; the claim is made all the same, with the one of
the selectors.

* `KeyMap.isUnion_union_iff`: when one map over another is the union of the two.
* `BlockDeviceClaim.SelectsOn`: what a claim keeps of the labels of a node and of selectors.
* `device_claim_selection`: every claim for a device keeps the selectors, and the labels of the node that they do not
  contradict. -/

namespace NodeVolumes

open Cluster (Call Event Memory)
open Device (DeviceRequest deviceRequest)
open Program.Event (calls)
open Attempt (Path)

/-! ### Unions of maps -/

namespace KeyMap

variable {κ α : Type} [Ord κ] [DecidableEq κ]

/-- Two maps agree when they have no different values for one key. -/
def Agree (a b : KeyMap κ α) : Prop := ∀ k v w, a.get? k = some v → b.get? k = some w → v = w

/-- A map has the entries of two others, and no more. -/
def IsUnion (m a b : KeyMap κ α) : Prop := ∀ k v, m.get? k = some v ↔ a.get? k = some v ∨ b.get? k = some v

variable {a b m : KeyMap κ α}

theorem IsUnion.agree (h : m.IsUnion a b) : a.Agree b := by
  intro k v w hv hw
  have hm : m.get? k = some v := (h k v).2 (.inl hv)
  have hm' : m.get? k = some w := (h k w).2 (.inr hw)
  exact Option.some.inj (hm.symm.trans hm')

variable [Std.TransOrd κ] [Std.LawfulEqOrd κ]

theorem get?_union (a b : KeyMap κ α) (k : κ) : (a.union b).get? k = (b.get? k).or (a.get? k) :=
  get?_foldl_insert b.ascending a k

/-- A map that is overlaid with another one is their union when they agree. -/
theorem isUnion_union_iff : (a.union b).IsUnion a b ↔ a.Agree b := by
  refine ⟨IsUnion.agree, fun hagree k v => ?_⟩
  rw [get?_union, Option.or_eq_some_iff]
  constructor
  · rintro (hb | ⟨-, ha⟩)
    · exact .inr hb
    · exact .inl ha
  · rintro (ha | hb)
    -- an entry of `a` is left as it is, or replaced by an equal one
    · cases hb : b.get? k with
      | none => exact .inr ⟨rfl, ha⟩
      | some w => exact .inl (congrArg some (hagree k v w ha hb).symm)
    · exact .inl hb

end KeyMap

/-! ### Claims -/

/-- What a claim keeps of the labels of a node and of selectors. -/
structure BlockDeviceClaim.SelectsOn (claim : BlockDeviceClaim) (affinity selectors labels : TextMap) : Prop where
  written : claim.spec.matchLabels = some labels
  /-- Every selector is kept. -/
  selector : ∀ key value, selectors.get? key = some value → labels.get? key = some value
  /-- A label of the node is kept if no selector has another value for its key. -/
  affinity_iff : ∀ key value, affinity.get? key = some value →
    (labels.get? key = some value ↔ ∀ other, selectors.get? key = some other → other = value)
  /-- Nothing else is asked for. -/
  origin : ∀ key value, labels.get? key = some value →
    affinity.get? key = some value ∨ selectors.get? key = some value
  /-- The labels are the union of both if these agree. -/
  isUnion_iff : labels.IsUnion affinity selectors ↔ affinity.Agree selectors

namespace Device

theorem DeviceRequest.matchLabels_eq (wanted : DeviceRequest) :
    wanted.matchLabels = wanted.nodeAffinity.union (wanted.selectors.getD .empty) := by
  unfold matchLabels
  cases wanted.selectors <;> rfl

theorem DeviceRequest.selectsOn_toClaim (wanted : DeviceRequest) (ns : String) :
    (wanted.toClaim ns).SelectsOn wanted.nodeAffinity (wanted.selectors.getD .empty) wanted.matchLabels where
  written := rfl
  selector key value hselector := by
    rw [matchLabels_eq, KeyMap.get?_union, hselector, Option.some_or]
  affinity_iff key value haffinity := by
    rw [matchLabels_eq, KeyMap.get?_union, haffinity]
    cases (wanted.selectors.getD .empty).get? key with
    | none => simp
    | some other => simp
  origin key value hlabel := by
    rw [matchLabels_eq, KeyMap.get?_union, Option.or_eq_some_iff] at hlabel
    rcases hlabel with hselector | ⟨-, haffinity⟩
    · exact .inr hselector
    · exact .inl haffinity
  isUnion_iff := by
    rw [matchLabels_eq]
    exact KeyMap.isUnion_union_iff

variable {settings : Settings} {ns : String} {claim : BlockDeviceClaim}

/-- If a call creates a claim, it is the given one. -/
def CreatesOnly (ns : String) (claim : BlockDeviceClaim) (c : Call) : Prop :=
  ∀ ns' made, c = .createClaim ns' made → ns' = ns ∧ made = claim

theorem createsOnly_singleton {c : Call} (hc : CreatesOnly ns claim c) (r : Cluster.Reply c) :
    ∀ d ∈ calls [(.called c r : Event)], CreatesOnly ns claim d :=
  Program.Event.forall_mem_calls_singleton _ hc r

theorem createsOnly_bind (wanted : DeviceRequest) : (bind settings wanted).Always
    fun t => ∀ c ∈ calls t, CreatesOnly settings.ns (wanted.toClaim settings.ns) c := by
  have hP := Attempt.composable_calls (CreatesOnly settings.ns (wanted.toClaim settings.ns))
  apply always_bind hP
  · exact createsOnly_singleton fun _ _ hc => by cases hc
  · apply createsOnly_singleton
    rintro _ _ ⟨⟩
    exact ⟨rfl, rfl⟩
  · apply always_release hP
    · exact createsOnly_singleton fun _ _ hc => by cases hc
    · exact fun _ => createsOnly_singleton fun _ _ hc => by cases hc
    · exact createsOnly_singleton fun _ _ hc => by cases hc
  · exact fun _ => createsOnly_singleton fun _ _ hc => by cases hc

theorem path_bind_of_mem_calls {request : ProvisionRequest} {plan : Plan} {t : List Event}
    {r : Except Error LocalVolume} {c : Call} (h : Path (provision settings request plan) t r) (hc : c ∈ calls t) :
    ∃ affinity bound, request.affinityLabels plan.config.affinityLabels? = .ok affinity ∧
      Path (bind settings (deviceRequest request plan.config affinity)) t bound ∧
      r = bound.map (volumeOn request plan affinity) := by
  have hpath := h
  rw [provision_eq] at hpath
  rcases Attempt.path_check_bind_iff.1 hpath with ⟨e, -, rfl, -⟩ | ⟨affinity, haffinity, hnamed⟩
  · cases hc
  by_cases hhost : request.hostname = ""
  · rw [if_pos hhost] at hnamed
    obtain ⟨rfl, -⟩ := Attempt.path_throw_iff.1 hnamed
    cases hc
  · obtain ⟨bound, hbind, hr⟩ := path_provision_of_node haffinity hhost h
    exact ⟨affinity, bound, haffinity, hbind, hr⟩

/-- The claim that a call for a volume creates selects on the labels of the node that are recorded with the volume,
and on the selectors of its configuration. -/
theorem selectsOn_of_createClaim {request : ProvisionRequest} {plan : Plan} {t : List Event}
    {r : Except Error LocalVolume} (h : Path (provision settings request plan) t r)
    (hcreated : .createClaim ns claim ∈ calls t) :
    ∃ node affinity labels, request.node = some node ∧
      (∀ key, affinity.get? key =
        if key ∈ plan.config.affinityLabels?.getD [hostnameLabel] then some (node.label key) else none) ∧
      (∀ made, r = .ok made → made.nodeAffinity = affinity) ∧
      claim.SelectsOn affinity (plan.config.deviceSelectors?.getD .empty) labels := by
  obtain ⟨affinity, bound, haffinity, hbind, rfl⟩ := path_bind_of_mem_calls h hcreated
  obtain ⟨node, hnode, hlabels⟩ := ProvisionRequest.affinityLabels_eq_ok haffinity
  obtain ⟨rfl, rfl⟩ := createsOnly_bind _ t bound hbind _ hcreated ns claim rfl
  refine ⟨node, affinity, _, hnode, hlabels, fun made hmade => ?_, DeviceRequest.selectsOn_toClaim _ _⟩
  cases bound with
  | error e => cases hmade
  | ok bound =>
    cases hmade
    rfl

end Device

/-- What the claims for devices select on.

The claim for a request keeps every selector, and the labels of the node that no selector contradicts; it asks for
nothing else, and for all of both exactly if they agree. To bind a request, this claim is created or none. In a call
that makes a volume, the labels of the node are those that are recorded with the volume: one for each configured key,
or for the host name, with the value that the selected node has for it. The selectors are those of the
configuration. -/
theorem device_claim_selection (settings : Settings) (wanted : DeviceRequest) :
    (∀ ns, (wanted.toClaim ns).SelectsOn wanted.nodeAffinity (wanted.selectors.getD .empty) wanted.matchLabels) ∧
    (∀ t bound ns claim, Path (Device.bind settings wanted) t bound → .createClaim ns claim ∈ calls t →
      ns = settings.ns ∧ claim = wanted.toClaim settings.ns) ∧
    ∀ request plan t r ns claim, Path (Device.provision settings request plan) t r →
      .createClaim ns claim ∈ calls t → ∃ node affinity labels, request.node = some node ∧
        (∀ key, affinity.get? key =
          if key ∈ plan.config.affinityLabels?.getD [hostnameLabel] then some (node.label key) else none) ∧
        (∀ made, r = .ok made → made.nodeAffinity = affinity) ∧
        claim.SelectsOn affinity (plan.config.deviceSelectors?.getD .empty) labels := by
  refine ⟨wanted.selectsOn_toClaim, fun t bound ns claim h hcreated => ?_, fun request plan t r ns claim => ?_⟩
  · exact Device.createsOnly_bind wanted t bound h _ hcreated ns claim rfl
  · exact Device.selectsOn_of_createClaim

namespace Small

/-- The node label that names a zone. -/
def zoneLabel : String := "openebs.io/zone"

/-- A request for a volume on a node in zone `a`. -/
def zonedRequest : ProvisionRequest :=
  { request "node-1" with
    node := some { metadata :=
      { name := some "node-1"
        labels := some (KeyMap.ofList [(hostnameLabel, "node-1"), (zoneLabel, "a")]) } } }

/-- A plan for a device by zone, with selectors. -/
def zonedPlan (selectors : TextMap) : Plan where
  config := .ofEntries "pvc-1" (settings.defaultLayer ++
    [⟨affinityLabelsKey, none, none, none, some [zoneLabel]⟩, ⟨deviceSelectorsKey, none, none, some selectors, none⟩])
  kind := .device
  storageClass := "local"
  reclaimPolicy := deletePolicy

/-- The volume in zone `a`. -/
def zonedVolume (selectors : TextMap) : LocalVolume :=
  Device.volumeOn zonedRequest (zonedPlan selectors) (KeyMap.singleton zoneLabel "a") ("bdc-pvc-1", linkedDisk none)

/-- What happens when the volume is made. -/
def zonedEvents (selectors : TextMap) : List Event :=
  (Memory.world false).trace (Device.provision settings zonedRequest (zonedPlan selectors)).run (linkedCluster none)

/-- The device that is asked for. -/
def zonedDevice (selectors : TextMap) : DeviceRequest :=
  deviceRequest zonedRequest (zonedPlan selectors).config (KeyMap.singleton zoneLabel "a")

/-- The claim that is created for the volume. -/
def zonedClaim (selectors : TextMap) : BlockDeviceClaim := (zonedDevice selectors).toClaim "openebs"

end Small

/-- A selector for another key leaves the zone of the node in place. -/
theorem device_claim_selection_zone :
    let selectors := KeyMap.singleton "ndm.io/driveType" "SSD"
    ∃ labels, (Small.zonedClaim selectors).spec.matchLabels = some labels ∧
      labels.get? Small.zoneLabel = some "a" ∧ labels.get? "ndm.io/driveType" = some "SSD" := by
  intro selectors
  have hpath : Path (Device.provision Small.settings Small.zonedRequest (Small.zonedPlan selectors))
      (Small.zonedEvents selectors) (.ok (Small.zonedVolume selectors)) := World.path_of_run (by decide +kernel)
  have hcreated : .createClaim "openebs" (Small.zonedClaim selectors) ∈ calls (Small.zonedEvents selectors) := by
    decide +kernel
  obtain ⟨-, -, hmade⟩ := device_claim_selection Small.settings (Small.zonedDevice selectors)
  obtain ⟨node, affinity, labels, -, -, haffinity, hselects⟩ := hmade _ _ _ _ _ _ hpath hcreated
  obtain rfl := haffinity _ rfl
  have hzone : ((Small.zonedPlan selectors).config.deviceSelectors?.getD .empty).get? Small.zoneLabel = none := by
    decide +kernel
  refine ⟨labels, hselects.written, (hselects.affinity_iff _ _ (by decide +kernel)).2 fun other hother => ?_,
    hselects.selector _ _ (by decide +kernel)⟩
  rw [hzone] at hother
  cases hother

/-- A volume may be made on a device that is claimed for another zone than the one that is recorded with it. -/
theorem not_device_claim_keeps_affinity :
    ¬∀ (settings : Settings) (request : ProvisionRequest) (plan : Plan) (t : List Event) (made : LocalVolume)
        (ns : String) (claim : BlockDeviceClaim),
      Path (Device.provision settings request plan) t (.ok made) → .createClaim ns claim ∈ calls t →
      ∀ key value, made.nodeAffinity.get? key = some value →
        ∃ labels, claim.spec.matchLabels = some labels ∧ labels.get? key = some value := by
  intro hall
  let selectors : TextMap := KeyMap.singleton Small.zoneLabel "b"
  have hpath : Path (Device.provision Small.settings Small.zonedRequest (Small.zonedPlan selectors))
      (Small.zonedEvents selectors) (.ok (Small.zonedVolume selectors)) := World.path_of_run (by decide +kernel)
  have hcreated : .createClaim "openebs" (Small.zonedClaim selectors) ∈ calls (Small.zonedEvents selectors) := by
    decide +kernel
  obtain ⟨labels, hwritten, hlabel⟩ := hall _ _ _ _ _ _ _ hpath hcreated Small.zoneLabel "a" (by decide +kernel)
  have hother : (Small.zonedClaim selectors).spec.matchLabels.bind (·.get? Small.zoneLabel) = some "b" := by
    decide +kernel
  rw [hwritten, Option.bind_some, hlabel] at hother
  exact absurd hother (by decide)

end NodeVolumes
