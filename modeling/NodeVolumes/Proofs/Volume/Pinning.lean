import NodeVolumes.Proofs.Engine
import NodeVolumes.Proofs.Volume.Record

/-! # How a volume is pinned to its node

A volume is recorded with labels of the node on which it is made, for the configured keys or else for the host
name. The node is looked up by them when the volume is deleted. A label that the node lacks is recorded as empty,
and then nothing finds the node by the record.

* `ProvisionRequest.affinityLabels_eq_ok`: which labels are recorded.
* `Node.carries_iff_hasLabels`: the node carries what is recorded of it when it has a label for every key.
* `volume_is_pinned`: what this means for a volume, for the pods that make it and for the look-up of its node.
* `label_of_provision`: the checks of a request only make sure of the host name. -/

namespace NodeVolumes

open Cluster (Call Event Memory)
open HostPath (HelperRuns)
open Program.Event (calls)
open Attempt (Path)

/-! ### Labels of a node -/

theorem KeyMap.get?_ofList_map {κ α : Type} [Ord κ] [Std.TransOrd κ] [Std.LawfulEqOrd κ] [DecidableEq κ]
    (keys : List κ) (f : κ → α) (k : κ) :
    (ofList (keys.map fun key => (key, f key))).get? k = if k ∈ keys then some (f k) else none := by
  have hfold (m : KeyMap κ α) : ((keys.map fun key => (key, f key)).foldl (fun m e => m.insert e.1 e.2) m).get? k =
      if k ∈ keys then some (f k) else m.get? k := by
    induction keys generalizing m with
    | nil => simp
    | cons key rest ih =>
      rw [List.map_cons, List.foldl_cons, ih, get?_insert]
      by_cases hrest : k ∈ rest
      · simp [hrest]
      · by_cases hkey : key = k
        · simp [hkey]
        · simp [hrest, hkey, Ne.symm hkey]
  exact hfold empty

namespace Node

/-- A node has a label for each of some keys. -/
def HasLabels (n : Node) (keys : List String) : Prop := ∀ key ∈ keys, (n.metadata.label? key).isSome = true

instance (n : Node) (keys : List String) : Decidable (n.HasLabels keys) :=
  inferInstanceAs (Decidable (∀ key ∈ keys, (n.metadata.label? key).isSome = true))

variable {n : Node} {labels : TextMap} {keys : List String}

theorem carries_iff : n.carries labels = true ↔
    ∀ key value, labels.get? key = some value → n.metadata.label? key = some value := by
  unfold carries
  rw [List.all_eq_true]
  constructor
  · intro h key value hget
    exact of_decide_eq_true (h (key, value) (KeyMap.mem_toList_iff.2 hget))
  · rintro h ⟨key, value⟩ hmem
    exact decide_eq_true (h key value (KeyMap.mem_toList_iff.1 hmem))

theorem label?_eq_label_iff {key : String} :
    n.metadata.label? key = some (n.label key) ↔ (n.metadata.label? key).isSome = true := by
  unfold label
  cases n.metadata.label? key <;> simp

theorem label?_eq_label {key : String} (h : n.label key ≠ "") : n.metadata.label? key = some (n.label key) := by
  unfold label at h ⊢
  cases hlabel : n.metadata.label? key with
  | none =>
    rw [hlabel] at h
    cases h rfl
  | some value => rfl

/-- A node carries what is recorded of it for some keys when it has a label for each of them. -/
theorem carries_iff_hasLabels
    (h : ∀ key, labels.get? key = if key ∈ keys then some (n.label key) else none) :
    n.carries labels = true ↔ n.HasLabels keys := by
  rw [carries_iff]
  constructor
  · intro hcarries key hkey
    exact label?_eq_label_iff.1 (hcarries key _ ((h key).trans (if_pos hkey)))
  · intro hlabels key value hget
    rw [h key] at hget
    split at hget
    case isTrue hkey =>
      cases hget
      exact label?_eq_label_iff.2 (hlabels key hkey)
    case isFalse => cases hget

end Node

/-- What is recorded of the node of a request: its labels for the keys that are given, or else its host name. -/
theorem ProvisionRequest.affinityLabels_eq_ok {request : ProvisionRequest} {keys : Option (List String)}
    {labels : TextMap} (h : request.affinityLabels keys = .ok labels) :
    ∃ n, request.node = some n ∧
      ∀ key, labels.get? key = if key ∈ keys.getD [hostnameLabel] then some (n.label key) else none := by
  unfold affinityLabels at h
  split at h
  case h_1 => cases h
  case h_2 n hnode =>
    cases h
    exact ⟨n, hnode, KeyMap.get?_ofList_map _ n.label⟩

theorem ProvisionRequest.label_ne_of_check {request : ProvisionRequest} {n : Node} (h : request.check = .ok ())
    (hnode : request.node = some n) : n.label hostnameLabel ≠ "" := by
  obtain ⟨_, -, hchecked⟩ := except_bind_eq_ok_iff.1 h
  unfold checkNode hostname at hchecked
  rw [hnode] at hchecked
  dsimp only at hchecked
  intro hempty
  rw [if_pos hempty] at hchecked
  cases hchecked

/-! ### Looking a node up -/

namespace Cluster.Memory

variable {m : Memory} {n : Node} {name : String} {labels : TextMap}

/-- The nodes of a cluster that carry all labels of a map. -/
def nodesWith (m : Memory) (labels : TextMap) : List Node := m.nodes.values.filter (·.carries labels)

theorem answer_listNodes : (m.answer (.listNodes labels)).1 = .ok (m.nodesWith labels) := rfl

theorem mem_nodesWith (h : m.nodes.get? name = some n) : n ∈ m.nodesWith labels ↔ n.carries labels = true := by
  have hmem : n ∈ m.nodes.values := List.mem_map.2 ⟨(name, n), KeyMap.mem_toList_iff.2 h, rfl⟩
  unfold nodesWith
  rw [List.mem_filter]
  exact and_iff_right hmem

end Cluster.Memory

namespace HostPath

/-- What is said when no node is found. -/
def unmatched (labels : TextMap) : Error := .nodeLookup (Text.quotedPairs labels.toList) "no node matches the labels"

/-- What is said when a node is not the only one. -/
def ambiguous (labels : TextMap) : Error :=
  .nodeLookup (Text.quotedPairs labels.toList) "found multiple nodes matching the labels"

/-- The only node that is listed for some labels. -/
def onlyNode (labels : TextMap) : List Node → Except Error Node
  | [] => .error (unmatched labels)
  | [n] => .ok n
  | _ :: _ :: _ => .error (ambiguous labels)

theorem onlyNode_of_mem {labels : TextMap} {nodes : List Node} {n : Node} (h : n ∈ nodes) :
    onlyNode labels nodes = .ok n ∨ onlyNode labels nodes = .error (ambiguous labels) := by
  match nodes with
  | [] => cases h
  | [_] =>
    cases List.mem_singleton.1 h
    exact .inl rfl
  | _ :: _ :: _ => exact .inr rfl

theorem mem_of_onlyNode {labels : TextMap} {nodes : List Node} {n : Node} (h : onlyNode labels nodes = .ok n) :
    n ∈ nodes := by
  match nodes with
  | [] => cases h
  | [_] =>
    cases h
    exact List.mem_singleton_self n
  | _ :: _ :: _ => cases h

theorem path_findNode {labels : TextMap} {t : List Event} {r : Except Error Node}
    (h : Path (findNode labels) t r) : ∃ reply, t = [.called (.listNodes labels) reply] ∧
      ∀ nodes, reply = .ok nodes → r = onlyNode labels nodes := by
  unfold findNode at h
  rcases Attempt.path_callOr_bind_iff.1 h with ⟨e, rfl, -⟩ | ⟨nodes, u, rfl, h'⟩
  · exact ⟨_, rfl, fun nodes hnodes => by cases hnodes⟩
  split at h'
  case h_1 =>
    obtain ⟨rfl, rfl⟩ := Attempt.path_throw_iff.1 h'
    exact ⟨_, rfl, fun nodes hnodes => by cases hnodes; rfl⟩
  case h_2 =>
    obtain ⟨rfl, rfl⟩ := Attempt.path_pure_iff.1 h'
    exact ⟨_, rfl, fun nodes hnodes => by cases hnodes; rfl⟩
  case h_3 hnone hsome =>
    obtain ⟨rfl, rfl⟩ := Attempt.path_throw_iff.1 h'
    refine ⟨_, rfl, fun nodes hnodes => ?_⟩
    cases hnodes
    match nodes with
    | [] => cases hnone rfl
    | [n] => cases hsome n rfl
    | _ :: _ :: _ => rfl

/-- In a cluster that holds a node with the labels, a look-up gives the node, unless there are more of them. A
node without the labels is not what a look-up gives. -/
theorem path_findNode_of_get? {m : Memory} {n : Node} {name : String} {labels : TextMap} {t : List Event}
    {r : Except Error Node} (hn : m.nodes.get? name = some n) (h : Path (findNode labels) t r)
    (hanswered : ∀ reply, .called (.listNodes labels) reply ∈ t → reply = (m.answer (.listNodes labels)).1) :
    (n.carries labels = true → r = .ok n ∨ r = .error (ambiguous labels)) ∧
      (n.carries labels = false → r ≠ .ok n) := by
  obtain ⟨reply, rfl, hr⟩ := path_findNode h
  have hresult : r = onlyNode labels (m.nodesWith labels) :=
    hr _ (hanswered reply (List.mem_singleton_self _))
  rw [hresult]
  constructor
  · intro hcarries
    exact onlyNode_of_mem ((Memory.mem_nodesWith hn).2 hcarries)
  · intro hlacks hfound
    have hcarries := (Memory.mem_nodesWith hn).1 (mem_of_onlyNode hfound)
    rw [hlacks] at hcarries
    cases hcarries

theorem HelperRuns.asksFor {settings : Settings} {tasks : HelperTask → Prop} {α : Type} {t : List Event}
    {r : Except Error α} {labels : TextMap} (h : HelperRuns settings tasks t r)
    (htasks : ∀ task, tasks task → task.nodeAffinity = labels) {ns : String} {pod : Pod}
    (hpod : .createPod ns pod ∈ calls t) :
    ∃ selector requirements, pod.requiredNodes? = some selector ∧ selector.AsksFor requirements labels := by
  obtain ⟨reply, hmem⟩ := Program.Event.exists_mem_of_mem_calls hpod
  obtain ⟨pre, post, rfl⟩ := List.append_of_mem hmem
  obtain ⟨task, htask, hbuilt⟩ := (h.created rfl).task
  rw [← htasks task htask]
  exact (HelperTask.confined_of_pod_eq_ok hbuilt).nodes

end HostPath

/-! ### Volumes -/

section
open HostPath (findNode ambiguous)

variable {settings : Settings} {request : ProvisionRequest} {plan : Plan} {t : List Event} {made : LocalVolume}

theorem HostPath.affinity_of_provision (h : Path (HostPath.provision settings request plan) t (.ok made)) :
    request.affinityLabels plan.config.affinityLabels? = .ok made.nodeAffinity ∧
      ∀ ns pod, .createPod ns pod ∈ calls t → ∃ selector requirements,
        pod.requiredNodes? = some selector ∧ selector.AsksFor requirements made.nodeAffinity := by
  obtain ⟨affinity, path, mode, u, v, haffinity, -, -, rfl, hmake, hquota, rfl⟩ := HostPath.path_provision_ok h
  refine ⟨haffinity, fun ns pod hpod => ?_⟩
  rw [Program.Event.calls_append, List.mem_append] at hpod
  have hmade : HelperRuns settings (·.nodeAffinity = affinity) u (.ok ()) :=
    HostPath.helperRuns_runHelper rfl hmake
  have hlimited : HelperRuns settings (·.nodeAffinity = affinity) v (.ok ()) :=
    HostPath.helperRuns_applyQuota? (fun _ => rfl) hquota
  exact hpod.elim (hmade.asksFor fun _ => id) (hlimited.asksFor fun _ => id)

theorem Device.affinity_of_provision (h : Path (Device.provision settings request plan) t (.ok made)) :
    request.affinityLabels plan.config.affinityLabels? = .ok made.nodeAffinity ∧
      ∀ ns pod, .createPod ns pod ∉ calls t := by
  obtain ⟨affinity, bound, haffinity, -, -, rfl⟩ := Device.path_provision_ok h
  refine ⟨haffinity, fun ns pod hpod => ?_⟩
  cases sparesPods_deviceProvision plan t _ h _ hpod

/-- Which labels a volume is pinned by, and when they lead to its node.

Recorded are the labels of the chosen node for the configured keys, or else its host name, and helper pods ask
for exactly these labels. A label that the node lacks is recorded as empty. So the node carries the record if and
only if it has a label for each of the keys. Then it is listed by the record in every cluster that holds it, and
the deletion of the volume finds it unless another node carries the record, too; otherwise it is never found. -/
theorem volume_is_pinned (h : Path (HostPath.provision settings request plan) t (.ok made) ∨
      Path (Device.provision settings request plan) t (.ok made)) :
    let keys := plan.config.affinityLabels?.getD [hostnameLabel]
    ∃ node, request.node = some node ∧
      (∀ key, made.nodeAffinity.get? key = if key ∈ keys then some (node.label key) else none) ∧
      (∀ ns pod, .createPod ns pod ∈ calls t → ∃ selector requirements,
        pod.requiredNodes? = some selector ∧ selector.AsksFor requirements made.nodeAffinity) ∧
      (node.carries made.nodeAffinity = true ↔ node.HasLabels keys) ∧
      ∀ (m : Memory) name, m.nodes.get? name = some node →
        (∃ nodes, (m.answer (.listNodes made.nodeAffinity)).1 = .ok nodes ∧
          (node ∈ nodes ↔ node.HasLabels keys)) ∧
        ∀ record u found, VolumeRecord.ofPersistentVolume made.toPersistentVolume = .ok record →
          Path (findNode record.nodeAffinity) u found →
          (∀ reply, .called (.listNodes record.nodeAffinity) reply ∈ u →
            reply = (m.answer (.listNodes record.nodeAffinity)).1) →
          (node.HasLabels keys → found = .ok node ∨ found = .error (ambiguous record.nodeAffinity)) ∧
            (¬node.HasLabels keys → found ≠ .ok node) := by
  intro keys
  have hrecorded : request.affinityLabels plan.config.affinityLabels? = .ok made.nodeAffinity :=
    h.elim (fun h => (HostPath.affinity_of_provision h).1) fun h => (Device.affinity_of_provision h).1
  obtain ⟨node, hnode, hlabels⟩ := request.affinityLabels_eq_ok hrecorded
  have hcarries : node.carries made.nodeAffinity = true ↔ node.HasLabels keys :=
    Node.carries_iff_hasLabels hlabels
  refine ⟨node, hnode, hlabels, fun ns pod hpod => ?_, hcarries, fun m name hheld => ⟨?_, ?_⟩⟩
  · rcases h with h | h
    · exact (HostPath.affinity_of_provision h).2 ns pod hpod
    · exact absurd hpod ((Device.affinity_of_provision h).2 ns pod)
  · exact ⟨_, Memory.answer_listNodes, (Memory.mem_nodesWith hheld).trans hcarries⟩
  · intro record u found hrecord hfind hanswered
    cases VolumeRecord.eq_record hrecord
    obtain ⟨hfinds, hmisses⟩ := HostPath.path_findNode_of_get? hheld hfind hanswered
    refine ⟨fun hhas => hfinds (hcarries.2 hhas), fun hlacks => hmisses ?_⟩
    exact Bool.eq_false_iff.2 fun htrue => hlacks (hcarries.1 htrue)

/-- A label that is recorded for a request that has passed its checks is one of the node, unless it is empty and
not the host name. -/
theorem label_of_provision (h : (provision settings request).Path t (.ok made)) :
    ∃ node, request.node = some node ∧ ∀ key value, made.nodeAffinity.get? key = some value →
      (value ≠ "" ∨ key = hostnameLabel) → node.metadata.label? key = some value := by
  obtain ⟨u, v, w, plan, -, -, hplan, hmake⟩ := path_provision_ok h
  have hrecorded : request.affinityLabels plan.config.affinityLabels? = .ok made.nodeAffinity := by
    unfold makeVolume at hmake
    split at hmake
    · exact (HostPath.affinity_of_provision hmake).1
    · exact (Device.affinity_of_provision hmake).1
  obtain ⟨node, hnode, hlabels⟩ := request.affinityLabels_eq_ok hrecorded
  refine ⟨node, hnode, fun key value hget hgiven => ?_⟩
  rw [hlabels key] at hget
  split at hget
  case isFalse => cases hget
  case isTrue =>
    cases hget
    refine Node.label?_eq_label ?_
    rcases hgiven with hvalue | rfl
    · exact hvalue
    · exact request.label_ne_of_check (path_planVolume_ok hplan).1 hnode

end

namespace Small

/-- A plan for a directory that is pinned by one label of its node. -/
def labelPlan (key : String) : Plan where
  config := .ofEntries "pvc-1" (settings.defaultLayer ++ [⟨affinityLabelsKey, none, none, none, some [key]⟩])
  kind := .hostPath
  storageClass := "local"
  reclaimPolicy := deletePolicy

/-- The directory on the first node, pinned by a label. -/
def labelVolume (key value : String) : LocalVolume :=
  HostPath.volumeIn (request "node-1") (labelPlan key) (KeyMap.singleton key value) "/var/openebs/local/pvc-1"

/-- What happens when the directory is made. -/
def labelEvents (key : String) : List Event :=
  (Memory.world false).trace (HostPath.provision settings (request "node-1") (labelPlan key)).run (cluster "")

theorem path_zoneVolume :
    Path (HostPath.provision settings (request "node-1") (labelPlan "openebs.io/zone"))
      (labelEvents "openebs.io/zone") (.ok (labelVolume "openebs.io/zone" "")) :=
  World.path_of_run (by decide +kernel)

end Small

/-- A volume that is pinned by the host name of its node is found by it; one that is pinned by a label that the
node lacks is not. -/
theorem volume_is_pinned_zone :
    (Small.node "node-1").carries (Small.labelVolume hostnameLabel "node-1").nodeAffinity = true ∧
      (Small.node "node-1").carries (Small.labelVolume "openebs.io/zone" "").nodeAffinity = false := by
  have hhost : Path (HostPath.provision Small.settings (Small.request "node-1") (Small.labelPlan hostnameLabel))
      (Small.labelEvents hostnameLabel) (.ok (Small.labelVolume hostnameLabel "node-1")) :=
    World.path_of_run (by decide +kernel)
  obtain ⟨node, hnode, -, -, hcarries, -⟩ := volume_is_pinned (.inl hhost)
  obtain ⟨node', hnode', -, -, hcarries', -⟩ := volume_is_pinned (.inl Small.path_zoneVolume)
  cases hnode
  cases hnode'
  exact ⟨hcarries.2 (by decide +kernel), Bool.eq_false_iff.2 fun h => absurd (hcarries'.1 h) (by decide +kernel)⟩

/-- A node may lack a label that is recorded of it: one that is empty. -/
theorem not_node_carries_record :
    ¬∀ (settings : Settings) (request : ProvisionRequest) (plan : Plan) (t : List Event) (made : LocalVolume),
      (Path (HostPath.provision settings request plan) t (.ok made) ∨
        Path (Device.provision settings request plan) t (.ok made)) →
      ∃ node, request.node = some node ∧ node.carries made.nodeAffinity = true := by
  intro h
  obtain ⟨node, hnode, hcarries⟩ := h _ _ _ _ _ (.inl Small.path_zoneVolume)
  cases hnode
  exact absurd hcarries (by decide +kernel)

end NodeVolumes
