import Mathlib.Data.List.TakeDrop
import Mathlib.Data.List.TakeWhile
import NodeVolumes.Api.Adapter
import NodeVolumes.Proofs.Volume.Pinning
import NodeVolumes.Simulation.ControllerStage

/-! # Label selectors

Nodes are looked up by labels. A cluster in memory compares the labels; the API server gets them as one text, which it
takes apart again. Both find the same nodes, since the text can be taken apart in one way only as long as no label holds
a comma or an equals sign.

* `Selects`: what a selector means, and `matchesSelector_iff`: this is how the server reads it.
* `requirements_labelSelector`: the requirements of the selector for some labels are these labels.
* `selects_labelSelector_iff`: it selects what carries the labels.
* `adapters_find_same_nodes`: both ways to look nodes up agree, and different labels have different selectors. -/

namespace NodeVolumes.Api

open Cluster (Memory)

/-! ### The meaning of selectors -/

/-- One requirement of a selector, for the value of a key. -/
def requirement (key value : String) : String := key ++ "=" ++ value

/-- The requirements of a selector: what stands between its commas. -/
def requirements (selector : String) : List String := (selector.toList.splitOn ',').map String.ofList

/-- Some labels meet a requirement: its key ends at its first equals sign, and what follows is the value of the
label. -/
def Meets (labels : TextMap) (r : String) : Prop :=
  ∃ key value, r = requirement key value ∧ '=' ∉ key.toList ∧ labels.get? key = some value

/-- A selector selects what has the labels for all of its requirements. The empty one has none. -/
def Selects (selector : String) (labels : TextMap) : Prop :=
  selector = "" ∨ ∀ r ∈ requirements selector, Meets labels r

/-- No key and no value holds a comma or an equals sign. -/
def IsPlain (labels : TextMap) : Prop :=
  ∀ key value, labels.get? key = some value →
    (',' ∉ key.toList ∧ '=' ∉ key.toList) ∧ ',' ∉ value.toList ∧ '=' ∉ value.toList

variable {labels own other : TextMap} {key value key' value' r selector : String}

@[simp] theorem toList_requirement : (requirement key value).toList = key.toList ++ '=' :: value.toList := by
  simp [requirement]

theorem span_requirement (h : '=' ∉ key.toList) :
    (requirement key value).toList.span (· ≠ '=') = (key.toList, '=' :: value.toList) := by
  have hkey : ∀ c ∈ key.toList, decide (c ≠ '=') = true := by
    intro c hc
    exact decide_eq_true fun heq => h (heq ▸ hc)
  rw [List.span_eq_takeWhile_dropWhile, toList_requirement, List.takeWhile_append_of_pos hkey,
    List.dropWhile_append_of_pos hkey]
  simp

theorem requirement_inj (h : '=' ∉ key.toList) (h' : '=' ∉ key'.toList) :
    requirement key value = requirement key' value' ↔ key = key' ∧ value = value' := by
  constructor
  · intro heq
    have hspan : (key.toList, '=' :: value.toList) = (key'.toList, '=' :: value'.toList) := by
      rw [← span_requirement h, heq, span_requirement h']
    rw [Prod.mk.injEq, List.cons.injEq] at hspan
    exact ⟨String.toList_injective hspan.1, String.toList_injective hspan.2.2⟩
  · rintro ⟨rfl, rfl⟩
    rfl

theorem meets_requirement_iff (h : '=' ∉ key.toList) :
    Meets own (requirement key value) ↔ own.get? key = some value := by
  constructor
  · rintro ⟨key', value', heq, h', hget⟩
    obtain ⟨rfl, rfl⟩ := (requirement_inj h h').1 heq
    exact hget
  · exact fun hget => ⟨key, value, rfl, h, hget⟩

/-! ### How the server reads selectors -/

theorem meets_iff : Server.meets labels r = true ↔ Meets labels r := by
  unfold Server.meets
  constructor
  · intro h
    rw [List.span_eq_takeWhile_dropWhile] at h
    cases hrest : r.toList.dropWhile (· ≠ '=') with
    | nil =>
      rw [hrest] at h
      cases h
    | cons c rest =>
      have hc : c = '=' := by
        have := List.head?_dropWhile_not (· ≠ '=') r.toList
        rw [hrest] at this
        simpa using this
      subst hc
      rw [hrest] at h
      refine ⟨String.ofList (r.toList.takeWhile (· ≠ '=')), String.ofList rest, ?_, ?_, by simpa using h⟩
      · apply String.toList_injective
        rw [toList_requirement, String.toList_ofList, String.toList_ofList, ← hrest, List.takeWhile_append_dropWhile]
      · rw [String.toList_ofList]
        intro hmem
        simpa using List.mem_takeWhile_imp hmem
  · rintro ⟨key, value, rfl, hkey, hget⟩
    rw [span_requirement hkey]
    simpa using hget

/-- The server selects what a selector means. -/
theorem matchesSelector_iff : Server.matchesSelector labels selector = true ↔ Selects selector labels := by
  unfold Server.matchesSelector Selects requirements
  rw [Bool.or_eq_true, decide_eq_true_iff, List.all_eq_true]
  simp [meets_iff]

instance : Decidable (Selects selector labels) := decidable_of_iff _ matchesSelector_iff

/-! ### The selector for labels -/

theorem isPlain_iff : IsPlain labels ↔ ∀ e ∈ labels.toList,
    (',' ∉ e.1.toList ∧ '=' ∉ e.1.toList) ∧ ',' ∉ e.2.toList ∧ '=' ∉ e.2.toList :=
  ⟨fun h e he => h e.1 e.2 (KeyMap.mem_toList_iff.1 he),
    fun h key value hget => h (key, value) (KeyMap.mem_toList_iff.2 hget)⟩

instance : Decidable (IsPlain labels) := decidable_of_iff _ isPlain_iff.symm

/-- The requirements of the selector for some labels are those of the labels, in their order. -/
theorem requirements_labelSelector (hplain : IsPlain labels) (hne : labels.toList ≠ []) :
    requirements (labelSelector labels) = labels.toList.map fun e => requirement e.1 e.2 := by
  have hcomma : ∀ cs ∈ (labels.toList.map fun e => requirement e.1 e.2).map String.toList, ',' ∉ cs := by
    simp only [List.mem_map, forall_exists_index, and_imp, forall_apply_eq_imp_iff₂, toList_requirement]
    intro e he
    obtain ⟨⟨hkey, -⟩, hvalue, -⟩ := isPlain_iff.1 hplain e he
    simp [hkey, hvalue]
  have htext : (labelSelector labels).toList =
      [','].intercalate ((labels.toList.map fun e => requirement e.1 e.2).map String.toList) := by
    unfold labelSelector
    rw [String.toList_intercalate]
    rfl
  unfold requirements
  rw [htext, List.splitOn_intercalate ',' hcomma (by simpa using hne), List.map_map]
  exact List.map_id'' (fun r => String.ofList_toList) _

theorem labelSelector_eq_empty_iff (hplain : IsPlain labels) : labelSelector labels = "" ↔ labels.toList = [] := by
  constructor
  · intro hempty
    by_contra hne
    have hrequirements := requirements_labelSelector hplain hne
    rw [hempty] at hrequirements
    obtain ⟨e, rest, hlist⟩ := List.exists_cons_of_ne_nil hne
    have hfirst := congrArg (fun rs : List String => rs.head?.map String.toList) hrequirements
    simp [requirements, hlist] at hfirst
  · intro hnil
    unfold labelSelector
    rw [hnil]
    rfl

/-- The selector for some labels selects what carries them. -/
theorem selects_labelSelector_iff (hplain : IsPlain labels) :
    Selects (labelSelector labels) own ↔ ∀ key value, labels.get? key = some value → own.get? key = some value := by
  unfold Selects
  rw [labelSelector_eq_empty_iff hplain]
  by_cases hnil : labels.toList = []
  · refine iff_of_true (.inl hnil) fun key value hget => ?_
    have := KeyMap.mem_toList_iff.2 hget
    rw [hnil] at this
    cases this
  · rw [or_iff_right hnil, requirements_labelSelector hplain hnil]
    constructor
    · intro h key value hget
      have hmem := KeyMap.mem_toList_iff.2 hget
      exact (meets_requirement_iff (hplain key value hget).1.2).1 (h _ (List.mem_map_of_mem hmem))
    · intro h r hr
      obtain ⟨e, he, rfl⟩ := List.mem_map.1 hr
      exact (meets_requirement_iff (isPlain_iff.1 hplain e he).1.2).2 (h e.1 e.2 (KeyMap.mem_toList_iff.1 he))

theorem labelSelector_inj (hplain : IsPlain labels) (hplain' : IsPlain other) :
    labelSelector labels = labelSelector other ↔ labels = other := by
  refine ⟨fun heq => ?_, fun heq => heq ▸ rfl⟩
  -- what carries the one set of labels carries the other one, and each set carries itself
  have hselects (own : TextMap) : Selects (labelSelector labels) own ↔
      ∀ key value, labels.get? key = some value → own.get? key = some value := selects_labelSelector_iff hplain
  simp only [heq, selects_labelSelector_iff hplain'] at hselects
  refine KeyMap.ext_get? fun key => Option.ext fun value => ?_
  exact ⟨fun hget => (hselects other).1 (fun _ _ => id) key value hget,
    fun hget => (hselects labels).2 (fun _ _ => id) key value hget⟩

/-! ### Looking nodes up -/

/-- The labels of a node. -/
def labelsOfNode (node : Node) : TextMap := node.metadata.labels.getD .empty

theorem get?_labelsOfNode (node : Node) : (labelsOfNode node).get? key = node.metadata.label? key := by
  unfold labelsOfNode Metadata.label?
  cases node.metadata.labels with
  | none => exact KeyMap.get?_empty key
  | some labels => rfl

theorem selects_node_iff (hplain : IsPlain labels) (node : Node) :
    Selects (labelSelector labels) (labelsOfNode node) ↔ node.carries labels = true := by
  rw [selects_labelSelector_iff hplain, Node.carries_iff]
  simp only [get?_labelsOfNode]

/-- Of some nodes the selector for plain labels selects those that carry the labels, which are those that a cluster in
memory lists. So a server that holds the same nodes and knows what the selector means answers the look-up alike. No
other plain labels have the same selector. -/
theorem adapters_find_same_nodes (hplain : IsPlain labels) :
    (∀ nodes : List Node, nodes.filter (fun node => Selects (labelSelector labels) (labelsOfNode node)) =
      nodes.filter (·.carries labels)) ∧
    (∀ m : Memory,
      (m.answer (.listNodes labels)).1 =
        .ok (m.nodes.values.filter fun node => Selects (labelSelector labels) (labelsOfNode node)) ∧
      ∀ {σ : Type} (w : World Call Reply Note σ) (s : σ),
        (w.answer (.list .node none (some (labelSelector labels))) s).1 =
          .ok (m.nodes.values.filter fun node => Selects (labelSelector labels) (labelsOfNode node)) →
        (w.run (overApi (.listNodes labels)) s).1 = (m.answer (.listNodes labels)).1) ∧
    ∀ other, IsPlain other → labelSelector other = labelSelector labels → other = labels := by
  have hfilter (nodes : List Node) :
      nodes.filter (fun node => Selects (labelSelector labels) (labelsOfNode node)) =
        nodes.filter (·.carries labels) := by
    refine List.filter_congr fun node _ => ?_
    rw [Bool.eq_iff_iff, decide_eq_true_iff]
    exact selects_node_iff hplain node
  refine ⟨hfilter, fun m => ⟨?_, fun w s hanswer => ?_⟩, fun other hother heq => ?_⟩
  · rw [hfilter]
    rfl
  · rw [hfilter] at hanswer
    show ((w.answer (.list .node none (some (labelSelector labels))) s).1).mapError Error.api = _
    rw [hanswer]
    rfl
  · exact (labelSelector_inj hother hplain).1 heq

namespace Small

/-- A node with a host name in a zone. -/
def zonedNode (name zone : String) : Node where
  metadata :=
    { name := some name
      labels := some ((KeyMap.singleton hostnameLabel name).insert "openebs.io/zone" zone) }

/-- The labels of a node in the zone without a name. -/
def zoneLabels : TextMap := (KeyMap.singleton hostnameLabel "node-1").insert "openebs.io/zone" ""

/-- Nodes in a cluster in memory. -/
def zonedCluster : Memory := (({} : Memory).addNode (zonedNode "node-1" "")).addNode (zonedNode "node-2" "b")

/-- The same nodes on an API server. -/
def zonedServer : Server :=
  (({} : Server).put .node (zonedNode "node-1" "").toJson).put .node (zonedNode "node-2" "b").toJson

end Small

/-- A label with an empty value is a requirement, too, and the server answers like the cluster in memory. -/
theorem adapters_find_same_nodes_zone :
    labelSelector Small.zoneLabels = "kubernetes.io/hostname=node-1,openebs.io/zone=" ∧
      (Simulation.controllerWorld.run (overApi (.listNodes Small.zoneLabels)) { store := Small.zonedServer }).1 =
        .ok [Small.zonedNode "node-1" ""] := by
  have hplain : IsPlain Small.zoneLabels := by decide +kernel
  obtain ⟨-, hsame, -⟩ := adapters_find_same_nodes hplain
  refine ⟨by decide +kernel, ?_⟩
  rw [(hsame Small.zonedCluster).2 Simulation.controllerWorld { store := Small.zonedServer } (by decide +kernel)]
  decide +kernel

end NodeVolumes.Api
