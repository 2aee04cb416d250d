import NodeVolumes.HostPath.HelperPod
import NodeVolumes.Proofs.HostPath.Command

/-! # What helper pods may touch

A helper pod has all rights on its node, so its parts have to keep it to one directory of the right node.

* `HelperTask.Confined`: what a pod mounts, what its command works on and where it may run.
* `HelperTask.confined_of_pod_eq_ok`: every pod that is built for a task is confined. -/

namespace NodeVolumes

/-! ### Looking into pods -/

namespace Pod

/-- The directories of the node that a pod knows under the name of a volume. -/
def hostDirs (pod : Pod) (volume : String) : List String :=
  ((pod.spec.bind (·.volumes)).getD []).filterMap fun v =>
    if v.name = volume then v.hostPath.map (·.path) else none

/-- The places at which the containers of a pod see a volume. -/
def mountPaths (pod : Pod) (volume : String) : List String :=
  ((pod.spec.map (·.containers)).getD []).flatMap fun c =>
    ((c.volumeMounts.getD []).filter fun m => m.name = volume).map (·.mountPath)

/-- The commands of the containers of a pod. -/
def commands (pod : Pod) : List (List String) :=
  ((pod.spec.map (·.containers)).getD []).filterMap (·.command)

/-- The nodes that a pod has to be placed on, if it says so. -/
def requiredNodes? (pod : Pod) : Option NodeSelector :=
  ((pod.spec.bind (·.affinity)).bind (·.nodeAffinity)).bind (·.required)

end Pod

namespace KeyMap

variable {κ α : Type} [Ord κ] [Std.TransOrd κ] [Std.LawfulEqOrd κ] [DecidableEq κ]

theorem filter_key_toList {m : KeyMap κ α} {k : κ} {v : α} (h : m.get? k = some v) :
    m.toList.filter (fun e => e.1 = k) = [(k, v)] := by
  have hmap : m.filter (fun e => e.1 = k) = singleton k v := by
    apply ext_get?
    intro j
    rw [get?_filter, singleton, get?_insert, get?_empty]
    by_cases hj : k = j
    · subst hj
      simp [h]
    · simp [hj, Ne.symm hj]
  exact congrArg toList hmap

end KeyMap

/-! ### Required nodes -/

namespace NodeSelector

/-- A selector asks for each label of a map with one requirement on it, and for nothing else. -/
structure AsksFor (s : NodeSelector) (requirements : List SelectorRequirement) (labels : TextMap) :
    Prop where
  terms : s.terms = [⟨some requirements, none⟩]
  nonempty : requirements ≠ []
  once : ∀ key value, labels.get? key = some value →
    requirements.filter (fun r => r.key = key) = [.isIn key value]
  only : ∀ r ∈ requirements, ∃ key value, labels.get? key = some value ∧ r = .isIn key value

theorem asksFor_ofLabels {labels : TextMap} (h : labels.isEmpty = false) :
    (ofLabels labels).AsksFor (labels.toList.map fun (key, v) => .isIn key v) labels where
  terms := rfl
  nonempty := by
    have hlabels : labels.toList ≠ [] := List.isEmpty_eq_false_iff.1 h
    simpa using hlabels
  once := by
    intro key value hget
    rw [List.filter_map]
    have hkey : (fun r : SelectorRequirement => decide (r.key = key)) ∘
        (fun e : String × String => .isIn e.1 e.2) = fun e => decide (e.1 = key) := rfl
    rw [hkey, KeyMap.filter_key_toList hget]
    rfl
  only := by
    intro r hr
    obtain ⟨⟨key, value⟩, hmem, rfl⟩ := List.mem_map.1 hr
    exact ⟨key, value, KeyMap.mem_toList_iff.1 hmem, rfl⟩

end NodeSelector

/-! ### Names of pods -/

namespace HostPath

theorem eq_of_name_append {op op' : HelperOperation} {s s' : String}
    (h : op.name ++ "-" ++ s = op'.name ++ "-" ++ s') : op.name = op'.name ∧ s = s' := by
  have hlist := congrArg String.toList h
  cases op <;> cases op' <;>
    simp [HelperOperation.name, String.toList_inj] at hlist ⊢ <;> exact hlist

end HostPath

/-! ### Pods for tasks -/

namespace HostPath.HelperTask

/-- What a pod for a task may touch: one directory of the node that lies below the root, in it only
the directory that its command names, and only on nodes with the labels of the task. -/
structure Confined (task : HelperTask) (pod : Pod) : Prop where
  dataDir : ∃ dir segments, pod.hostDirs "data" = [dir] ∧ pieces dir = "" :: segments ∧
    segments ≠ [] ∧ ∀ s ∈ segments, IsDownward s
  dataMount : pod.mountPaths "data" = [dataMount]
  command : ∃ leaf command, pod.commands = [command] ∧ task.operation.command leaf = .ok command ∧
    namedDirs command = List.replicate task.operation.uses (HostPath.dataMount ++ leaf) ∧
    IsDownward leaf ∧ ∀ c ∈ leaf.toList, IsNameChar c
  nodes : ∃ selector requirements, pod.requiredNodes? = some selector ∧
    selector.AsksFor requirements task.nodeAffinity

variable {task : HelperTask} {settings : Settings} {pod : Pod}

theorem check_eq_ok_iff : task.check settings = .ok () ↔
    task.volume ≠ "" ∧ task.path ≠ "" ∧ task.nodeAffinity.isEmpty = false ∧
      settings.serviceAccount ≠ "" := by
  unfold check
  split
  case isTrue hfails =>
    constructor
    · intro h
      cases h
    · rintro ⟨hvolume, hpath, haffinity, haccount⟩
      simp [hvolume, hpath, haffinity, haccount] at hfails
  case isFalse hpasses => simpa [not_or] using hpasses

/-- What has gone before when a pod is built: the task passed its check, its path was cut and its
operation gave a command. -/
theorem pod_eq_ok (h : task.pod settings = .ok pod) :
    task.check settings = .ok () ∧ ∃ parent leaf command,
      splitForMount task.path = .ok (parent, leaf) ∧ task.operation.command leaf = .ok command ∧
      pod.metadata = { name := some task.podName, ns := some settings.ns } ∧
      pod.hostDirs "data" = [parent] ∧ pod.mountPaths "data" = [HostPath.dataMount] ∧
      pod.commands = [command] ∧
      pod.requiredNodes? = some (NodeSelector.ofLabels task.nodeAffinity) := by
  unfold HelperTask.pod at h
  obtain ⟨⟨⟩, hcheck, h'⟩ := except_bind_eq_ok_iff.1 h
  obtain ⟨⟨parent, leaf⟩, hsplit, h''⟩ := except_bind_eq_ok_iff.1 h'
  obtain ⟨command, hcommand, hpod⟩ := except_bind_eq_ok_iff.1 h''
  cases hpod
  exact ⟨hcheck, parent, leaf, command, hsplit, hcommand, rfl, rfl, rfl, rfl, rfl⟩

theorem exists_pod_iff : (∃ pod, task.pod settings = .ok pod) ↔
    task.check settings = .ok () ∧ ∃ parent leaf command,
      splitForMount task.path = .ok (parent, leaf) ∧ task.operation.command leaf = .ok command := by
  constructor
  · rintro ⟨pod, hpod⟩
    obtain ⟨hcheck, parent, leaf, command, hsplit, hcommand, -⟩ := pod_eq_ok hpod
    exact ⟨hcheck, parent, leaf, command, hsplit, hcommand⟩
  · rintro ⟨hcheck, parent, leaf, command, hsplit, hcommand⟩
    unfold HelperTask.pod
    rw [hcheck, hsplit]
    show ∃ pod, (task.operation.command leaf >>= _) = Except.ok pod
    rw [hcommand]
    exact ⟨_, rfl⟩

theorem nameD_of_pod_eq_ok (h : task.pod settings = .ok pod) : pod.metadata.nameD = task.podName := by
  obtain ⟨-, _, _, _, -, -, hmeta, -⟩ := pod_eq_ok h
  rw [hmeta]
  rfl

/-- Every pod that is built for a task is confined to the directory of the task. -/
theorem confined_of_pod_eq_ok (h : task.pod settings = .ok pod) : task.Confined pod := by
  obtain ⟨hcheck, parent, leaf, command, hsplit, hcommand, -, hdirs, hmounts, hcommands, hnodes⟩ :=
    pod_eq_ok h
  obtain ⟨-, -, haffinity, -⟩ := check_eq_ok_iff.1 hcheck
  obtain ⟨above, habove, hsteps, rfl, hdown, hsafe⟩ := splitForMount_eq_ok hsplit
  rw [hsteps] at hdown
  have hslash : ∀ s ∈ above, '/' ∉ s.toList := by
    intro s hs
    have hmem : s ∈ steps task.path := hsteps ▸ List.mem_append_left _ hs
    exact slash_not_mem_of_mem_pieces (List.mem_of_mem_filter hmem)
  obtain ⟨-, hnamed⟩ := namedDirs_command hcommand
  exact {
    dataDir := ⟨_, above, hdirs, pieces_ofSteps habove hslash, habove,
      fun s hs => hdown s (List.mem_append_left _ hs)⟩
    dataMount := hmounts
    command := ⟨leaf, command, hcommands, hcommand, hnamed,
      hdown leaf (List.mem_append_right _ (List.mem_singleton_self leaf)),
      (isSafeName_iff.1 hsafe).2⟩
    nodes := ⟨_, _, hnodes, NodeSelector.asksFor_ofLabels haffinity⟩ }

end HostPath.HelperTask
end NodeVolumes
