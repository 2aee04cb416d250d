import NodeVolumes.Config.Settings
import NodeVolumes.HostPath.Operation
import NodeVolumes.Object.Node
import NodeVolumes.Object.Pod

/-! # Helper pods

A helper pod works on the volume directory of one node. It mounts the directory above the volume, so
it can make and remove the volume's own directory.

* `HelperTask.pod` builds the pod for a task, or refuses a task that is not complete or not safe. -/

namespace NodeVolumes.HostPath

/-- The work of one helper pod. -/
structure HelperTask where
  operation : HelperOperation
  /-- The name of the persistent volume. -/
  volume : String
  /-- The path of the volume on its node. -/
  path : String
  /-- The labels of the node to run on. -/
  nodeAffinity : TextMap
  /-- The taints of the node, which the pod tolerates. -/
  taints : List Taint
  deriving DecidableEq, Repr

namespace HelperTask

/-- The name of the pod: the operation and the volume. -/
def podName (t : HelperTask) : String := t.operation.name ++ "-" ++ t.volume

/-- Refuses a task that lacks a part, and settings without a service account. -/
def check (t : HelperTask) (settings : Settings) : Except Error Unit :=
  if t.volume = "" ∨ t.path = "" ∨ t.nodeAffinity.isEmpty ∨ settings.serviceAccount = "" then
    .error (.invalidHelperOptions
      "invalid empty name or hostpath or hostname or service account name")
  else .ok ()

end HelperTask

/-! ### The parts of the pod -/

/-- The toleration of a taint. -/
def toleration (t : Taint) : Toleration where
  key := some t.key
  operator := some (if t.value.isSome then "Equal" else "Exists")
  value := t.value
  effect := some t.effect

/-- A directory of the node as a volume of the pod. -/
def directory (name path : String) : PodVolume := { name, hostPath := some { path } }

/-- The writable mount of a volume. -/
def writableMount (name path : String) : VolumeMount :=
  { name, mountPath := path, readOnly := some false }

/-- The container that runs the command. -/
def helperContainer (op : HelperOperation) (image : String) (command : List String) : Container where
  name := "local-path-" ++ op.name
  image := some image
  command := some command
  volumeMounts := some [writableMount "data" dataMount, writableMount "dev" devMount]
  securityContext := some { privileged := some true }

/-- The pod for a task. -/
def HelperTask.pod (t : HelperTask) (settings : Settings) : Except Error Pod := do
  t.check settings
  let (parent, leaf) ← splitForMount t.path
  let command ← t.operation.command leaf
  return {
    metadata := { name := some t.podName, ns := some settings.ns }
    spec := some
      { containers := [helperContainer t.operation settings.helperImage command]
        volumes := some [directory "data" parent, directory "dev" devMount]
        restartPolicy := some "Never"
        serviceAccountName := some settings.serviceAccount
        hostNetwork := if settings.helperHostNetwork then some true else none
        affinity := some
          { nodeAffinity := some { required := some (NodeSelector.ofLabels t.nodeAffinity) } }
        tolerations := some (t.taints.map toleration)
        imagePullSecrets :=
          if settings.imagePullSecrets = [] then none
          else some (settings.imagePullSecrets.map some) } }

end NodeVolumes.HostPath
