import NodeVolumes.Object.Metadata
import NodeVolumes.Object.Schema.Pod
import NodeVolumes.Object.Selector

/-! # Pods

The parts of a pod that a helper pod uses, and the status by which it reports its end. All other parts
are kept in normal form. -/

namespace NodeVolumes

/-! ### Parts of a pod -/

/-- A directory of the node. -/
structure HostPathSource where
  path : String
  type : Option String := none
  deriving DecidableEq, Repr

namespace HostPathSource

/-- The directory that a JSON object describes. -/
def ofJson (j : Json) : HostPathSource := ⟨j.textD "path", j.text "type"⟩

/-- A directory as JSON. -/
def toJson (h : HostPathSource) : Json :=
  Json.ofFields [("path", some (.string h.path)), ("type", h.type.map .string)]

end HostPathSource

/-- A volume of a pod. -/
structure PodVolume where
  name : String
  hostPath : Option HostPathSource := none
  /-- The members that the program does not look at, in normal form. -/
  further : List (String × Json) := []
  deriving DecidableEq, Repr

namespace PodVolume

/-- The volume that a JSON object describes. -/
def ofJson (j : Json) : PodVolume :=
  ⟨j.textD "name", j.read "hostPath" .ofJson, Schema.podVolume.further ["name", "hostPath"] j⟩

/-- A volume as JSON. -/
def toJson (v : PodVolume) : Json :=
  (Json.ofFields
    [("name", some (.string v.name)),
      ("hostPath", v.hostPath.map HostPathSource.toJson)]).withMembers v.further

end PodVolume

/-- A place in a container at which it sees a volume. -/
structure VolumeMount where
  name : String
  mountPath : String
  readOnly : Option Bool := none
  /-- The members that the program does not look at, in normal form. -/
  further : List (String × Json) := []
  deriving DecidableEq, Repr

namespace VolumeMount

/-- The mount that a JSON object describes. -/
def ofJson (j : Json) : VolumeMount where
  name := j.textD "name"
  mountPath := j.textD "mountPath"
  readOnly := j.flag "readOnly"
  further := Schema.volumeMount.further ["name", "mountPath", "readOnly"] j

/-- A mount as JSON. -/
def toJson (m : VolumeMount) : Json :=
  (Json.ofFields
    [("name", some (.string m.name)), ("mountPath", some (.string m.mountPath)),
      ("readOnly", m.readOnly.map .bool)]).withMembers m.further

end VolumeMount

/-- What a container may do to its node. -/
structure SecurityContext where
  privileged : Option Bool := none
  /-- The members that the program does not look at, in normal form. -/
  further : List (String × Json) := []
  deriving DecidableEq, Repr

namespace SecurityContext

/-- The rights that a JSON object describes. -/
def ofJson (j : Json) : SecurityContext :=
  ⟨j.flag "privileged", Schema.securityContext.further ["privileged"] j⟩

/-- Rights as JSON. -/
def toJson (c : SecurityContext) : Json :=
  (Json.ofFields [("privileged", c.privileged.map .bool)]).withMembers c.further

end SecurityContext

/-- A container of a pod. -/
structure Container where
  name : String
  image : Option String := none
  command : Option (List String) := none
  volumeMounts : Option (List VolumeMount) := none
  securityContext : Option SecurityContext := none
  /-- The members that the program does not look at, in normal form. -/
  further : List (String × Json) := []
  deriving DecidableEq, Repr

namespace Container

/-- The container that a JSON object describes. -/
def ofJson (j : Json) : Container where
  name := j.textD "name"
  image := j.text "image"
  command := j.texts "command"
  volumeMounts := j.readAll "volumeMounts" .ofJson
  securityContext := j.read "securityContext" .ofJson
  further := Schema.container.further
    ["name", "image", "command", "volumeMounts", "securityContext"] j

/-- A container as JSON. -/
def toJson (c : Container) : Json :=
  (Json.ofFields
    [("name", some (.string c.name)),
      ("image", c.image.map .string),
      ("command", c.command.map Json.ofTexts),
      ("volumeMounts", c.volumeMounts.map (Json.ofList VolumeMount.toJson)),
      ("securityContext", c.securityContext.map SecurityContext.toJson)]).withMembers c.further

end Container

/-- What lets a pod onto a tainted node. -/
structure Toleration where
  key : Option String := none
  operator : Option String := none
  value : Option String := none
  effect : Option String := none
  /-- How long the pod may stay. -/
  seconds : Option Int := none
  deriving DecidableEq, Repr

namespace Toleration

/-- The toleration that a JSON object describes. -/
def ofJson (j : Json) : Toleration :=
  ⟨j.text "key", j.text "operator", j.text "value", j.text "effect", j.whole "tolerationSeconds"⟩

/-- A toleration as JSON. -/
def toJson (t : Toleration) : Json :=
  Json.ofFields
    [("key", t.key.map .string), ("operator", t.operator.map .string),
      ("value", t.value.map .string), ("effect", t.effect.map .string),
      ("tolerationSeconds", t.seconds.map Json.ofInt)]

end Toleration

/-- The nodes that a pod may run on. -/
structure PodNodeAffinity where
  required : Option NodeSelector := none
  /-- The members that the program does not look at, in normal form. -/
  further : List (String × Json) := []
  deriving DecidableEq, Repr

namespace PodNodeAffinity

/-- The key under which a pod names the nodes that it may be placed on. -/
def requiredKey : String := "requiredDuringSchedulingIgnoredDuringExecution"

/-- The nodes that a JSON object describes. -/
def ofJson (j : Json) : PodNodeAffinity :=
  ⟨j.read requiredKey NodeSelector.ofJson, Schema.podNodeAffinity.further [requiredKey] j⟩

/-- The nodes as JSON. -/
def toJson (a : PodNodeAffinity) : Json :=
  (Json.ofFields [(requiredKey, a.required.map NodeSelector.toJson)]).withMembers a.further

end PodNodeAffinity

/-- Where a pod may run. -/
structure Affinity where
  nodeAffinity : Option PodNodeAffinity := none
  /-- The members that the program does not look at, in normal form. -/
  further : List (String × Json) := []
  deriving DecidableEq, Repr

namespace Affinity

/-- The affinity that a JSON object describes. -/
def ofJson (j : Json) : Affinity :=
  ⟨j.read "nodeAffinity" .ofJson, Schema.affinity.further ["nodeAffinity"] j⟩

/-- An affinity as JSON. -/
def toJson (a : Affinity) : Json :=
  (Json.ofFields [("nodeAffinity", a.nodeAffinity.map PodNodeAffinity.toJson)]).withMembers a.further

end Affinity

/-! ### Pods -/

/-- What a pod runs and where. -/
structure PodSpec where
  containers : List Container
  volumes : Option (List PodVolume) := none
  restartPolicy : Option String := none
  serviceAccountName : Option String := none
  nodeName : Option String := none
  hostNetwork : Option Bool := none
  affinity : Option Affinity := none
  tolerations : Option (List Toleration) := none
  /-- The names of the secrets; each may be missing. -/
  imagePullSecrets : Option (List (Option String)) := none
  /-- The members that the program does not look at, in normal form. -/
  further : List (String × Json) := []
  deriving DecidableEq, Repr

namespace PodSpec

/-- The members that the program looks at. -/
def knownKeys : List String :=
  ["containers", "volumes", "restartPolicy", "serviceAccountName", "nodeName", "hostNetwork", "affinity",
    "tolerations", "imagePullSecrets"]

/-- The specification that a JSON object describes. -/
def ofJson (j : Json) : PodSpec where
  containers := (j.readAll "containers" Container.ofJson).getD []
  volumes := j.readAll "volumes" .ofJson
  restartPolicy := j.text "restartPolicy"
  serviceAccountName := j.text "serviceAccountName"
  nodeName := j.text "nodeName"
  hostNetwork := j.flag "hostNetwork"
  affinity := j.read "affinity" .ofJson
  tolerations := j.readAll "tolerations" .ofJson
  imagePullSecrets := j.readAll "imagePullSecrets" (·.text "name")
  further := Schema.podSpec.further knownKeys j

/-- A specification as JSON. -/
def toJson (s : PodSpec) : Json :=
  (Json.ofFields
    [("containers", some (Json.ofList Container.toJson s.containers)),
      ("volumes", s.volumes.map (Json.ofList PodVolume.toJson)),
      ("restartPolicy", s.restartPolicy.map .string),
      ("serviceAccountName", s.serviceAccountName.map .string),
      ("nodeName", s.nodeName.map .string),
      ("hostNetwork", s.hostNetwork.map .bool),
      ("affinity", s.affinity.map Affinity.toJson),
      ("tolerations", s.tolerations.map (Json.ofList Toleration.toJson)),
      ("imagePullSecrets", s.imagePullSecrets.map
        (Json.ofList fun name => Json.ofFields [("name", name.map .string)]))]).withMembers s.further

end PodSpec

/-- How a pod is doing. -/
structure PodStatus where
  phase : Option String := none
  message : Option String := none
  reason : Option String := none
  /-- The members that the program does not look at, in normal form. -/
  further : List (String × Json) := []
  deriving DecidableEq, Repr

namespace PodStatus

/-- The status that a JSON object describes. -/
def ofJson (j : Json) : PodStatus where
  phase := j.text "phase"
  message := j.text "message"
  reason := j.text "reason"
  further := Schema.podStatus.further ["phase", "message", "reason"] j

/-- A status as JSON. -/
def toJson (s : PodStatus) : Json :=
  (Json.ofFields
    [("phase", s.phase.map .string), ("message", s.message.map .string),
      ("reason", s.reason.map .string)]).withMembers s.further

end PodStatus

/-- A group of containers on one node. -/
structure Pod where
  metadata : Metadata
  spec : Option PodSpec := none
  status : Option PodStatus := none
  deriving DecidableEq, Repr

namespace Pod

/-- The pod that a JSON object describes. -/
def ofJson (j : Json) : Pod where
  metadata := Metadata.ofObject j
  spec := j.read "spec" .ofJson
  status := j.read "status" .ofJson

/-- A pod as JSON. -/
def toJson (p : Pod) : Json :=
  Json.ofObject .pod p.metadata
    [("spec", p.spec.map PodSpec.toJson), ("status", p.status.map PodStatus.toJson)]

end Pod
end NodeVolumes
