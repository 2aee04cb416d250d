import NodeVolumes.Object.Pod

/-! # Persistent volumes

The object that stands for a volume: where its storage lies, which nodes can reach it and which claim
it is bound to. -/

namespace NodeVolumes

/-- Storage on one node. -/
structure LocalSource where
  path : String
  fsType : Option String := none
  deriving DecidableEq, Repr

namespace LocalSource

/-- The storage that a JSON object describes. -/
def ofJson (j : Json) : LocalSource := ⟨j.textD "path", j.text "fsType"⟩

/-- Storage on one node as JSON. -/
def toJson (l : LocalSource) : Json :=
  Json.ofFields [("path", some (.string l.path)), ("fsType", l.fsType.map .string)]

end LocalSource

/-- A reference to an object. -/
structure ObjectReference where
  apiVersion : Option String := none
  fieldPath : Option String := none
  kind : Option String := none
  name : Option String := none
  ns : Option String := none
  resourceVersion : Option String := none
  uid : Option String := none
  deriving DecidableEq, Repr

namespace ObjectReference

/-- The reference that a JSON object describes. -/
def ofJson (j : Json) : ObjectReference where
  apiVersion := j.text "apiVersion"
  fieldPath := j.text "fieldPath"
  kind := j.text "kind"
  name := j.text "name"
  ns := j.text "namespace"
  resourceVersion := j.text "resourceVersion"
  uid := j.text "uid"

/-- A reference as JSON. -/
def toJson (r : ObjectReference) : Json :=
  Json.ofFields
    [("apiVersion", r.apiVersion.map .string), ("fieldPath", r.fieldPath.map .string),
      ("kind", r.kind.map .string), ("name", r.name.map .string),
      ("namespace", r.ns.map .string), ("resourceVersion", r.resourceVersion.map .string),
      ("uid", r.uid.map .string)]

end ObjectReference

/-- The nodes from which a volume can be reached. -/
structure VolumeNodeAffinity where
  required : Option NodeSelector := none
  deriving DecidableEq, Repr

/-- What a persistent volume consists of. -/
structure VolumeSpec where
  accessModes : Option (List String) := none
  capacity : Option TextMap := none
  claimRef : Option ObjectReference := none
  hostPath : Option HostPathSource := none
  localSource : Option LocalSource := none
  mountOptions : Option (List String) := none
  nodeAffinity : Option VolumeNodeAffinity := none
  reclaimPolicy : Option String := none
  storageClassName : Option String := none
  volumeMode : Option String := none
  /-- The members that the program does not look at, in normal form. -/
  further : List (String × Json) := []
  deriving DecidableEq, Repr

namespace VolumeSpec

/-- The members that the program looks at. -/
def knownKeys : List String :=
  ["accessModes", "capacity", "claimRef", "hostPath", "local", "mountOptions", "nodeAffinity",
    "persistentVolumeReclaimPolicy", "storageClassName", "volumeMode"]

/-- The specification that a JSON object describes. -/
def ofJson (j : Json) : VolumeSpec where
  accessModes := j.texts "accessModes"
  capacity := j.read "capacity" Json.toTextMap
  claimRef := j.read "claimRef" .ofJson
  hostPath := j.read "hostPath" .ofJson
  localSource := j.read "local" .ofJson
  mountOptions := j.texts "mountOptions"
  nodeAffinity := j.read "nodeAffinity" fun a => ⟨a.read "required" .ofJson⟩
  reclaimPolicy := j.text "persistentVolumeReclaimPolicy"
  storageClassName := j.text "storageClassName"
  volumeMode := j.text "volumeMode"
  further := Schema.persistentVolumeSpec.further knownKeys j

/-- A specification as JSON. -/
def toJson (s : VolumeSpec) : Json :=
  (Json.ofFields
    [("accessModes", s.accessModes.map Json.ofTexts),
      ("capacity", s.capacity.map Json.ofTextMap),
      ("claimRef", s.claimRef.map ObjectReference.toJson),
      ("hostPath", s.hostPath.map HostPathSource.toJson),
      ("local", s.localSource.map LocalSource.toJson),
      ("mountOptions", s.mountOptions.map Json.ofTexts),
      ("nodeAffinity", s.nodeAffinity.map fun a =>
        Json.ofFields [("required", a.required.map NodeSelector.toJson)]),
      ("persistentVolumeReclaimPolicy", s.reclaimPolicy.map .string),
      ("storageClassName", s.storageClassName.map .string),
      ("volumeMode", s.volumeMode.map .string)]).withMembers s.further

end VolumeSpec

/-- How a persistent volume is doing. -/
structure VolumeStatus where
  phase : Option String := none
  message : Option String := none
  reason : Option String := none
  /-- When the phase changed. -/
  since : Option Timestamp := none
  deriving DecidableEq, Repr

namespace VolumeStatus

/-- The status that a JSON object describes. -/
def ofJson (j : Json) : VolumeStatus :=
  ⟨j.text "phase", j.text "message", j.text "reason", j.time "lastPhaseTransitionTime"⟩

/-- A status as JSON. -/
def toJson (s : VolumeStatus) : Json :=
  Json.ofFields
    [("phase", s.phase.map .string), ("message", s.message.map .string),
      ("reason", s.reason.map .string), ("lastPhaseTransitionTime", s.since.map Timestamp.toJson)]

end VolumeStatus

/-- A volume that pods can use. -/
structure PersistentVolume where
  metadata : Metadata
  spec : Option VolumeSpec := none
  status : Option VolumeStatus := none
  deriving DecidableEq, Repr

namespace PersistentVolume

/-- The persistent volume that a JSON object describes. -/
def ofJson (j : Json) : PersistentVolume where
  metadata := Metadata.ofObject j
  spec := j.read "spec" .ofJson
  status := j.read "status" .ofJson

/-- A persistent volume as JSON. -/
def toJson (v : PersistentVolume) : Json :=
  Json.ofObject .persistentVolume v.metadata
    [("spec", v.spec.map VolumeSpec.toJson), ("status", v.status.map VolumeStatus.toJson)]

end PersistentVolume
end NodeVolumes
