import NodeVolumes.Object.Schema.Metadata

/-! # Kinds and metadata of objects

Each kind of object has its name and version in the API. All objects carry metadata: who they are, and
labels and annotations about them.

* `Metadata.ofJson` and `Metadata.toJson` read and write metadata. -/

namespace NodeVolumes

/-! ### Kinds -/

/-- The kinds of objects that the program deals with. -/
inductive Kind where
  | storageClass
  | node
  | pod
  | persistentVolumeClaim
  | persistentVolume
  | blockDevice
  | blockDeviceClaim
  deriving DecidableEq, Repr

namespace Kind

/-- The name of a kind. -/
def name : Kind → String
  | storageClass => "StorageClass"
  | node => "Node"
  | pod => "Pod"
  | persistentVolumeClaim => "PersistentVolumeClaim"
  | persistentVolume => "PersistentVolume"
  | blockDevice => "BlockDevice"
  | blockDeviceClaim => "BlockDeviceClaim"

/-- The version of the API that a kind belongs to. -/
def apiVersion : Kind → String
  | storageClass => "storage.k8s.io/v1"
  | blockDevice | blockDeviceClaim => "openebs.io/v1alpha1"
  | _ => "v1"

/-- All kinds. -/
def all : List Kind :=
  [storageClass, node, pod, persistentVolumeClaim, persistentVolume, blockDevice, blockDeviceClaim]

/-- The kind with a name. -/
def ofName? (s : String) : Option Kind := all.find? (·.name = s)

theorem ofName?_name (k : Kind) : ofName? k.name = some k := by cases k <;> decide +kernel

end Kind

/-! ### Metadata -/

/-- What every object says about itself. -/
structure Metadata where
  name : Option String := none
  generateName : Option String := none
  ns : Option String := none
  uid : Option String := none
  resourceVersion : Option String := none
  deletionTimestamp : Option Timestamp := none
  labels : Option TextMap := none
  annotations : Option TextMap := none
  finalizers : Option (List String) := none
  /-- The members that the program does not look at, in normal form. -/
  further : List (String × Json) := []
  deriving DecidableEq, Repr, Inhabited

namespace Metadata

/-- The name, empty when there is none. -/
def nameD (m : Metadata) : String := m.name.getD ""

/-- The value of a label. -/
def label? (m : Metadata) (key : String) : Option String := m.labels.bind (·.get? key)

/-- The value of an annotation. -/
def annotation? (m : Metadata) (key : String) : Option String := m.annotations.bind (·.get? key)

/-- The members that the program looks at. -/
def knownKeys : List String :=
  ["name", "generateName", "namespace", "uid", "resourceVersion", "deletionTimestamp", "labels",
    "annotations", "finalizers"]

/-- The metadata under its key in an object. -/
def ofObject (j : Json) : Metadata :=
  let m := (j.member? "metadata").getD .null
  { name := m.text "name"
    generateName := m.text "generateName"
    ns := m.text "namespace"
    uid := m.text "uid"
    resourceVersion := m.text "resourceVersion"
    deletionTimestamp := m.time "deletionTimestamp"
    labels := m.read "labels" Json.toTextMap
    annotations := m.read "annotations" Json.toTextMap
    finalizers := m.texts "finalizers"
    further := Schema.metadata.further knownKeys m }

/-- Metadata as JSON. -/
def toJson (m : Metadata) : Json :=
  (Json.ofFields
    [("name", m.name.map .string),
      ("generateName", m.generateName.map .string),
      ("namespace", m.ns.map .string),
      ("uid", m.uid.map .string),
      ("resourceVersion", m.resourceVersion.map .string),
      ("deletionTimestamp", m.deletionTimestamp.map Timestamp.toJson),
      ("labels", m.labels.map Json.ofTextMap),
      ("annotations", m.annotations.map Json.ofTextMap),
      ("finalizers", m.finalizers.map Json.ofTexts)]).withMembers m.further

end Metadata

/-- An object of a kind with its metadata and further members. -/
def Json.ofObject (kind : Kind) (metadata : Metadata) (fields : List (String × Option Json)) : Json :=
  Json.ofFields
    ([("apiVersion", some (.string kind.apiVersion)), ("kind", some (.string kind.name)),
      ("metadata", some metadata.toJson)] ++ fields)

end NodeVolumes
