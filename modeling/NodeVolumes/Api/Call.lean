import NodeVolumes.Error
import NodeVolumes.Object.BlockDeviceClaim
import NodeVolumes.Object.Node
import NodeVolumes.Object.PersistentVolume
import NodeVolumes.Object.PersistentVolumeClaim
import NodeVolumes.Object.Schema.Kind
import NodeVolumes.Object.StorageClass

/-! # Calls of the API server

The API server keeps objects of every kind as JSON and offers the same few verbs for each.

* `Kind.Object` is the type of the objects of a kind, with `Kind.read?` and `Kind.write` between it and
  JSON.
* `Api.Call` lists the calls, `Api.Call.Answer` what each gives and `Api.Reply` what comes back. -/

namespace NodeVolumes

namespace Kind

/-- The objects of a kind. -/
@[reducible] def Object : Kind → Type
  | storageClass => StorageClass
  | node => Node
  | pod => Pod
  | persistentVolumeClaim => PersistentVolumeClaim
  | persistentVolume => PersistentVolume
  | blockDevice => BlockDevice
  | blockDeviceClaim => BlockDeviceClaim

/-- The object of a kind that a JSON object in normal form describes. -/
def ofNormal : (kind : Kind) → Json → kind.Object
  | storageClass => StorageClass.ofJson
  | node => Node.ofJson
  | pod => Pod.ofJson
  | persistentVolumeClaim => PersistentVolumeClaim.ofJson
  | persistentVolume => PersistentVolume.ofJson
  | blockDevice => BlockDevice.ofJson
  | blockDeviceClaim => BlockDeviceClaim.ofJson

/-- The object of a kind that a JSON value describes, none for a value of the wrong shape. -/
def read? (kind : Kind) (j : Json) : Option kind.Object := (kind.schema.normal? j).map kind.ofNormal

/-- An object of a kind as JSON. -/
def write : (kind : Kind) → kind.Object → Json
  | storageClass => StorageClass.toJson
  | node => Node.toJson
  | pod => Pod.toJson
  | persistentVolumeClaim => PersistentVolumeClaim.toJson
  | persistentVolume => PersistentVolume.toJson
  | blockDevice => BlockDevice.toJson
  | blockDeviceClaim => BlockDeviceClaim.toJson

/-- The metadata of an object of a kind. -/
def metadataOf : (kind : Kind) → kind.Object → Metadata
  | storageClass => StorageClass.metadata
  | node => Node.metadata
  | pod => Pod.metadata
  | persistentVolumeClaim => PersistentVolumeClaim.metadata
  | persistentVolume => PersistentVolume.metadata
  | blockDevice => BlockDevice.metadata
  | blockDeviceClaim => BlockDeviceClaim.metadata

end Kind

namespace Api

/-- A call of the API server. Objects outside of namespaces have none. -/
inductive Call where
  /-- The objects in a namespace, or in all, that a label selector matches. -/
  | list (kind : Kind) (ns : Option String) (selector : Option String)
  | get (kind : Kind) (ns : Option String) (name : String)
  | create (kind : Kind) (ns : Option String) (object : kind.Object)
  | replace (kind : Kind) (ns : Option String) (object : kind.Object)
  | delete (kind : Kind) (ns : Option String) (name : String)
  /-- A merge patch. -/
  | patch (kind : Kind) (ns : Option String) (name : String) (change : Json)

namespace Call

/-- What a call gives. -/
@[reducible] def Answer : Call → Type
  | list kind .. => List kind.Object
  | get kind .. => kind.Object
  | create kind .. => kind.Object
  | replace kind .. => kind.Object
  | delete .. => Unit
  | patch kind .. => kind.Object

/-- The verb of a call. -/
def verb : Call → String
  | list .. => "list"
  | get .. => "get"
  | create .. => "create"
  | replace .. => "replace"
  | delete .. => "delete"
  | patch .. => "patch"

/-- The kind that a call is about. -/
def kind : Call → Kind
  | list kind .. => kind
  | get kind .. => kind
  | create kind .. => kind
  | replace kind .. => kind
  | delete kind .. => kind
  | patch kind .. => kind

/-- The namespace that a call names. -/
def ns : Call → Option String
  | list _ ns _ => ns
  | get _ ns _ => ns
  | create _ ns _ => ns
  | replace _ ns _ => ns
  | delete _ ns _ => ns
  | patch _ ns _ _ => ns

/-- The name of the object that a call is about. -/
def name? : Call → Option String
  | list .. => none
  | get _ _ name => some name
  | create kind _ object => some (kind.metadataOf object).nameD
  | replace kind _ object => some (kind.metadataOf object).nameD
  | delete _ _ name => some name
  | patch _ _ name _ => some name

end Call

/-- What comes back from a call. -/
abbrev Reply (c : Call) : Type := Except ApiError c.Answer

end Api
end NodeVolumes
