import NodeVolumes.Object.Metadata
import NodeVolumes.Object.Schema.BlockDevice
import NodeVolumes.Object.Schema.Node
import NodeVolumes.Object.Schema.Pod

/-! # Schemas of whole objects

An object of a kind may say which kind and version it is of, and must not name others. Block devices and
their claims are not asked for either, but need metadata and a specification.

* `Kind.schema` is the schema of the objects of a kind. -/

namespace NodeVolumes.Kind

/-- The members of an object of a kind. -/
def fields : Kind → Schema.Fields
  | storageClass => Schema.storageClassFields
  | node => Schema.may Schema.nodeSpec ["spec"] ++ Schema.may Schema.nodeStatus ["status"]
  | pod => Schema.may Schema.podSpec ["spec"] ++ Schema.may Schema.podStatus ["status"]
  | persistentVolumeClaim =>
    Schema.may Schema.persistentVolumeClaimSpec ["spec"] ++
      Schema.may Schema.persistentVolumeClaimStatus ["status"]
  | persistentVolume =>
    Schema.may Schema.persistentVolumeSpec ["spec"] ++
      Schema.may Schema.persistentVolumeStatus ["status"]
  | blockDevice =>
    Schema.needed Schema.blockDeviceSpec "spec" ++ Schema.may Schema.blockDeviceStatus ["status"]
  | blockDeviceClaim =>
    Schema.needed Schema.blockDeviceClaimSpec "spec" ++
      Schema.may Schema.blockDeviceClaimStatus ["status"]

/-- The members by which an object of a kind says what and which it is. -/
def headFields (kind : Kind) : Schema.Fields :=
  match kind with
  | blockDevice | blockDeviceClaim => Schema.needed Schema.metadata "metadata"
  | _ =>
    Schema.withDefault (.constant kind.apiVersion) "apiVersion" ++
      Schema.withDefault (.constant kind.name) "kind" ++ Schema.must Schema.metadata ["metadata"]

/-- The schema of the objects of a kind. -/
def schema (kind : Kind) : Schema := .object (kind.headFields ++ kind.fields)

end NodeVolumes.Kind
